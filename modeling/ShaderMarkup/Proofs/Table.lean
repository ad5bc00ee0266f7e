import ShaderMarkup.Table

/-!
# What a table holds

A table finds just the entries it holds (`find?_eq_some_iff`).  One that is built from a list of
entries holds nothing but entries of the list, and finds the last entry of a key (`find?_ofList`).
Where no key comes twice, it holds the list (`entries_ofList`).
-/

namespace ShaderMarkup.Table

variable {κ α : Type} [DecidableEq κ]

theorem mem_of_find?_eq_some {table : Table κ α} {key : κ} {value : α}
    (h : table.find? key = some value) : (key, value) ∈ table.entries := by
  obtain ⟨⟨found, content⟩, hfound, rfl⟩ := Option.map_eq_some_iff.mp h
  have hkey : found = key := by simpa using List.find?_some hfound
  exact hkey ▸ List.mem_of_find?_eq_some hfound

theorem find?_of_mem {table : Table κ α} {key : κ} {value : α}
    (hmem : (key, value) ∈ table.entries) : table.find? key = some value := by
  obtain ⟨entries, hentries⟩ := table
  have hfind : entries.find? (fun entry => entry.1 = key) = some (key, value) := by
    induction entries with
    | nil => cases hmem
    | cons entry rest ih =>
        rw [List.map_cons, List.nodup_cons] at hentries
        rcases List.mem_cons.mp hmem with rfl | hmem
        · simp
        · have hne : entry.1 ≠ key := by
            rintro rfl
            exact hentries.1 (List.mem_map.mpr ⟨_, hmem, rfl⟩)
          rw [List.find?_cons_of_neg (by simpa using hne)]
          exact ih hentries.2 hmem
  unfold find?
  rw [hfind]
  rfl

theorem find?_eq_some_iff {table : Table κ α} {key : κ} {value : α} :
    table.find? key = some value ↔ (key, value) ∈ table.entries :=
  ⟨mem_of_find?_eq_some, find?_of_mem⟩

theorem find?_erase (table : Table κ α) (key other : κ) :
    (table.erase key).find? other = if key = other then none else table.find? other := by
  unfold erase find?
  rw [List.find?_filter]
  split
  next h =>
    subst h
    simp
  next h =>
    congr 2
    funext entry
    by_cases hentry : entry.1 = other
    · simp [hentry, Ne.symm h]
    · simp [hentry]

theorem contains_iff {table : Table κ α} {key : κ} :
    table.contains key = true ↔ key ∈ table.entries.map (·.1) := by
  unfold contains
  rw [Option.isSome_iff_exists, List.mem_map]
  constructor
  · rintro ⟨value, hvalue⟩
    exact ⟨_, mem_of_find?_eq_some hvalue, rfl⟩
  · rintro ⟨⟨_, value⟩, hentry, rfl⟩
    exact ⟨value, find?_of_mem hentry⟩

theorem find?_eq_none_iff {table : Table κ α} {key : κ} :
    table.find? key = none ↔ key ∉ table.entries.map (·.1) := by
  rw [← contains_iff, contains, Option.not_isSome_iff_eq_none]

/-- Where every entry gives at most one thing, and the thing tells the key of its entry, those that
tell one key are what the value of the key gives. -/
theorem filter_filterMap_entries {β : Type} {table : Table κ α} {pick : κ × α → Option β}
    {keyOf : β → κ} (hkey : ∀ entry ∈ table.entries, ∀ item ∈ pick entry, keyOf item = entry.1)
    (key : κ) :
    (table.entries.filterMap pick).filter (fun item => keyOf item = key)
      = ((table.find? key).bind fun value => pick (key, value)).toList := by
  obtain ⟨entries, hentries⟩ := table
  unfold find?
  dsimp only at hkey ⊢
  induction entries with
  | nil => rfl
  | cons entry rest ih =>
      rw [List.map_cons, List.nodup_cons] at hentries
      rw [List.forall_mem_cons] at hkey
      have hrest := ih hentries.2 hkey.2
      by_cases hentry : entry.1 = key
      · have habsent : rest.find? (fun other => other.1 = key) = none := by
          rw [List.find?_eq_none]
          intro other hother
          rw [decide_eq_true_eq]
          intro hsame
          exact hentries.1 (List.mem_map.mpr ⟨other, hother, hsame.trans hentry.symm⟩)
        rw [habsent, Option.map_none, Option.bind_none, Option.toList_none] at hrest
        rw [List.find?_cons_of_pos (by simpa using hentry), Option.map_some, Option.bind_some]
        obtain ⟨found, value⟩ := entry
        obtain rfl : found = key := hentry
        cases hpick : pick (found, value) with
        | none => rw [List.filterMap_cons_none hpick, hrest, Option.toList_none]
        | some item =>
            have hitem : keyOf item = found := hkey.1 item hpick
            rw [List.filterMap_cons_some hpick, List.filter_cons_of_pos (by simpa using hitem),
              hrest, Option.toList_some]
      · rw [List.find?_cons_of_neg (by simpa using hentry)]
        cases hpick : pick entry with
        | none => rw [List.filterMap_cons_none hpick, hrest]
        | some item =>
            have hitem : keyOf item ≠ key := by
              rw [hkey.1 item hpick]
              exact hentry
            rw [List.filterMap_cons_some hpick, List.filter_cons_of_neg (by simpa using hitem),
              hrest]

/-! ## Tables of lists -/

theorem mem_put {key : κ} {value : α} {entries : List (κ × α)} {entry : κ × α}
    (h : entry ∈ put key value entries) : entry = (key, value) ∨ entry ∈ entries := by
  induction entries with
  | nil => exact Or.inl (by simpa [put] using h)
  | cons first rest ih =>
      rw [put] at h
      split at h
      · rcases List.mem_cons.mp h with h | h
        · exact Or.inl h
        · exact Or.inr (List.mem_cons_of_mem _ h)
      · rcases List.mem_cons.mp h with rfl | h
        · exact Or.inr List.mem_cons_self
        · exact (ih h).imp_right (List.mem_cons_of_mem _)

theorem mem_entries_ofList {entries : List (κ × α)} {entry : κ × α}
    (h : entry ∈ (ofList entries).entries) : entry ∈ entries := by
  suffices hfold : ∀ table : Table κ α,
      entry ∈ (entries.foldl (fun table entry => table.insert entry.1 entry.2) table).entries →
        entry ∈ table.entries ∨ entry ∈ entries by
    exact (hfold {} h).resolve_left (by simp)
  clear h
  intro table h
  induction entries generalizing table with
  | nil => exact Or.inl h
  | cons first rest ih =>
      rcases ih _ h with h | h
      · rcases mem_put h with rfl | h
        · exact Or.inr List.mem_cons_self
        · exact Or.inl h
      · exact Or.inr (List.mem_cons_of_mem _ h)

/-- Entries with different keys are kept as they are. -/
theorem entries_ofList {entries : List (κ × α)} (h : (entries.map (·.1)).Nodup) :
    (ofList entries).entries = entries := by
  suffices hfold : ∀ table : Table κ α, (table.entries.map (·.1) ++ entries.map (·.1)).Nodup →
      (entries.foldl (fun table entry => table.insert entry.1 entry.2) table).entries
        = table.entries ++ entries by
    exact hfold {} h
  clear h
  intro table h
  induction entries generalizing table with
  | nil => rw [List.foldl_nil, List.append_nil]
  | cons entry rest ih =>
      have hnew : entry.1 ∉ table.entries.map (·.1) := fun hmem =>
        (List.nodup_append.mp h).2.2 _ hmem _ List.mem_cons_self rfl
      have hput : (table.insert entry.1 entry.2).entries = table.entries ++ [entry] :=
        put_of_not_mem hnew entry.2
      rw [List.foldl_cons, ih, hput, List.append_assoc, List.singleton_append]
      rwa [hput, List.map_append, List.append_assoc]

/-- Of several entries of one key the last counts. -/
theorem find?_ofList (entries : List (κ × α)) (key : κ) :
    (ofList entries).find? key = (entries.findRev? fun entry => entry.1 = key).map (·.2) := by
  suffices hfold : ∀ table : Table κ α,
      (entries.foldl (fun table entry => table.insert entry.1 entry.2) table).find? key
        = ((entries.findRev? fun entry => entry.1 = key).map (·.2)).or (table.find? key) by
    exact (hfold {}).trans (Option.or_none ..)
  intro table
  induction entries generalizing table with
  | nil => rfl
  | cons entry rest ih =>
      rw [List.foldl_cons, ih, find?_insert, List.findRev?]
      cases rest.findRev? fun entry => entry.1 = key with
      | some found => rfl
      | none =>
          by_cases hkey : entry.1 = key
          · simp [hkey]
          · simp [hkey]

end ShaderMarkup.Table
