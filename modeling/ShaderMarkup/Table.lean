/-!
# Tables

A table keeps its keys in the order in which they were first given, each once.  Putting a key again
replaces its value and leaves it where it stands.
-/

namespace ShaderMarkup

/-- Keys with their values, in order of first appearance. -/
structure Table (κ α : Type) where
  entries : List (κ × α) := []
  nodup : (entries.map (·.1)).Nodup := by exact List.nodup_nil
deriving DecidableEq

namespace Table

variable {κ α β : Type} [DecidableEq κ]

/-- Sets the value of a key that is there, or adds the key at the end. -/
def put (key : κ) (value : α) : List (κ × α) → List (κ × α)
  | [] => [(key, value)]
  | entry :: rest => if entry.1 = key then (key, value) :: rest else entry :: put key value rest

theorem put_of_not_mem {key : κ} {entries : List (κ × α)} (h : key ∉ entries.map (·.1))
    (value : α) : put key value entries = entries ++ [(key, value)] := by
  induction entries with
  | nil => rfl
  | cons entry rest ih =>
      rw [List.map_cons, List.mem_cons, not_or] at h
      rw [put, if_neg (Ne.symm h.1), ih h.2, List.cons_append]

theorem keys_put_of_mem {key : κ} {entries : List (κ × α)} (h : key ∈ entries.map (·.1))
    (value : α) : (put key value entries).map (·.1) = entries.map (·.1) := by
  induction entries with
  | nil => cases h
  | cons entry rest ih =>
      rw [put]
      split
      next hentry => simp [hentry]
      next hentry =>
        rw [List.map_cons, List.mem_cons] at h
        rw [List.map_cons, ih (h.resolve_left (Ne.symm hentry)), List.map_cons]

theorem nodup_keys_put {key : κ} {value : α} {entries : List (κ × α)}
    (h : (entries.map (·.1)).Nodup) : ((put key value entries).map (·.1)).Nodup := by
  by_cases hkey : key ∈ entries.map (·.1)
  · rwa [keys_put_of_mem hkey]
  · rw [put_of_not_mem hkey, List.map_append, List.map_singleton]
    refine List.nodup_append.mpr ⟨h, by simp, fun other hother last hlast heq => hkey ?_⟩
    rw [heq, List.mem_singleton.mp hlast] at hother
    exact hother

/-- Sets the value of a key; a new key comes last. -/
def insert (table : Table κ α) (key : κ) (value : α) : Table κ α :=
  ⟨put key value table.entries, nodup_keys_put table.nodup⟩

/-- The value of a key. -/
def find? (table : Table κ α) (key : κ) : Option α :=
  (table.entries.find? fun entry => entry.1 = key).map (·.2)

theorem find?_put (key other : κ) (value : α) (entries : List (κ × α)) :
    ((put key value entries).find? fun entry => entry.1 = other).map (·.2)
      = if key = other then some value
        else (entries.find? fun entry => entry.1 = other).map (·.2) := by
  induction entries with
  | nil => by_cases h : key = other <;> simp [put, h]
  | cons entry rest ih =>
      rw [put]
      split
      next hentry => by_cases h : key = other <;> simp [hentry, h]
      next hentry =>
        by_cases hother : entry.1 = other
        · have hne : key ≠ other := fun h => hentry (hother.trans h.symm)
          simp [hother, hne]
        · simpa [hother] using ih

@[simp] theorem find?_insert (table : Table κ α) (key other : κ) (value : α) :
    (table.insert key value).find? other
      = if key = other then some value else table.find? other :=
  find?_put key other value table.entries

/-- Whether the key has a value. -/
def contains (table : Table κ α) (key : κ) : Bool :=
  (table.find? key).isSome

/-- Sets the value of a key that has none yet. -/
def insertNew (table : Table κ α) (key : κ) (value : α) : Table κ α :=
  if table.contains key then table else table.insert key value

/-- The table without the key. -/
def erase (table : Table κ α) (key : κ) : Table κ α :=
  ⟨table.entries.filter fun entry => entry.1 ≠ key,
    (List.filter_sublist.map _).nodup table.nodup⟩

/-- The table of a list of entries, where a later value of a key replaces an earlier one. -/
def ofList (entries : List (κ × α)) : Table κ α :=
  entries.foldl (fun table entry => table.insert entry.1 entry.2) {}

/-- The table of a list of entries, where the first value of a key stays. -/
def ofListNew (entries : List (κ × α)) : Table κ α :=
  entries.foldl (fun table entry => table.insertNew entry.1 entry.2) {}

/-- The keys in order. -/
def keys (table : Table κ α) : List κ :=
  table.entries.map (·.1)

/-- The values in the order of their keys. -/
def values (table : Table κ α) : List α :=
  table.entries.map (·.2)

end Table

end ShaderMarkup
