import ShaderMarkup.Proofs.Occurrence
import ShaderMarkup.Proofs.Search

/-!
# Entry decorators among all decorators

`entryCalls` seeks a decorator by the mark of its name, an opening bracket included, and reads it
where the mark stands.  It never goes down into an argument, and yet finds what `walk` finds there:
its calls are the decorators of one pass over the source that the mark is in front of
(`entryCalls_eq`).

The mark and the decorator differ in what may stand in front of the bracket.  For the mark it is
white space of any kind, for the decorator only spaces, tabs and line ends.  So a call of a name can
come without an argument, and a shader can get its kind from it, exactly if there is white space of
another kind in front of the bracket (`argument_eq_none_iff_hasOddGap`).  In a source without such
white space the calls are the decorators of the name that have an argument
(`map_value_places_entryDecorator`).
-/

namespace ShaderMarkup

/-! ## Places of readers that belong together -/

section Places

variable {α β : Type} {offset : Nat} {text : Text}

/-- What the reader reads starts with an `@` and holds no other. -/
def Reader.ReadsOneMark (reader : Reader α) : Prop :=
  ∀ text value rest, reader text = some (value, rest) →
    ∃ written, text = '@' :: (written ++ rest) ∧ '@' ∉ written

theorem Reader.ReadsOneMark.needsMark {reader : Reader α} (h : reader.ReadsOneMark) :
    reader.NeedsMark := by
  intro c rest hc
  cases hread : reader (c :: rest) with
  | none => rfl
  | some result =>
      obtain ⟨value, remaining⟩ := result
      obtain ⟨written, htext, -⟩ := h _ _ _ hread
      cases htext
      exact absurd rfl hc

/-- A search that goes on behind what it has found misses nothing where no mark is read over. -/
theorem searchAll_eq_places {reader : Reader α} (h : reader.ReadsOneMark) (text : Text) :
    searchAll (anywhere reader) text = places reader text := by
  have hadvances : (anywhere reader).Advances := by
    intro before text value rest hread
    obtain ⟨written, rfl, -⟩ := h _ _ _ hread
    exact ⟨'@' :: written, List.cons_ne_nil _ _, rfl⟩
  suffices hhits : ∀ {before pieces} offset, Segmented (anywhere reader) before text pieces →
      hitsFrom offset pieces = placesFrom reader offset text from
    hhits 0 (segmented_segments hadvances text)
  intro before pieces offset hsegmented
  induction hsegmented generalizing offset with
  | nil => rfl
  | @plain before c rest pieces hread hrest ih =>
      have hnone : reader (c :: rest) = none := hread
      rw [hitsFrom, placesFrom_of_none hnone, ih]
  | @hit before value written rest pieces hne hread hrest ih =>
      have hsome : reader (written ++ rest) = some (value, rest) := hread
      obtain ⟨tail, htext, hfree⟩ := h _ _ _ hsome
      obtain rfl : written = '@' :: tail := List.append_cancel_right htext
      have hwidth : ('@' :: (tail ++ rest)).length - rest.length = tail.length + 1 := by
        simp only [List.length_cons, List.length_append]
        omega
      rw [List.cons_append] at hsome ⊢
      rw [hitsFrom, placesFrom_of_some hsome, placesFrom_append_of_free h.needsMark hfree, ih,
        hwidth, List.length_cons, Nat.add_assoc, Nat.add_comm 1]

theorem map_start_placesFrom {first : Reader α} {second : Reader β}
    (h : ∀ text, (first text).isSome = (second text).isSome) (offset : Nat) (text : Text) :
    (placesFrom first offset text).map (·.start)
      = (placesFrom second offset text).map (·.start) := by
  induction text generalizing offset with
  | nil => rfl
  | cons c text ih =>
      have hhere := h (c :: text)
      rw [placesFrom, placesFrom]
      cases hfirst : first (c :: text) <;> cases hsecond : second (c :: text)
      case none.none => exact ih (offset + 1)
      case some.some => exact congrArg (offset :: ·) (ih (offset + 1))
      all_goals simp [hfirst, hsecond] at hhere

/-- A reader that refuses some of the values finds the places of the others. -/
theorem placesFrom_filter {first second : Reader α} (keeps : α → Bool) {text : Text}
    (h : ∀ right, right <:+ text → second right = (first right).filter fun result => keeps result.1)
    (offset : Nat) :
    placesFrom second offset text
      = (placesFrom first offset text).filter fun found => keeps found.value := by
  induction text generalizing offset with
  | nil => rfl
  | cons c text ih =>
      have hbehind := ih (fun right hright => h right (hright.trans (List.suffix_cons c text)))
        (offset + 1)
      have hhere := h (c :: text) List.suffix_rfl
      cases hread : first (c :: text) with
      | none =>
          rw [hread, Option.filter_none] at hhere
          rw [placesFrom_of_none hhere, placesFrom_of_none hread, hbehind]
      | some result =>
          obtain ⟨value, remaining⟩ := result
          rw [hread, Option.filter_some] at hhere
          rw [placesFrom_of_some hread]
          cases hkeeps : keeps value with
          | true =>
              rw [hkeeps, if_pos rfl] at hhere
              rw [placesFrom_of_some hhere, List.filter_cons, if_pos hkeeps, hbehind]
          | false =>
              rw [hkeeps, if_neg (by decide)] at hhere
              rw [placesFrom_of_none hhere, List.filter_cons, if_neg (by simp [hkeeps]), hbehind]

theorem mem_starts_placesFrom_iff {reader : Reader α} (h : reader [] = none) {start : Nat} :
    start ∈ (placesFrom reader offset text).map (·.start) ↔
      offset ≤ start ∧ (reader (text.drop (start - offset))).isSome = true := by
  induction text generalizing offset with
  | nil => simp [placesFrom, h]
  | cons c text ih =>
      have hfirst : start ∈ (placesFrom reader offset (c :: text)).map (·.start) ↔
          start = offset ∧ (reader (c :: text)).isSome = true ∨
            start ∈ (placesFrom reader (offset + 1) text).map (·.start) := by
        cases hread : reader (c :: text) with
        | none => simp [placesFrom_of_none hread]
        | some result => simp [placesFrom_of_some hread]
      rw [hfirst, ih]
      rcases Nat.lt_trichotomy start offset with hlt | rfl | hlt
      · omega
      · rw [Nat.sub_self, List.drop_zero]
        simp only [Nat.le_refl, true_and, or_iff_left_iff_imp]
        omega
      · have hdrop : start - offset = start - (offset + 1) + 1 := by omega
        rw [hdrop, List.drop_succ_cons]
        constructor
        · rintro (⟨rfl, -⟩ | ⟨-, hread⟩)
          · omega
          · exact ⟨Nat.le_of_lt hlt, hread⟩
        · rintro ⟨-, hread⟩
          exact Or.inr ⟨hlt, hread⟩

end Places

/-! ## Marks of a name -/

section Marks

variable {name text rest : Text} {decorator : Decorator}

/-- A mark of a name is an `@`, the name, white space and an opening bracket. -/
theorem entryMark_eq_some_iff {u : Unit} :
    entryMark name text = some (u, rest) ↔
      ∃ gap, text = '@' :: (name ++ (gap ++ '(' :: rest)) ∧ ∀ c ∈ gap, isBlank c = true := by
  unfold entryMark
  simp only [Reader.bind_eq_some_iff, Reader.symbol_eq_some_iff, Reader.exactly_eq_some_iff,
    Reader.notBefore_eq_some_iff, Reader.blanks_eq_some_iff]
  constructor
  · rintro ⟨_, _, rfl, _, _, rfl, _, _, ⟨rfl, -⟩, _, _, ⟨gap, rfl, hgap, -⟩, rfl⟩
    exact ⟨gap, rfl, hgap⟩
  · rintro ⟨gap, rfl, hgap⟩
    refine ⟨(), _, rfl, (), _, rfl, (), _, ⟨rfl, fun c hc => ?_⟩, (), _, ⟨gap, rfl, hgap, ?_⟩, rfl⟩
    · cases gap with
      | nil =>
          cases hc
          decide
      | cons d gap =>
          cases hc
          exact isWord_eq_false_of_isBlank (hgap c List.mem_cons_self)
    · simp
      decide

theorem readsOneMark_entryMark (hname : Reader.IsIdentifier name) :
    (entryMark name).ReadsOneMark := by
  intro text u rest h
  obtain ⟨gap, rfl, hgap⟩ := entryMark_eq_some_iff.mp h
  refine ⟨name ++ (gap ++ ['(']), by simp, ?_⟩
  simp only [List.mem_append, not_or]
  refine ⟨fun hmem => ?_, fun hmem => ?_, by decide⟩
  · exact absurd (hname.isWord '@' hmem) (by decide)
  · exact absurd (hgap '@' hmem) (by decide)

/-- Reads a decorator where a mark of the name stands. -/
def entryDecorator (name : Text) : Reader Decorator :=
  fun text => if (entryMark name text).isSome then Decorator.read text else none

theorem entryDecorator_eq_some_iff :
    entryDecorator name text = some (decorator, rest) ↔
      (entryMark name text).isSome = true ∧ Decorator.read text = some (decorator, rest) := by
  unfold entryDecorator
  split
  next h => rw [h, eq_self_iff_true, true_and]
  next h => simp [h]

theorem isSome_entryDecorator (hname : Reader.IsIdentifier name) (text : Text) :
    (entryDecorator name text).isSome = (entryMark name text).isSome := by
  unfold entryDecorator
  split
  next h =>
    obtain ⟨decorator, rest, hread⟩ := exists_read_of_entryMark hname h
    rw [hread, h]
    rfl
  next h => simpa using h

/-- White space of another kind than the gap in front of a bracket hides the bracket. -/
theorem readArgument_of_oddGap {gap : Text} (hblank : ∀ c ∈ gap, isBlank c = true)
    (hodd : ∃ c ∈ gap, isGap c = false) (name behind : Text) :
    Decorator.readArgument name (gap ++ '(' :: behind)
      = (⟨name, none, true⟩, gap ++ '(' :: behind) := by
  cases hrest : gap.dropWhile isGap with
  | nil =>
      obtain ⟨c, hc, hgap⟩ := hodd
      rw [List.dropWhile_eq_nil_iff.mp hrest c hc] at hgap
      cases hgap
  | cons c more =>
      have hc : c ≠ '(' := by
        have hmem : c ∈ gap :=
          (List.dropWhile_suffix isGap).mem (by rw [hrest]; exact List.mem_cons_self)
        rintro rfl
        exact absurd (hblank '(' hmem) (by decide)
      unfold Decorator.readArgument
      rw [dropWhile_append_of_ne_nil (by rw [hrest]; exact List.cons_ne_nil c more), hrest]
      split
      next body heq =>
        cases heq
        exact absurd rfl hc
      next => rfl

/-- The decorator that is read at a mark has no argument exactly if there is white space of another
kind than the gap in front of its bracket. -/
theorem argument_eq_none_iff_of_mark {gap behind : Text} (hname : Reader.IsIdentifier name)
    (hblank : ∀ c ∈ gap, isBlank c = true)
    (hread : Decorator.read ('@' :: (name ++ (gap ++ '(' :: behind))) = some (decorator, rest)) :
    decorator.name = name ∧ (decorator.argument = none ↔ ∃ c ∈ gap, isGap c = false) := by
  have hidentifier : Reader.identifier (name ++ (gap ++ '(' :: behind))
      = some (name, gap ++ '(' :: behind) := by
    refine Reader.identifier_eq_some_iff.mpr ⟨hname, rfl, fun c hc => ?_⟩
    cases gap with
    | nil =>
        cases hc
        decide
    | cons d gap =>
        cases hc
        exact isWord_eq_false_of_isBlank (hblank c List.mem_cons_self)
  simp only [Decorator.read, hidentifier, Option.some.injEq] at hread
  by_cases hodd : ∃ c ∈ gap, isGap c = false
  · rw [readArgument_of_oddGap hblank hodd] at hread
    cases hread
    simp [hodd]
  · have hgap : ∀ c ∈ gap, isGap c = true := by simpa using hodd
    rw [Decorator.readArgument, List.dropWhile_append_of_pos hgap,
      List.dropWhile_cons_of_neg (by decide)] at hread
    split at hread
    next body heq => split at hread <;> cases hread <;> simp [hodd]
    next hne => exact absurd rfl (hne behind)

/-- Whether the decorator has the name, and an argument. -/
def Decorator.isFilledAs (name : Text) (decorator : Decorator) : Bool :=
  decorator.name = name && decorator.argument.isSome

theorem Decorator.isFilledAs_iff :
    decorator.isFilledAs name = true ↔
      decorator.name = name ∧ ∃ argument, decorator.argument = some argument := by
  rw [isFilledAs, Bool.and_eq_true, decide_eq_true_eq, Option.isSome_iff_exists]

/-- Where all white space is gap, a mark of the name stands in front of its decorators that have an
argument. -/
theorem entryDecorator_eq_filter (hname : Reader.IsIdentifier name)
    (hgap : ∀ c ∈ text, isBlank c = true → isGap c = true) :
    entryDecorator name text
      = (Decorator.read text).filter fun result => result.1.isFilledAs name := by
  unfold entryDecorator
  cases hread : Decorator.read text with
  | none => simp
  | some result =>
      obtain ⟨decorator, rest⟩ := result
      rw [Option.filter_some]
      refine if_congr (Iff.trans ?_ Decorator.isFilledAs_iff.symm) rfl rfl
      constructor
      · intro hmark
        obtain ⟨⟨u, behind⟩, hmark⟩ := Option.isSome_iff_exists.mp hmark
        obtain ⟨gap, rfl, hblank⟩ := entryMark_eq_some_iff.mp hmark
        obtain ⟨hsame, hbare⟩ := argument_eq_none_iff_of_mark hname hblank hread
        refine ⟨hsame, Option.ne_none_iff_exists'.mp fun hnone => ?_⟩
        obtain ⟨c, hc, hodd⟩ := hbare.mp hnone
        rw [hgap c (by simp [hc]) (hblank c hc)] at hodd
        cases hodd
      · rintro ⟨rfl, argument, hargument⟩
        obtain ⟨gap, behind, rfl, hspaces, -⟩ := Decorator.exists_of_read_filled hread hargument
        have hblank : ∀ c ∈ gap, isBlank c = true := fun c hc => isBlank_of_isGap (hspaces c hc)
        rw [(entryMark_eq_some_iff (u := ())).mpr ⟨gap, rfl, hblank⟩]
        rfl

end Marks

/-! ## Calls -/

section Calls

variable {code name : Text}

theorem entryMarks_eq (hname : Reader.IsIdentifier name) :
    entryMarks code name = (places (entryDecorator name) code).map (·.start) := by
  rw [entryMarks, searchAll_eq_places (readsOneMark_entryMark hname)]
  exact map_start_placesFrom (fun text => (isSome_entryDecorator hname text).symm) 0 code

theorem callFrom?_of_mem_places {call : Call} (h : call ∈ places (entryDecorator name) code) :
    callFrom? code call.start = some call := by
  obtain ⟨rest, hread, hstop⟩ := read_of_mem_places h
  have hfirst : anywhere Decorator.read none (code.drop call.start) = some (call.value, rest) :=
    (entryDecorator_eq_some_iff.mp hread).2
  rw [callFrom?, search, searchFrom_of_some hfirst, Option.map_some, Nat.add_zero, Nat.zero_add,
    ← hstop]

/-- The calls of a name are the decorators that are read at its marks. -/
theorem entryCalls_eq (hname : Reader.IsIdentifier name) :
    entryCalls code name = .ok (places (entryDecorator name) code) := by
  have hplain : isPlainName name = true := by
    rw [isPlainName, Bool.and_eq_true, List.all_eq_true]
    exact ⟨by simpa using hname.ne_nil, hname.isWord⟩
  have hmarks : namedMarks code name
      = .ok ((places (entryDecorator name) code).map fun call => some call.start) := by
    rw [namedMarks, if_pos hplain, entryMarks_eq hname, List.map_map]
    rfl
  rw [entryCalls, hmarks, bind_ok, mapM_eq_ok_iff, List.forall₂_map_left_iff, List.forall₂_same]
  intro call hcall
  rw [Option.map_some, callFrom?_of_mem_places hcall]

theorem entryCall?_eq {name : String} (hname : Reader.IsIdentifier name.toList) :
    entryCall? code name = (places (entryDecorator name.toList) code).head? := by
  rw [entryCall?, entryMarks_eq hname]
  cases hplaces : places (entryDecorator name.toList) code with
  | nil => rfl
  | cons call others => exact callFrom?_of_mem_places (by rw [hplaces]; exact List.mem_cons_self)

/-- In a source without other white space than gaps the calls of a name are its decorators with an
argument. -/
theorem map_value_places_entryDecorator (hname : Reader.IsIdentifier name)
    (hgap : ∀ c ∈ code, isBlank c = true → isGap c = true) :
    (places (entryDecorator name) code).map (·.value)
      = ((walk code).map (·.value)).filter (Decorator.isFilledAs name) := by
  have hplaces : places (entryDecorator name) code
      = (places Decorator.read code).filter fun call => call.value.isFilledAs name :=
    placesFrom_filter (Decorator.isFilledAs name) (fun right hright =>
      entryDecorator_eq_filter hname fun c hc => hgap c (hright.mem hc)) 0
  have hvalues : (walk code).map (·.value) = (places Decorator.read code).map (·.value) := by
    have hextents := congrArg (List.map Prod.fst) (map_callExtent_walk code)
    rw [List.map_map, List.map_map] at hextents
    exact hextents
  rw [hplaces, hvalues, List.filter_map]
  rfl

/-- The text of the call is its decorator as it is written: the name, a gap and the argument between
brackets.  Without a closing bracket it goes to the end of the source. -/
def IsInvocation (code : Text) (call : Call) : Prop :=
  ∃ gap argument close, call.value.argument = some argument ∧
    callText code call = '@' :: (call.value.name ++ (gap ++ '(' :: (argument ++ close))) ∧
    (∀ c ∈ gap, isGap c = true) ∧
    (call.value.balanced = true ∧ (∃ c, close = [c] ∧ isClosing c = true) ∨
      call.value.balanced = false ∧ close = [] ∧ call.stop = code.length)

theorem isInvocation_of_mem_places {call : Call} (hmem : call ∈ places (entryDecorator name) code)
    (hargument : call.value.argument ≠ none) : IsInvocation code call := by
  obtain ⟨argument, hargument⟩ := Option.ne_none_iff_exists'.mp hargument
  obtain ⟨rest, hread, hstop⟩ := read_of_mem_places hmem
  have hread := (entryDecorator_eq_some_iff.mp hread).2
  obtain ⟨gap, behind, htext, hgap, hbehind⟩ := Decorator.exists_of_read_filled hread hargument
  have hcut : callText code call
      = (code.drop call.start).take ((code.drop call.start).length - rest.length) := by
    rw [callText, List.drop_take, hstop, Nat.add_sub_cancel_left]
  rcases hbehind with ⟨hbalanced, ⟨close, rfl, hclose⟩, -⟩ | ⟨hbalanced, rfl, rfl⟩
  · refine ⟨gap, argument, [close], hargument, ?_, hgap, Or.inl ⟨hbalanced, close, rfl, hclose⟩⟩
    have hsplit : code.drop call.start
        = '@' :: (call.value.name ++ (gap ++ '(' :: (argument ++ [close]))) ++ rest := by
      rw [htext]
      simp
    rw [hcut, hsplit, List.length_append, Nat.add_sub_cancel, List.take_left]
  · refine ⟨gap, argument, [], hargument, ?_, hgap, Or.inr ⟨hbalanced, rfl, ?_⟩⟩
    · rw [hcut, List.length_nil, Nat.sub_zero, List.take_length, htext]
    · have hpos : 0 < (code.drop call.start).length := by
        rw [htext]
        exact Nat.succ_pos _
      rw [List.length_drop] at hpos
      rw [hstop, List.length_drop, List.length_nil]
      omega

theorem getElem?_start_of_mem_places {call : Call}
    (hmem : call ∈ places (entryDecorator name) code) : code[call.start]? = some '@' := by
  obtain ⟨rest, hread, -⟩ := read_of_mem_places hmem
  obtain ⟨behind, htext, -⟩ := Decorator.exists_name_of_read (entryDecorator_eq_some_iff.mp hread).2
  rw [← List.head?_drop, htext]
  rfl

/-- In a source whose only white space is spaces, tabs and line ends, the calls of a name are the
decorators of the name with an argument, at whatever depth, and each stands where it says. -/
theorem entryCalls_eq_walked (hname : Reader.IsIdentifier name)
    (hgap : ∀ c ∈ code, isBlank c = true → isGap c = true) :
    ∃ found, entryCalls code name = .ok found ∧
      found.map (·.value) = ((walk code).map (·.value)).filter (Decorator.isFilledAs name) ∧
      ∀ call ∈ found, code[call.start]? = some '@' ∧ IsInvocation code call := by
  have hvalues := map_value_places_entryDecorator hname hgap
  refine ⟨_, entryCalls_eq hname, hvalues, fun call hmem => ?_⟩
  refine ⟨getElem?_start_of_mem_places hmem, isInvocation_of_mem_places hmem ?_⟩
  have hfilled : call.value ∈ ((walk code).map (·.value)).filter (Decorator.isFilledAs name) := by
    rw [← hvalues]
    exact List.mem_map_of_mem hmem
  obtain ⟨-, argument, hargument⟩ := Decorator.isFilledAs_iff.mp (List.mem_filter.mp hfilled).2
  rw [hargument]
  exact Option.some_ne_none argument

end Calls

/-- Decorators of one name in arguments that close and in arguments that do not. -/
def nestedSizes : Text :=
  "@uniform(@size(1) @size ]\n@buffer \r\n(@size\t(@size(2\x7d 3".toList

theorem entryCalls_eq_walked_nestedSizes :
    (∀ c ∈ nestedSizes, isBlank c = true → isGap c = true) ∧
    ∃ found, entryCalls nestedSizes "size".toList = .ok found ∧
      found.map (·.value) = [⟨"size".toList, some "1".toList, true⟩,
        ⟨"size".toList, some "@size(2\x7d 3".toList, false⟩,
        ⟨"size".toList, some "2".toList, true⟩] ∧
      ∀ call ∈ found, nestedSizes[call.start]? = some '@' ∧ IsInvocation nestedSizes call := by
  have hgap : ∀ c ∈ nestedSizes, isBlank c = true → isGap c = true := by decide +kernel
  obtain ⟨found, hfound, hvalues, hplaces⟩ :=
    entryCalls_eq_walked ⟨'s', "ize".toList, rfl, by decide, by decide⟩ hgap
  refine ⟨hgap, found, hfound, ?_, hplaces⟩
  rw [hvalues]
  decide +kernel

/-! ## Odd gaps -/

/-- At the offset stand an `@`, the name, the gap, which is white space of any kind, and an opening
bracket. -/
def OpensAt (code name gap : Text) (start : Nat) : Prop :=
  (∃ behind, code.drop start = '@' :: (name ++ (gap ++ '(' :: behind))) ∧
    ∀ c ∈ gap, isBlank c = true

/-- In front of the bracket of a call stands white space that is neither a space nor a tab nor the
end of a line. -/
def HasOddGap (code : Text) (call : Call) : Prop :=
  ∃ gap, OpensAt code call.value.name gap call.start ∧ ∃ c ∈ gap, isGap c = false

section OddGaps

variable {code name : Text}

theorem mem_starts_iff_opensAt (hname : Reader.IsIdentifier name) {start : Nat} :
    start ∈ (places (entryDecorator name) code).map (·.start) ↔
      ∃ gap, OpensAt code name gap start := by
  have hmark : (entryMark name (code.drop start)).isSome = true ↔
      ∃ gap, OpensAt code name gap start := by
    rw [Option.isSome_iff_exists]
    constructor
    · rintro ⟨⟨u, behind⟩, h⟩
      obtain ⟨gap, htext, hgap⟩ := entryMark_eq_some_iff.mp h
      exact ⟨gap, ⟨behind, htext⟩, hgap⟩
    · rintro ⟨gap, ⟨behind, htext⟩, hgap⟩
      exact ⟨((), behind), entryMark_eq_some_iff.mpr ⟨gap, htext, hgap⟩⟩
  have hempty : entryDecorator name [] = none := rfl
  rw [places, mem_starts_placesFrom_iff hempty, Nat.sub_zero, isSome_entryDecorator hname, hmark]
  simp

theorem argument_eq_none_iff_hasOddGap (hname : Reader.IsIdentifier name) {call : Call}
    (hmem : call ∈ places (entryDecorator name) code) :
    call.value.name = name ∧ (call.value.argument = none ↔ HasOddGap code call) := by
  obtain ⟨rest, hread, -⟩ := read_of_mem_places hmem
  obtain ⟨hmark, hread⟩ := entryDecorator_eq_some_iff.mp hread
  obtain ⟨⟨u, behind⟩, hmark⟩ := Option.isSome_iff_exists.mp hmark
  obtain ⟨gap, htext, hgap⟩ := entryMark_eq_some_iff.mp hmark
  have hbare {gap behind : Text}
      (htext : code.drop call.start = '@' :: (name ++ (gap ++ '(' :: behind)))
      (hgap : ∀ c ∈ gap, isBlank c = true) :
      call.value.name = name ∧ (call.value.argument = none ↔ ∃ c ∈ gap, isGap c = false) :=
    argument_eq_none_iff_of_mark hname hgap (htext ▸ hread)
  obtain ⟨hsame, hnone⟩ := hbare htext hgap
  refine ⟨hsame, fun h => ?_, fun ⟨other, ⟨⟨behind', htext'⟩, hgap'⟩, hodd⟩ => ?_⟩
  · exact ⟨gap, ⟨⟨behind, by rw [hsame, htext]⟩, hgap⟩, hnone.mp h⟩
  · exact (hbare (by rw [htext', hsame]) hgap').2.mpr hodd

/-- A shader gets its kind from the first call of the kind's name. -/
theorem exists_call_of_shaderKind {kind : ShaderKind} (h : shaderKind code = .ok kind)
    (hkind : kind ≠ .resource) :
    Reader.IsIdentifier kind.name ∧
      ∃ call others, places (entryDecorator kind.name) code = call :: others := by
  have hcompute : Reader.IsIdentifier "compute".toList :=
    isIdentifier_of_mem_entryWords (by decide)
  have hfragment : Reader.IsIdentifier "fragment".toList :=
    isIdentifier_of_mem_entryWords (by decide)
  unfold shaderKind at h
  split at h
  next => cases h
  next _ _ call hcall _ =>
    cases h
    rw [entryCall?_eq hcompute] at hcall
    exact ⟨hcompute, call, List.head?_eq_some_iff.mp hcall⟩
  next _ _ call _ hcall =>
    cases h
    rw [entryCall?_eq hfragment] at hcall
    exact ⟨hfragment, call, List.head?_eq_some_iff.mp hcall⟩
  next =>
    cases h
    exact absurd rfl hkind

/-- The calls of a name stand at its marks and have the name.  Such a call, and the call that makes
a shader a compute or a fragment shader, has no argument exactly if its gap is odd. -/
theorem entryCalls_bare_iff (code : Text) :
    (∀ name, Reader.IsIdentifier name → ∃ found, entryCalls code name = .ok found ∧
      (∀ start, start ∈ found.map (·.start) ↔ ∃ gap, OpensAt code name gap start) ∧
      ∀ call ∈ found, call.value.name = name ∧
        (call.value.argument = none ↔ HasOddGap code call)) ∧
    ∀ kind, shaderKind code = .ok kind → kind ≠ .resource →
      ∃ call others, entryCalls code kind.name = .ok (call :: others) ∧
        (call.value.argument = none ↔ HasOddGap code call) := by
  constructor
  · intro name hname
    exact ⟨_, entryCalls_eq hname, fun start => mem_starts_iff_opensAt hname,
      fun call hmem => argument_eq_none_iff_hasOddGap hname hmem⟩
  · intro kind hkind hresource
    obtain ⟨hname, call, others, hcalls⟩ := exists_call_of_shaderKind hkind hresource
    refine ⟨call, others, by rw [entryCalls_eq hname, hcalls], ?_⟩
    exact (argument_eq_none_iff_hasOddGap hname (by rw [hcalls]; exact List.mem_cons_self)).2

end OddGaps

/-- A stage with a no-break space in front of its bracket. -/
def noBreakStage : Text :=
  "@compute\u00a0(4) fn main() \x7b \x7d".toList

theorem entryCalls_bare_iff_noBreakStage :
    shaderKind noBreakStage = .ok .compute ∧
    ∃ call others, entryCalls noBreakStage ShaderKind.compute.name = .ok (call :: others) ∧
      (call.value.argument = none ↔ HasOddGap noBreakStage call) := by
  have hkind : shaderKind noBreakStage = .ok .compute := eq_ok_of_toOption (by decide +kernel)
  exact ⟨hkind, (entryCalls_bare_iff noBreakStage).2 .compute hkind (by decide)⟩

/-- The stage is bare for whoever reads the decorators of the source, and still makes the shader a
compute shader. -/
theorem bare_stage_selects_kind :
    entryCalls noBreakStage "compute".toList = .ok [⟨⟨"compute".toList, none, true⟩, 0, 8⟩] ∧
    (calls noBreakStage).map (·.value) = [⟨"compute".toList, none, true⟩] ∧
    shaderKind noBreakStage = .ok .compute :=
  ⟨eq_ok_of_toOption (by decide +kernel), by decide +kernel, eq_ok_of_toOption (by decide +kernel)⟩

end ShaderMarkup
