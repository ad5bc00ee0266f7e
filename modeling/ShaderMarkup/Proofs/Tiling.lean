import ShaderMarkup.Entry.Call
import ShaderMarkup.Proofs.Nesting
import ShaderMarkup.Proofs.Occurrence
import ShaderMarkup.Proofs.Range

/-!
# Decorators as a tiling

Whatever a text looks like, `calls` cuts it at fixed places: into decorators, one behind the other,
and into stretches in which no decorator starts.  `IsTiling` says so in terms of places and counts
of brackets, without the scan:

* how a decorator is written (`Decorator.WrittenAs`), with an argument whose brackets come out even
  or with one that is never closed;
* that only the last one can stay unclosed, and then it goes to the end of the text;
* that a decorator without an argument could not have one, and that no `@` with a name stands
  outside.

At each range of a tiling the decorator is read as it is written (`IsTiling.read`).  So two tilings
of a text agree where their ranges start together, and there is only one (`IsTiling.eq`).
-/

namespace ShaderMarkup

/-! ## Brackets of an argument -/

/-- As many brackets open as close, and no front of the text closes more than it opens. -/
structure IsPaired (text : Text) : Prop where
  countP_eq : text.countP isOpening = text.countP isClosing
  countP_le : ∀ front, front <+: text → front.countP isClosing ≤ front.countP isOpening

/-- The depth behind a front of the text is zero for the empty front only. -/
def NeverCloses (text : Text) : Prop :=
  ∀ front, front <+: text → front ≠ [] → nesting isOpening isClosing front ≠ 0

section Brackets

variable {depth reached : Int} {text : Text}

theorem depthBehind_cons (hdepth : 1 ≤ depth) (c : Char) (rest : Text) :
    depthBehind depth (c :: rest)
      = if depthAfter isOpening isClosing depth c = 0 then none
        else depthBehind (depthAfter isOpening isClosing depth c) rest := by
  unfold depthAfter
  rw [depthBehind]
  split
  next => rw [if_neg (by omega)]
  next =>
    split
    next => exact if_congr (by omega) rfl rfl
    next => rw [if_neg (by omega)]

/-- The depth behind a text counts its brackets, and it has stayed above zero. -/
theorem depthBehind_eq_some_iff (hdepth : 1 ≤ depth) :
    depthBehind depth text = some reached ↔
      reached = depth + nesting isOpening isClosing text ∧
        ∀ front, front <+: text → 1 ≤ depth + nesting isOpening isClosing front := by
  have hcount (depth : Int) (c : Char) (front : Text) :=
    @depthAfter_add_nesting _ _ depth isClosing_eq_false_of_isOpening c front
  induction text generalizing depth with
  | nil =>
      rw [depthBehind, Option.some.injEq, nesting_nil, Int.add_zero]
      constructor
      · rintro rfl
        refine ⟨rfl, fun front hfront => ?_⟩
        rw [List.prefix_nil.mp hfront]
        simpa using hdepth
      · exact fun h => h.1.symm
  | cons c text ih =>
      rw [depthBehind_cons hdepth]
      split
      next hzero =>
        refine iff_of_false (by simp) fun h => ?_
        have hfront := h.2 [c] ⟨text, rfl⟩
        rw [← hcount, hzero] at hfront
        cases hfront
      next hzero =>
        refine (ih (one_le_depthAfter hdepth hzero)).trans ?_
        rw [hcount]
        refine and_congr_right fun _ => ⟨fun h front hfront => ?_, fun h front hfront => ?_⟩
        · rcases List.prefix_cons_iff.mp hfront with rfl | ⟨inner, rfl, hinner⟩
          · simpa using hdepth
          · rw [← hcount]
            exact h inner hinner
        · rw [hcount]
          exact h (c :: front) (List.cons_prefix_cons.mpr ⟨rfl, hfront⟩)

theorem isPaired_iff : IsPaired text ↔ depthBehind 1 text = some 1 := by
  rw [depthBehind_eq_some_iff (Int.le_refl 1)]
  unfold nesting
  constructor
  · intro h
    refine ⟨?_, fun front hfront => ?_⟩
    · have := h.countP_eq
      omega
    · have := h.countP_le front hfront
      omega
  · rintro ⟨heq, hle⟩
    refine ⟨?_, fun front hfront => ?_⟩
    · omega
    · have := hle front hfront
      omega

theorem nesting_bracket_cons (text : Text) :
    nesting isOpening isClosing ('(' :: text) = 1 + nesting isOpening isClosing text := by
  rw [← Int.zero_add (nesting _ _ ('(' :: text)),
    ← depthAfter_add_nesting isClosing_eq_false_of_isOpening]
  rfl

theorem neverCloses_iff :
    NeverCloses ('(' :: text) ↔ closingFrom isOpening isClosing 1 text = none := by
  constructor
  · intro h
    by_contra hsome
    obtain ⟨offset, hclosing⟩ := Option.ne_none_iff_exists'.mp hsome
    obtain ⟨inside, close, rest, rfl, -, -, hclosed, -⟩ :=
      exists_of_closingFrom_eq_some isClosing_eq_false_of_isOpening (Int.le_refl 1) hclosing
    refine h ('(' :: (inside ++ [close])) ⟨rest, by simp⟩ (List.cons_ne_nil _ _) ?_
    rw [nesting_bracket_cons, hclosed]
  · intro hnone front hfront hne
    obtain ⟨inner, rfl, hinner⟩ := (List.prefix_cons_iff.mp hfront).resolve_left hne
    have := nesting_of_closingFrom_eq_none isClosing_eq_false_of_isOpening (Int.le_refl 1) hnone
      hinner
    rw [nesting_bracket_cons]
    omega

end Brackets

/-! ## Written decorators -/

namespace Decorator

/-- How a decorator is written: an `@` and its name, and behind them, if it has an argument, a gap,
a bracket, the argument and the bracket that closes it, unless that one is missing. -/
inductive WrittenAs : Decorator → Text → Prop
  | bare {name : Text} (hname : Reader.IsIdentifier name) :
      WrittenAs ⟨name, none, true⟩ ('@' :: name)
  | closed {name gap argument : Text} {close : Char} (hname : Reader.IsIdentifier name)
      (hgap : ∀ c ∈ gap, isGap c = true) (hargument : IsPaired argument)
      (hclose : isClosing close = true) :
      WrittenAs ⟨name, some argument, true⟩
        ('@' :: (name ++ (gap ++ '(' :: (argument ++ [close]))))
  | unclosed {name gap argument : Text} (hname : Reader.IsIdentifier name)
      (hgap : ∀ c ∈ gap, isGap c = true) (hargument : NeverCloses ('(' :: argument)) :
      WrittenAs ⟨name, some argument, false⟩ ('@' :: (name ++ (gap ++ '(' :: argument)))

theorem read_unclosed {name gap argument : Text} (hname : Reader.IsIdentifier name)
    (hgap : ∀ c ∈ gap, isGap c = true)
    (hargument : closingFrom isOpening isClosing 1 argument = none) :
    Decorator.read ('@' :: (name ++ (gap ++ '(' :: argument)))
      = some (⟨name, some argument, false⟩, []) := by
  have hidentifier : Reader.identifier (name ++ (gap ++ '(' :: argument))
      = some (name, gap ++ '(' :: argument) :=
    Reader.identifier_eq_some_iff.mpr ⟨hname, rfl, head?_gap_bracket hgap _⟩
  have hopen : closingBracket? ('(' :: argument) = none := by
    rw [closingBracket?, closingFrom, if_pos (by decide), Int.zero_add, hargument, Option.map_none]
  have hread : readArgument name (gap ++ '(' :: argument) = (⟨name, some argument, false⟩, []) := by
    rw [readArgument, List.dropWhile_append_of_pos hgap, List.dropWhile_cons_of_neg (by decide)]
    simp only [hopen]
  simp only [Decorator.read, hidentifier, hread]

namespace WrittenAs

variable {decorator : Decorator} {written rest : Text}

/-- What is written is read back. -/
theorem read (h : decorator.WrittenAs written) (hbare : decorator.argument = none → EndsName rest)
    (hunclosed : decorator.balanced = false → rest = []) :
    Decorator.read (written ++ rest) = some (decorator, rest) := by
  cases h with
  | bare hname => exact (Spelled.bare hname).read hbare
  | closed hname hgap hargument hclose =>
      exact (Spelled.filled hname hgap (isPaired_iff.mp hargument) hclose).read hbare
  | unclosed hname hgap hargument =>
      cases hunclosed rfl
      rw [List.append_nil]
      exact read_unclosed hname hgap (neverCloses_iff.mp hargument)

/-- A decorator starts with an `@` and the first character of its name. -/
theorem exists_mark (h : decorator.WrittenAs written) :
    ∃ c tail, written = '@' :: c :: tail ∧ isNameStart c = true := by
  cases h with
  | bare hname | closed hname _ _ _ | unclosed hname _ _ =>
      obtain ⟨c, tail, rfl, hc, -⟩ := hname
      exact ⟨c, _, rfl, hc⟩

/-- A decorator that is closed ends with its name or a bracket. -/
theorem getLast?_ne_mark (h : decorator.WrittenAs written) (hbalanced : decorator.balanced = true) :
    written.getLast? ≠ some '@' := by
  cases h with
  | @bare name hname =>
      rw [List.getLast?_cons_of_ne_nil hname.ne_nil]
      intro hlast
      exact absurd (hname.isWord '@' (List.mem_of_getLast? hlast)) (by decide)
  | @closed name gap argument close _ _ _ hclose =>
      have hwhole : '@' :: (name ++ (gap ++ '(' :: (argument ++ [close])))
          = ('@' :: (name ++ (gap ++ '(' :: argument))) ++ [close] := by simp
      rw [hwhole, List.getLast?_concat]
      rintro ⟨⟩
      cases hclose
  | unclosed => cases hbalanced

end WrittenAs

theorem writtenAs_of_read {written rest : Text} {decorator : Decorator}
    (h : Decorator.read (written ++ rest) = some (decorator, rest)) :
    decorator.WrittenAs written := by
  cases hbalanced : decorator.balanced with
  | true =>
      obtain ⟨spelled, hsplit, hspelled⟩ := spelled_of_read h hbalanced
      obtain rfl : written = spelled := List.append_cancel_right hsplit
      cases hspelled with
      | bare hname => exact .bare hname
      | filled hname hgap hargument hclose =>
          exact .closed hname hgap (isPaired_iff.mpr hargument) hclose
  | false =>
      obtain ⟨name, gap, argument, htext, rfl, rfl, hname, hgap, hopen⟩ :=
        unclosed_of_read h hbalanced
      rw [List.append_nil] at htext
      rw [htext]
      exact .unclosed hname hgap (neverCloses_iff.mpr hopen)

/-- A decorator is read wherever an `@` and a name stand. -/
theorem read_mark_ne_none {c : Char} (hc : isNameStart c = true) (rest : Text) :
    Decorator.read ('@' :: c :: rest) ≠ none := by
  simp [Decorator.read, Reader.identifier, hc]

end Decorator

/-! ## Tilings -/

/-- The calls are the decorators of the text that stand in no other one. -/
structure IsTiling (text : Text) (found : List Call) : Prop where
  inOrder : InOrder Found.start Found.stop found
  stop_le : ∀ call ∈ found, call.stop ≤ text.length
  writtenAs : ∀ call ∈ found, call.value.WrittenAs (callText text call)
  -- Neither the name nor the decorator goes on behind a call without an argument.
  endsName : ∀ call ∈ found, call.value.argument = none → EndsName (text.drop call.stop)
  balanced : ∀ call ∈ found.dropLast, call.value.balanced = true
  stop_eq : ∀ call ∈ found, call.value.balanced = false → call.stop = text.length
  -- No `@` with a name lies outside, not even in part.
  marked : ∀ place c, text[place]? = some '@' → text[place + 1]? = some c → isNameStart c = true →
    ∃ call ∈ found, call.start ≤ place ∧ place + 1 < call.stop

theorem callText_append_drop (text : Text) {call : Call} (h : call.start ≤ call.stop) :
    callText text call ++ text.drop call.stop = text.drop call.start := by
  have hrest : text.drop call.stop = (text.drop call.start).drop (call.stop - call.start) := by
    rw [List.drop_drop]
    congr 1
    omega
  rw [callText, List.drop_take, hrest, List.take_append_drop]

namespace IsTiling

variable {text : Text} {found others : List Call} {call other : Call}

/-- At each range of a tiling its decorator is read. -/
theorem read (h : IsTiling text found) (hcall : call ∈ found) :
    Decorator.read (text.drop call.start) = some (call.value, text.drop call.stop) := by
  rw [← callText_append_drop text (Nat.le_of_lt (h.inOrder.nonempty call hcall))]
  refine (h.writtenAs call hcall).read (h.endsName call hcall) fun hopen => ?_
  rw [h.stop_eq call hcall hopen, List.drop_length]

/-- Ranges with the same start are the same, in whatever tilings of a text they are. -/
theorem eq_of_start_eq (h : IsTiling text found) (h' : IsTiling text others)
    (hcall : call ∈ found) (hother : other ∈ others) (hstart : call.start = other.start) :
    call = other := by
  have hread := h.read hcall
  rw [hstart, h'.read hother, Option.some.injEq, Prod.mk.injEq] at hread
  obtain ⟨hvalue, hrest⟩ := hread
  have hstop : call.stop = other.stop := by
    have hlength := congrArg List.length hrest
    rw [List.length_drop, List.length_drop] at hlength
    have := h.stop_le call hcall
    have := h'.stop_le other hother
    omega
  cases call
  cases other
  simp_all

/-- The start of a range of one tiling lies in a range of the other. -/
theorem exists_covering (h : IsTiling text found) (h' : IsTiling text others)
    (hcall : call ∈ found) :
    ∃ other ∈ others, other.start ≤ call.start ∧ call.start < other.stop := by
  obtain ⟨c, tail, hwritten, hc⟩ := (h.writtenAs call hcall).exists_mark
  have htext := callText_append_drop text (Nat.le_of_lt (h.inOrder.nonempty call hcall))
  rw [hwritten, List.cons_append, List.cons_append] at htext
  have hmark : text[call.start]? = some '@' := by
    rw [← List.head?_drop, ← htext]
    rfl
  have hname : text[call.start + 1]? = some c := by
    rw [← List.getElem?_drop, ← htext]
    rfl
  obtain ⟨other, hother, hstart, hstop⟩ := h'.marked call.start c hmark hname hc
  exact ⟨other, hother, hstart, Nat.lt_of_succ_lt hstop⟩

/-- A text has only one tiling. -/
theorem eq (h : IsTiling text found) (h' : IsTiling text others) : found = others :=
  h.inOrder.eq_of_covered h'.inOrder (fun _ hcall => h.exists_covering h' hcall)
    (fun _ hother => h'.exists_covering h hother)
    (fun _ hcall _ hother hstart => h.eq_of_start_eq h' hcall hother hstart)

end IsTiling

/-! ## The calls of a text -/

section Calls

variable {text : Text} {call : Call}

theorem inOrder_calls (text : Text) : InOrder Found.start Found.stop (calls text) :=
  (segmented_segments Decorator.advances_read text).inOrder_hitsFrom 0

/-- A call is read at its range. -/
theorem read_of_mem_calls (h : call ∈ calls text) :
    Decorator.read (callText text call ++ text.drop call.stop)
      = some (call.value, text.drop call.stop) := by
  rw [callText_append_drop text (Nat.le_of_lt ((inOrder_calls text).nonempty call h))]
  obtain ⟨left, written, right, rfl, -, hread, hstart, hstop⟩ :=
    exists_of_mem_searchAll Decorator.advances_read h
  rw [hstop, hstart, ← List.drop_drop, List.drop_left, List.drop_left]
  exact hread

theorem stop_le_of_mem_calls (h : call ∈ calls text) : call.stop ≤ text.length := by
  obtain ⟨left, written, right, rfl, -, -, hstart, hstop⟩ :=
    exists_of_mem_searchAll Decorator.advances_read h
  rw [hstop, hstart, List.length_append, List.length_append]
  omega

theorem writtenAs_of_mem_calls (h : call ∈ calls text) :
    call.value.WrittenAs (callText text call) :=
  Decorator.writtenAs_of_read (read_of_mem_calls h)

theorem stop_eq_of_mem_calls (h : call ∈ calls text) (hopen : call.value.balanced = false) :
    call.stop = text.length := by
  obtain ⟨-, -, -, -, hnil, -⟩ := Decorator.unclosed_of_read (read_of_mem_calls h) hopen
  exact Nat.le_antisymm (stop_le_of_mem_calls h) (List.drop_eq_nil_iff.mp hnil)

/-- Behind a call that is not closed there is no other one. -/
theorem balanced_of_mem_dropLast (h : call ∈ (calls text).dropLast) :
    call.value.balanced = true := by
  have hne : calls text ≠ [] := by
    intro hnil
    rw [hnil] at h
    cases h
  have hlast := (calls text).getLast_mem hne
  have hapart := (inOrder_calls text).apart
  rw [← List.dropLast_append_getLast hne, List.pairwise_append] at hapart
  have hbehind := hapart.2.2 call h _ (List.mem_singleton_self _)
  have hnonempty := (inOrder_calls text).nonempty _ hlast
  have hstop := stop_le_of_mem_calls hlast
  by_contra hopen
  have := stop_eq_of_mem_calls (List.mem_of_mem_dropLast h) (by simpa using hopen)
  omega

/-- No call ends with an `@` in front of a name. -/
theorem stop_ne_of_mark {place : Nat} (hmark : text[place]? = some '@')
    (hlength : place + 1 < text.length) (h : call ∈ calls text) (hstart : call.start ≤ place) :
    call.stop ≠ place + 1 := by
  intro hstop
  cases hbalanced : call.value.balanced with
  | true =>
      refine (writtenAs_of_mem_calls h).getLast?_ne_mark hbalanced ?_
      rw [callText, hstop, List.getLast?_drop, if_neg (by rw [List.length_take]; omega),
        List.getLast?_take, if_neg (Nat.succ_ne_zero place), Nat.add_sub_cancel, hmark]
      rfl
  | false =>
      have := stop_eq_of_mem_calls h hbalanced
      omega

theorem exists_call_of_mark {place : Nat} {c : Char} (hmark : text[place]? = some '@')
    (hname : text[place + 1]? = some c) (hc : isNameStart c = true) :
    ∃ call ∈ calls text, call.start ≤ place ∧ place + 1 < call.stop := by
  obtain ⟨hlt, hat⟩ := List.getElem?_eq_some_iff.mp hmark
  obtain ⟨hlt', hbehind⟩ := List.getElem?_eq_some_iff.mp hname
  have hdrop : text.drop place = '@' :: c :: text.drop (place + 2) := by
    rw [List.drop_eq_getElem_cons hlt, List.drop_eq_getElem_cons hlt', hat, hbehind]
  have htext : text = text.take place ++ '@' :: c :: text.drop (place + 2) := by
    rw [← hdrop, List.take_append_drop]
  have hplace : 0 + (text.take place).length = place := by
    rw [Nat.zero_add, List.length_take]
    omega
  obtain ⟨call, hcall, hstart, hstop⟩ :=
    (segmented_segments Decorator.advances_read text).exists_hit_at 0 htext
      (Decorator.read_mark_ne_none hc _)
  rw [hplace] at hstart hstop
  have hend := stop_ne_of_mark hmark hlt' hcall hstart
  exact ⟨call, hcall, hstart, by omega⟩

end Calls

/-- The calls of a text are a tiling of it, and the only one. -/
theorem calls_tile (text : Text) :
    IsTiling text (calls text) ∧ ∀ found, IsTiling text found → found = calls text := by
  have htiling : IsTiling text (calls text) := {
    inOrder := inOrder_calls text
    stop_le := fun _ => stop_le_of_mem_calls
    writtenAs := fun _ => writtenAs_of_mem_calls
    endsName := fun _ hcall => Decorator.endsName_of_read (read_of_mem_calls hcall)
    balanced := fun _ => balanced_of_mem_dropLast
    stop_eq := fun _ => stop_eq_of_mem_calls
    marked := fun _ _ => exists_call_of_mark }
  exact ⟨htiling, fun _ h => h.eq htiling⟩

-- A bracket of another shape closes the first argument, and the last one takes the rest.
example : calls "@a (b]@c @d(@e".toList
    = [⟨⟨"a".toList, some "b".toList, true⟩, 0, 6⟩, ⟨⟨"c".toList, none, true⟩, 6, 8⟩,
        ⟨⟨"d".toList, some "@e".toList, false⟩, 9, 14⟩] := by
  decide +kernel

end ShaderMarkup
