import ShaderMarkup.Proofs.Apart

/-!
# Decorators at every depth

`walk` reads the decorators of a text and then goes down into their arguments, each cut out of the
text between its brackets.  `places Decorator.read` goes over the text once, from left to right, and
reads a decorator wherever one starts.  Both find the same decorators in the same order
(`map_callExtent_walk`), whatever the brackets of the text look like.

* In front of the bracket that closes an argument, a decorator is read as in the argument alone
  (`Decorator.read_before_closing`): a bracket that opens at some depth closes before the depths
  below it do.
* So the decorators of a text that starts with one are this one, those of its argument and those
  behind it (`Decorator.map_callExtent_places`).
* Where an argument is not closed it is the rest of the text, and nothing is behind it.

`nameMarks` are the places where an `@` with a name stands.  There is one decorator for each
(`forall₂_walk_nameMarks`).
-/

namespace ShaderMarkup

/-! ## Places -/

section Places

variable {α : Type} {reader : Reader α} {offset : Nat} {text : Text}

/-- The places where a reader accepts, in a text that starts at `offset`.  What is read at one place
may reach over others. -/
def placesFrom (reader : Reader α) : Nat → Text → List (Found α)
  | _, [] => []
  | offset, c :: rest =>
      match reader (c :: rest) with
      | some (value, remaining) =>
          ⟨value, offset, offset + ((c :: rest).length - remaining.length)⟩
            :: placesFrom reader (offset + 1) rest
      | none => placesFrom reader (offset + 1) rest

/-- The places of a text where a reader accepts, from left to right. -/
def places (reader : Reader α) (text : Text) : List (Found α) :=
  placesFrom reader 0 text

theorem placesFrom_of_none {c : Char} {rest : Text} (h : reader (c :: rest) = none) :
    placesFrom reader offset (c :: rest) = placesFrom reader (offset + 1) rest := by
  rw [placesFrom, h]

theorem placesFrom_of_some {c : Char} {rest remaining : Text} {value : α}
    (h : reader (c :: rest) = some (value, remaining)) :
    placesFrom reader offset (c :: rest)
      = ⟨value, offset, offset + ((c :: rest).length - remaining.length)⟩
          :: placesFrom reader (offset + 1) rest := by
  rw [placesFrom, h]

theorem exists_of_mem_placesFrom {found : Found α} (h : found ∈ placesFrom reader offset text) :
    ∃ left right rest, text = left ++ right ∧ found.start = offset + left.length ∧
      reader right = some (found.value, rest) ∧
      found.stop = found.start + (right.length - rest.length) := by
  induction text generalizing offset with
  | nil => cases h
  | cons c text ih =>
      have hbehind (hmem : found ∈ placesFrom reader (offset + 1) text) :
          ∃ left right rest, c :: text = left ++ right ∧ found.start = offset + left.length ∧
            reader right = some (found.value, rest) ∧
            found.stop = found.start + (right.length - rest.length) := by
        obtain ⟨left, right, rest, rfl, hstart, hread⟩ := ih hmem
        refine ⟨c :: left, right, rest, rfl, ?_, hread⟩
        rw [hstart, List.length_cons]
        omega
      cases hread : reader (c :: text) with
      | none =>
          rw [placesFrom_of_none hread] at h
          exact hbehind h
      | some result =>
          obtain ⟨value, remaining⟩ := result
          rw [placesFrom_of_some hread] at h
          rcases List.mem_cons.mp h with rfl | h
          · exact ⟨[], c :: text, remaining, rfl, rfl, hread, rfl⟩
          · exact hbehind h

/-- At a place that is found the reader accepts. -/
theorem read_of_mem_places {found : Found α} (h : found ∈ places reader text) :
    ∃ rest, reader (text.drop found.start) = some (found.value, rest) ∧
      found.stop = found.start + ((text.drop found.start).length - rest.length) := by
  obtain ⟨left, right, rest, rfl, hstart, hread, hstop⟩ := exists_of_mem_placesFrom h
  rw [Nat.zero_add] at hstart
  rw [hstart, List.drop_left]
  exact ⟨rest, hread, by rw [hstop, hstart]⟩

/-- The reader accepts only where an `@` stands. -/
def Reader.NeedsMark (reader : Reader α) : Prop :=
  ∀ c rest, c ≠ '@' → reader (c :: rest) = none

theorem placesFrom_append_of_free (h : reader.NeedsMark) {front : Text} (hfree : '@' ∉ front)
    (offset : Nat) (text : Text) :
    placesFrom reader offset (front ++ text) = placesFrom reader (offset + front.length) text := by
  induction front generalizing offset with
  | nil => rfl
  | cons c front ih =>
      rw [List.mem_cons, not_or] at hfree
      rw [List.cons_append, placesFrom_of_none (h c _ (Ne.symm hfree.1)), ih hfree.2,
        List.length_cons, Nat.add_assoc, Nat.add_comm 1]

end Places

/-! ## Marks -/

/-- Reads an `@` and a name. -/
def nameMark : Reader Text := do
  Reader.symbol '@'
  Reader.identifier

/-- The places of a text where an `@` with a name stands, from left to right. -/
def nameMarks (text : Text) : List (Found Text) :=
  places nameMark text

/-- The `@` and the name of a call. -/
def callMark (call : Call) : Found Text :=
  ⟨call.value.name, call.start, call.start + (call.value.name.length + 1)⟩

@[simp] theorem value_callMark (call : Call) : (callMark call).value = call.value.name :=
  rfl

namespace Decorator

theorem needsMark_read : Reader.NeedsMark Decorator.read := by
  intro c rest hc
  unfold Decorator.read
  split
  next heq =>
    cases heq
    exact absurd rfl hc
  next => rfl

/-- A decorator starts with an `@` and its name. -/
theorem exists_name_of_read {text rest : Text} {decorator : Decorator}
    (h : Decorator.read text = some (decorator, rest)) :
    ∃ behind, text = '@' :: (decorator.name ++ behind) ∧ Reader.IsIdentifier decorator.name ∧
      ∀ c ∈ behind.head?, isWord c = false := by
  obtain ⟨name, behind, rfl, hname, hbehind, hrest⟩ := read_cases h
  have hsame : decorator.name = name := by
    rcases hrest with ⟨-, rfl, -⟩ | ⟨_, _, -, -, ⟨_, -, rfl, -⟩ | ⟨-, rfl, -⟩⟩ <;> rfl
  rw [hsame]
  exact ⟨behind, rfl, hname, hbehind⟩

end Decorator

theorem nameMark_of_read {text rest : Text} {decorator : Decorator}
    (h : Decorator.read text = some (decorator, rest)) :
    ∃ behind, nameMark text = some (decorator.name, behind) ∧
      text.length - behind.length = decorator.name.length + 1 := by
  obtain ⟨behind, rfl, hname, hbehind⟩ := Decorator.exists_name_of_read h
  refine ⟨behind, ?_, ?_⟩
  · exact Reader.bind_eq_some_iff.mpr ⟨(), _, Reader.symbol_eq_some_iff.mpr rfl,
      Reader.identifier_eq_some_iff.mpr ⟨hname, rfl, hbehind⟩⟩
  · simp only [List.length_cons, List.length_append]
    omega

theorem nameMark_of_read_eq_none {text : Text} (h : Decorator.read text = none) :
    nameMark text = none := by
  cases hmark : nameMark text with
  | none => rfl
  | some result =>
      obtain ⟨name, behind⟩ := result
      obtain ⟨_, _, hsymbol, hname⟩ := Reader.bind_eq_some_iff.mp hmark
      rw [Reader.symbol_eq_some_iff.mp hsymbol] at h
      simp [Decorator.read, hname] at h

/-- There is a decorator for each mark, and a mark for each decorator. -/
theorem map_callMark_placesFrom (offset : Nat) (text : Text) :
    (placesFrom Decorator.read offset text).map callMark = placesFrom nameMark offset text := by
  induction text generalizing offset with
  | nil => rfl
  | cons c text ih =>
      cases hread : Decorator.read (c :: text) with
      | none =>
          rw [placesFrom_of_none hread, placesFrom_of_none (nameMark_of_read_eq_none hread), ih]
      | some result =>
          obtain ⟨decorator, remaining⟩ := result
          obtain ⟨behind, hmark, hwidth⟩ := nameMark_of_read hread
          rw [placesFrom_of_some hread, placesFrom_of_some hmark, List.map_cons, ih, hwidth]
          rfl

/-! ## Slices -/

/-- A bracket closes before those outside of it do. -/
theorem exists_closingFrom_of_depthBehind {outer depth : Int} {text : Text} (houter : 1 ≤ outer)
    (hdepth : 1 ≤ depth) (h : depthBehind (outer + depth) text = some 1) :
    ∃ width, closingFrom isOpening isClosing depth text = some width := by
  induction text generalizing depth with
  | nil =>
      have hone : outer + depth = 1 := by simpa [depthBehind] using h
      omega
  | cons c text ih =>
      have hbehind {next : Int} (hnext : 1 ≤ next) (h : depthBehind (outer + next) text = some 1) :
          ∃ width, (closingFrom isOpening isClosing next text).map (· + 1) = some width := by
        obtain ⟨width, hwidth⟩ := ih hnext h
        exact ⟨width + 1, by rw [hwidth, Option.map_some]⟩
      rw [depthBehind] at h
      rw [closingFrom]
      split
      next hopening =>
        rw [if_pos hopening, Int.add_assoc] at h
        exact hbehind (by omega) h
      next hopening =>
        rw [if_neg hopening] at h
        split
        next hclosing =>
          rw [if_pos hclosing, if_neg (by omega), Int.add_sub_assoc] at h
          split
          next => exact ⟨0, rfl⟩
          next hone => exact hbehind (by omega) h
        next hclosing =>
          rw [if_neg hclosing] at h
          exact hbehind hdepth h

/-- A closing bracket ends a name as the end of the text does. -/
theorem EndsName.append_closing {text : Text} {close : Char} (h : EndsName text)
    (hclose : isClosing close = true) (more : Text) : EndsName (text ++ close :: more) := by
  have hplain : isWord close = false ∧ isGap close = false ∧ close ≠ '(' := by
    simp only [isClosing, Bool.or_eq_true, beq_iff_eq] at hclose
    rcases hclose with (rfl | rfl) | rfl <;> decide
  obtain ⟨hword, hgap, hopen⟩ := hplain
  constructor
  · cases text with
    | nil => simpa using hword
    | cons c text => exact h.1
  · rw [List.dropWhile_append]
    split
    next =>
      rw [List.dropWhile_cons_of_neg (by simp [hgap])]
      simpa using hopen
    next hne =>
      cases hrest : text.dropWhile isGap with
      | nil => simp [hrest] at hne
      | cons c rest =>
          have hc := h.2
          rw [hrest] at hc
          exact hc

namespace Decorator

/-- What is read without a closing bracket: its argument is the rest of the text. -/
theorem unclosed_of_read {text rest : Text} {decorator : Decorator}
    (h : Decorator.read text = some (decorator, rest)) (hbalanced : decorator.balanced = false) :
    ∃ name gap argument, text = '@' :: (name ++ (gap ++ '(' :: argument)) ∧ rest = [] ∧
      decorator = ⟨name, some argument, false⟩ ∧ Reader.IsIdentifier name ∧
      (∀ c ∈ gap, isGap c = true) ∧ closingFrom isOpening isClosing 1 argument = none := by
  obtain ⟨name, behind, rfl, hname, -, ⟨-, rfl, -⟩ | ⟨gap, body, rfl, hgap, hbody⟩⟩ :=
    read_cases h
  · cases hbalanced
  · rcases hbody with ⟨width, -, rfl, -⟩ | ⟨hopen, rfl, rfl⟩
    · cases hbalanced
    · rw [closingBracket?, closingFrom, if_pos (by decide), Option.map_eq_none_iff] at hopen
      exact ⟨name, gap, body, rfl, rfl, rfl, hname, hgap, hopen⟩

/-- Behind a decorator without an argument a name can end. -/
theorem endsName_of_read {text rest : Text} {decorator : Decorator}
    (h : Decorator.read text = some (decorator, rest)) (hbare : decorator.argument = none) :
    EndsName rest := by
  obtain ⟨name, behind, rfl, -, hword, ⟨hopen, -, rfl⟩ | ⟨gap, body, rfl, -, hbody⟩⟩ :=
    read_cases h
  · exact ⟨hword, hopen⟩
  · rcases hbody with ⟨_, -, rfl, -⟩ | ⟨-, rfl, -⟩ <;> cases hbare

theorem read_append_closing_eq_none {text : Text} {close : Char} (hclose : isClosing close = true)
    (h : Decorator.read text = none) (more : Text) :
    Decorator.read (text ++ close :: more) = none := by
  have hplain : close ≠ '@' ∧ isNameStart close = false := by
    simp only [isClosing, Bool.or_eq_true, beq_iff_eq] at hclose
    rcases hclose with (rfl | rfl) | rfl <;> decide
  cases text with
  | nil => exact needsMark_read close more hplain.1
  | cons c text =>
      by_cases hc : c = '@'
      · subst hc
        have hname : Reader.identifier (text ++ close :: more) = none := by
          cases text with
          | nil => rw [List.nil_append, Reader.identifier, if_neg (by simp [hplain.2])]
          | cons d text =>
              have hd : ¬isNameStart d = true := by
                intro hd
                simp [Decorator.read, Reader.identifier, hd] at h
              rw [List.cons_append, Reader.identifier, if_neg hd]
        rw [List.cons_append, Decorator.read, hname]
      · exact needsMark_read c _ hc

/-- In front of the bracket that closes an argument a decorator is read as in the argument alone.
An open bracket of it would be open behind the argument. -/
theorem read_before_closing {text : Text} {depth : Int} {close : Char} (hdepth : 1 ≤ depth)
    (h : depthBehind depth text = some 1) (hclose : isClosing close = true) (more : Text) :
    Decorator.read (text ++ close :: more)
      = (Decorator.read text).map (followedBy (close :: more)) := by
  cases hread : Decorator.read text with
  | none => exact read_append_closing_eq_none hclose hread more
  | some result =>
      obtain ⟨decorator, rest⟩ := result
      cases hbalanced : decorator.balanced with
      | true =>
          obtain ⟨written, rfl, hspelled⟩ := spelled_of_read hread hbalanced
          rw [List.append_assoc]
          exact hspelled.read fun hbare => (endsName_of_read hread hbare).append_closing hclose more
      | false =>
          obtain ⟨name, gap, argument, rfl, rfl, -, hname, hgap, hopen⟩ :=
            unclosed_of_read hread hbalanced
          have hbehind : depthBehind (depth + 1) argument = some 1 := by
            rw [depthBehind, if_neg (by decide), if_neg (by decide), depthBehind_append,
              depthBehind_free (fun c hc => not_bracket_of_class (by decide) (hname.isWord c hc)),
              Option.bind_some, depthBehind_append,
              depthBehind_free (fun c hc => not_bracket_of_class (by decide) (hgap c hc)),
              Option.bind_some, depthBehind, if_pos (by decide)] at h
            exact h
          obtain ⟨width, hwidth⟩ := exists_closingFrom_of_depthBehind hdepth (Int.le_refl 1) hbehind
          rw [hopen] at hwidth
          cases hwidth

/-- The decorators in front of the bracket that closes an argument are those of the argument. -/
theorem placesFrom_before_closing {text : Text} {depth : Int} {close : Char} (hdepth : 1 ≤ depth)
    (h : depthBehind depth text = some 1) (hclose : isClosing close = true) (offset : Nat)
    (more : Text) :
    placesFrom Decorator.read offset (text ++ close :: more)
      = placesFrom Decorator.read offset text
        ++ placesFrom Decorator.read (offset + (text.length + 1)) more := by
  induction text generalizing depth offset with
  | nil =>
      have hmark : close ≠ '@' := by
        rintro rfl
        cases hclose
      exact placesFrom_of_none (needsMark_read close more hmark)
  | cons c text ih =>
      have hread := read_before_closing hdepth h hclose more
      obtain ⟨next, hnext, hbehind⟩ : ∃ next : Int, 1 ≤ next ∧ depthBehind next text = some 1 := by
        obtain ⟨next, hfirst, hbehind⟩ : ∃ next, depthBehind depth [c] = some next ∧
            depthBehind next text = some 1 := by
          rw [← List.singleton_append, depthBehind_append, Option.bind_eq_some_iff] at h
          exact h
        exact ⟨next, one_le_depthBehind hfirst hdepth, hbehind⟩
      have hrest := ih hnext hbehind (offset + 1)
      rw [List.cons_append] at hread ⊢
      cases hhere : Decorator.read (c :: text) with
      | none =>
          rw [hhere, Option.map_none] at hread
          rw [placesFrom_of_none hread, placesFrom_of_none hhere, hrest, List.length_cons]
          congr 2
          omega
      | some result =>
          obtain ⟨decorator, rest⟩ := result
          rw [hhere, Option.map_some] at hread
          rw [placesFrom_of_some hread, placesFrom_of_some hhere, hrest, List.cons_append]
          congr 2
          · simp only [List.length_cons, List.length_append]
            congr 1
            omega
          · rw [List.length_cons]
            congr 1
            omega

end Decorator

/-! ## One pass -/

/-- The decorator of a call and the number of characters that it was read from.  Where it stands is
left out, since the calls in an argument count from its start. -/
def callExtent (call : Call) : Decorator × Nat :=
  (call.value, call.stop - call.start)

theorem map_callExtent_placesFrom (offset : Nat) (text : Text) :
    (placesFrom Decorator.read offset text).map callExtent
      = (places Decorator.read text).map callExtent := by
  suffices hany : ∀ first second, (placesFrom Decorator.read first text).map callExtent
      = (placesFrom Decorator.read second text).map callExtent from hany offset 0
  induction text with
  | nil => exact fun _ _ => rfl
  | cons c text ih =>
      intro first second
      cases hread : Decorator.read (c :: text) with
      | none =>
          rw [placesFrom_of_none hread, placesFrom_of_none hread]
          exact ih _ _
      | some result =>
          rw [placesFrom_of_some hread, placesFrom_of_some hread, List.map_cons, List.map_cons,
            ih (first + 1) (second + 1)]
          simp [callExtent]

namespace Decorator

theorem placesFrom_read_append_of_free {front : Text} (hfree : ∀ c ∈ front, c ≠ '@') (offset : Nat)
    (text : Text) :
    (placesFrom Decorator.read offset (front ++ text)).map callExtent
      = (places Decorator.read text).map callExtent := by
  rw [placesFrom_append_of_free needsMark_read (fun hmem => hfree '@' hmem rfl),
    map_callExtent_placesFrom]

/-- The text of a decorator with an argument: its name, a gap, and the argument between brackets, of
which the last may be missing at the end of the text. -/
theorem exists_of_read_filled {text rest argument : Text} {decorator : Decorator}
    (h : Decorator.read text = some (decorator, rest))
    (hargument : decorator.argument = some argument) :
    ∃ gap behind, text = '@' :: (decorator.name ++ (gap ++ '(' :: (argument ++ behind))) ∧
      (∀ c ∈ gap, isGap c = true) ∧
      (decorator.balanced = true ∧ (∃ close, behind = close :: rest ∧ isClosing close = true) ∧
          depthBehind 1 argument = some 1 ∨
        decorator.balanced = false ∧ behind = [] ∧ rest = []) := by
  cases hbalanced : decorator.balanced with
  | true =>
      obtain ⟨written, rfl, hspelled⟩ := spelled_of_read h hbalanced
      cases hspelled with
      | bare => cases hargument
      | @filled name gap _ close _ hgap hdepth hclose =>
          cases hargument
          exact ⟨gap, close :: rest, by simp, hgap, Or.inl ⟨rfl, ⟨close, rfl, hclose⟩, hdepth⟩⟩
  | false =>
      obtain ⟨name, gap, body, rfl, rfl, rfl, -, hgap, -⟩ := unclosed_of_read h hbalanced
      cases hargument
      exact ⟨gap, [], by simp, hgap, Or.inr ⟨rfl, rfl, rfl⟩⟩

theorem eq_of_read_bare {text rest : Text} {decorator : Decorator}
    (h : Decorator.read text = some (decorator, rest)) (hargument : decorator.argument = none) :
    text = '@' :: (decorator.name ++ rest) := by
  cases hbalanced : decorator.balanced with
  | true =>
      obtain ⟨written, rfl, hspelled⟩ := spelled_of_read h hbalanced
      cases hspelled with
      | bare => rfl
      | filled => cases hargument
  | false =>
      obtain ⟨_, _, _, _, _, rfl, _⟩ := unclosed_of_read h hbalanced
      cases hargument

/-- The decorators of a text that starts with one: it comes first, then those of its argument, then
those behind it. -/
theorem map_callExtent_places {text rest : Text} {decorator : Decorator}
    (h : Decorator.read text = some (decorator, rest)) :
    (places Decorator.read text).map callExtent
      = (decorator, text.length - rest.length)
        :: ((decorator.argument.elim [] (places Decorator.read)).map callExtent
        ++ (places Decorator.read rest).map callExtent) := by
  have hhead {tail : Text} (htext : text = '@' :: tail) :
      (places Decorator.read text).map callExtent
        = (decorator, text.length - rest.length)
          :: (placesFrom Decorator.read 1 tail).map callExtent := by
    subst htext
    rw [places, placesFrom_of_some h, List.map_cons]
    simp [callExtent]
  obtain ⟨-, -, hname, -⟩ := exists_name_of_read h
  have hfree : ∀ c ∈ decorator.name, c ≠ '@' := by
    rintro c hc rfl
    exact absurd (hname.isWord '@' hc) (by decide)
  cases hargument : decorator.argument with
  | none =>
      rw [hhead (eq_of_read_bare h hargument), placesFrom_read_append_of_free hfree]
      rfl
  | some argument =>
      obtain ⟨gap, behind, htext, hgap, hbehind⟩ := exists_of_read_filled h hargument
      have hfront : ∀ c ∈ decorator.name ++ (gap ++ ['(']), c ≠ '@' := by
        simp only [List.forall_mem_append, List.forall_mem_singleton]
        refine ⟨hfree, fun c hc heq => ?_, by decide⟩
        exact absurd (hgap c hc) (by rw [heq]; decide)
      have hskip : (placesFrom Decorator.read 1
          (decorator.name ++ (gap ++ '(' :: (argument ++ behind)))).map callExtent
            = (places Decorator.read (argument ++ behind)).map callExtent := by
        rw [← placesFrom_read_append_of_free hfront 1]
        simp
      rw [hhead htext, hskip, Option.elim_some]
      rcases hbehind with ⟨-, ⟨close, rfl, hclose⟩, hdepth⟩ | ⟨-, rfl, rfl⟩
      · rw [places, placesFrom_before_closing (Int.le_refl 1) hdepth hclose, List.map_append,
          map_callExtent_placesFrom _ rest]
        rfl
      · rw [List.append_nil]
        exact (congrArg _ (List.append_nil _)).symm

end Decorator

/-- Where the arguments are gone through as in one pass, so is the text around them. -/
theorem map_callExtent_hitsFrom {goDown : Text → List Call} {before : Option Char} {text : Text}
    {pieces : List (Segment Decorator)}
    (hsegmented : Segmented (anywhere Decorator.read) before text pieces)
    (hdown : ∀ argument, argument.length < text.length →
      (goDown argument).map callExtent = (places Decorator.read argument).map callExtent)
    (offset : Nat) :
    ((hitsFrom offset pieces).flatMap fun call =>
        match call.value.argument with
        | none => [call]
        | some argument => call :: goDown argument).map callExtent
      = (places Decorator.read text).map callExtent := by
  induction hsegmented generalizing offset with
  | nil => rfl
  | @plain before c rest pieces hread hrest ih =>
      have hnone : Decorator.read (c :: rest) = none := hread
      have hbehind := ih (fun argument hlength => hdown argument (by simp; omega)) (offset + 1)
      show _ = (placesFrom Decorator.read 0 (c :: rest)).map callExtent
      rw [hitsFrom, hbehind, placesFrom_of_none hnone, map_callExtent_placesFrom]
  | @hit before decorator written rest pieces hne hread hrest ih =>
      have hread : Decorator.read (written ++ rest) = some (decorator, rest) := hread
      have hwidth : (written ++ rest).length - rest.length = written.length := by simp
      have hbehind := ih (fun argument hlength => hdown argument (by simp; omega))
        (offset + written.length)
      rw [hitsFrom, List.flatMap_cons, List.map_append, hbehind,
        Decorator.map_callExtent_places hread, hwidth]
      cases hargument : decorator.argument with
      | none => simp [callExtent]
      | some argument =>
          have hshorter : argument.length < (written ++ rest).length := by
            obtain ⟨gap, behind, htext, -⟩ := Decorator.exists_of_read_filled hread hargument
            rw [htext]
            simp only [List.length_cons, List.length_append]
            omega
          simp [callExtent, hdown argument hshorter]

/-- The decorators down to a depth that no nesting exceeds are those of one pass. -/
theorem map_callExtent_walkWithin {depth : Nat} {text : Text} (h : text.length ≤ depth) :
    (walkWithin depth text).map callExtent = (places Decorator.read text).map callExtent := by
  induction depth generalizing text with
  | zero =>
      rw [List.length_eq_zero_iff.mp (Nat.le_zero.mp h)]
      rfl
  | succ depth ih =>
      rw [walkWithin]
      exact map_callExtent_hitsFrom (segmented_segments Decorator.advances_read text)
        (fun argument hlength => ih (by omega)) 0

theorem map_callExtent_walk (text : Text) :
    (walk text).map callExtent = (places Decorator.read text).map callExtent :=
  map_callExtent_walkWithin (Nat.le_refl text.length)

/-! ## A decorator for each mark -/

/-- The decorator of the call is the one that is read at the mark, and as wide. -/
def IsReadAt (text : Text) (call : Call) (mark : Found Text) : Prop :=
  call.value.name = mark.value ∧
    ∃ written rest, text.drop mark.start = written ++ rest ∧
      Decorator.read (written ++ rest) = some (call.value, rest) ∧
      call.stop = call.start + written.length

theorem nameMarks_eq (text : Text) :
    nameMarks text = (places Decorator.read text).map callMark :=
  (map_callMark_placesFrom 0 text).symm

theorem isReadAt_of_mem_places {text : Text} {place call : Call}
    (hmem : place ∈ places Decorator.read text) (hextent : callExtent call = callExtent place) :
    IsReadAt text call (callMark place) := by
  obtain ⟨hvalue, hwidth⟩ := Prod.mk.inj hextent
  obtain ⟨rest, hread, hstop⟩ := read_of_mem_places hmem
  obtain ⟨written, hne, hsplit, -⟩ := Decorator.exists_of_read hread
  refine ⟨by rw [hvalue]; rfl, written, rest, hsplit, ?_, ?_⟩
  · rw [hvalue, ← hsplit]
    exact hread
  · rw [hsplit, List.length_append, Nat.add_sub_cancel] at hstop
    have hpos := List.length_pos_iff.mpr hne
    omega

/-- The calls of a text and its marks belong together one by one, from left to right. -/
theorem forall₂_walk_nameMarks (text : Text) :
    List.Forall₂ (IsReadAt text) (walk text) (nameMarks text) := by
  have hextents : List.Forall₂ (fun call place => callExtent call = callExtent place) (walk text)
      (places Decorator.read text) := by
    rw [← List.forall₂_map_right_iff, ← List.forall₂_map_left_iff, List.forall₂_eq_eq_eq]
    exact map_callExtent_walk text
  rw [nameMarks_eq, List.forall₂_map_right_iff, List.forall₂_iff_zip]
  refine ⟨hextents.length_eq, fun hmem => ?_⟩
  exact isReadAt_of_mem_places (List.of_mem_zip hmem).2 (List.forall₂_zip hextents hmem)

theorem map_callExtent_findDecorator? (text name : Text) :
    (findDecorator? text name).map callExtent
      = ((places Decorator.read text).find? fun place => place.value.name = name).map
          callExtent := by
  have hfind (found : List Call) : (found.find? fun call => call.value.name = name).map callExtent
      = (found.map callExtent).find? fun extent => extent.1.name = name := by
    rw [List.find?_map]
    rfl
  rw [findDecorator?, hfind, hfind, map_callExtent_walk]

theorem findDecorator?_eq_none_iff {text name : Text} :
    findDecorator? text name = none ↔ ∀ mark ∈ nameMarks text, mark.value ≠ name := by
  rw [← Option.map_eq_none_iff, map_callExtent_findDecorator?, Option.map_eq_none_iff,
    List.find?_eq_none, nameMarks_eq, List.forall_mem_map]
  simp

/-- The first call of a name is read at the first mark of the name. -/
theorem exists_of_findDecorator? {text name : Text} {call : Call}
    (h : findDecorator? text name = some call) :
    ∃ before mark after, nameMarks text = before ++ mark :: after ∧
      (∀ other ∈ before, other.value ≠ name) ∧ mark.value = name ∧ IsReadAt text call mark := by
  have hsame := map_callExtent_findDecorator? text name
  rw [h, Option.map_some] at hsame
  obtain ⟨place, hplace, hextent⟩ := Option.map_eq_some_iff.mp hsame.symm
  obtain ⟨hname, before, after, hsplit, hbefore⟩ := List.find?_eq_some_iff_append.mp hplace
  refine ⟨before.map callMark, callMark place, after.map callMark, ?_, ?_, ?_, ?_⟩
  · rw [nameMarks_eq, hsplit, List.map_append, List.map_cons]
  · rw [List.forall_mem_map]
    exact fun other hmem => by simpa using hbefore other hmem
  · simpa using hname
  · exact isReadAt_of_mem_places (by simp [hsplit]) hextent.symm

/-- All decorators are found, each once and from left to right, and the first of a name is the one
that stands first in the text. -/
theorem walk_finds_marks (text : Text) :
    List.Forall₂ (IsReadAt text) (walk text) (nameMarks text) ∧
    (walk text).map (·.value.name) = (nameMarks text).map (·.value) ∧
    ∀ name,
      (findDecorator? text name = none ↔ ∀ mark ∈ nameMarks text, mark.value ≠ name) ∧
      ∀ call, findDecorator? text name = some call →
        ∃ before mark after, nameMarks text = before ++ mark :: after ∧
          (∀ other ∈ before, other.value ≠ name) ∧ mark.value = name ∧
          IsReadAt text call mark := by
  have hpairs := forall₂_walk_nameMarks text
  refine ⟨hpairs, ?_, fun name => ⟨findDecorator?_eq_none_iff, fun call h => ?_⟩⟩
  · rw [← List.forall₂_eq_eq_eq, List.forall₂_map_left_iff, List.forall₂_map_right_iff]
    exact hpairs.imp fun call mark h => h.1
  · exact exists_of_findDecorator? h

/-- Brackets that close nothing, that do not match and that are never closed, around decorators of
one name. -/
def crossedBrackets : Text :=
  ") @a [ @b(@a \x7b 1 ] @size (@b @a( 2".toList

theorem walk_finds_marks_crossedBrackets :
    (walk crossedBrackets).map (·.value.name)
      = ["a", "b", "a", "size", "b", "a"].map String.toList ∧
    ∃ call, findDecorator? crossedBrackets "b".toList = some call ∧
      ∃ before mark after, nameMarks crossedBrackets = before ++ mark :: after ∧
        (∀ other ∈ before, other.value ≠ "b".toList) ∧ mark.value = "b".toList ∧
        IsReadAt crossedBrackets call mark := by
  obtain ⟨-, hnames, hfind⟩ := walk_finds_marks crossedBrackets
  have hsome : (findDecorator? crossedBrackets "b".toList).isSome = true := by decide +kernel
  obtain ⟨call, hcall⟩ := Option.isSome_iff_exists.mp hsome
  refine ⟨?_, call, hcall, (hfind "b".toList).2 call hcall⟩
  rw [hnames]
  decide +kernel

end ShaderMarkup
