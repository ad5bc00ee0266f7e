import ShaderMarkup.Proofs.Locality
import ShaderMarkup.Proofs.Whitespace
import ShaderMarkup.Resource.Context
import ShaderMarkup.Source.Region

/-!
# Texts that end where a statement ends

A source can be read in two halves when the first one leaves nothing open.  `IsWhole text` says what
that takes: the text is empty or ends with the end of a statement, and its braces are balanced.
Then every function, block, struct and statement of the text is the same whatever follows it.
-/

namespace ShaderMarkup

/-! ## Whole texts -/

/-- The characters that can end a statement. -/
def endsStatement (c : Char) : Bool :=
  c == ';' || c == '\x7d'

theorem endsStatement_iff {c : Char} : endsStatement c = true ↔ c = ';' ∨ c = '\x7d' := by
  simp [endsStatement]

theorem isBlank_eq_false_of_endsStatement (c : Char) (h : endsStatement c = true) :
    isBlank c = false := by
  rcases endsStatement_iff.mp h with rfl | rfl <;> decide

theorem isWord_eq_false_of_endsStatement (c : Char) (h : endsStatement c = true) :
    isWord c = false := by
  rcases endsStatement_iff.mp h with rfl | rfl <;> decide

/-- How many braces are open behind a text, where no closing brace is one too many. -/
def openBraces? : Nat → Text → Option Nat
  | depth, [] => some depth
  | depth, c :: rest =>
      if c = '\x7b' then openBraces? (depth + 1) rest
      else if c = '\x7d' then
        if depth = 0 then none else openBraces? (depth - 1) rest
      else openBraces? depth rest

/-- The text leaves nothing open: it is empty or ends with the end of a statement, and its braces
are balanced. -/
structure IsWhole (text : Text) : Prop where
  stops : ∀ c ∈ text.getLast?, endsStatement c = true
  balanced : openBraces? 0 text = some 0

/-- Behind the name of every function that the text contains, its body opens and closes. -/
def ClosesFunctions (text : Text) : Prop :=
  ∀ left right rest, text = left ++ right →
    atWordStart functionHeader left.getLast? right = some ((), rest) →
    (closingBrace? (rest.dropWhile (· != '\x7b'))).isSome

/-- Whether the function that starts behind a place, if one does, opens and closes its body. -/
def closesFunctionAt (text : Text) (place : Nat) : Bool :=
  match atWordStart functionHeader (text.take place).getLast? (text.drop place) with
  | some (_, rest) => (closingBrace? (rest.dropWhile (· != '\x7b'))).isSome
  | none => true

instance (text : Text) : Decidable (ClosesFunctions text) :=
  decidable_of_iff ((List.range (text.length + 1)).all (closesFunctionAt text) = true) <| by
    rw [List.all_eq_true]
    constructor
    · intro h left right rest htext hheader
      have hlength : left.length ≤ text.length := by rw [htext, List.length_append]; omega
      have hplace := h left.length (List.mem_range.mpr (Nat.lt_succ_of_le hlength))
      rw [closesFunctionAt, htext, List.take_left, List.drop_left, hheader] at hplace
      exact hplace
    · intro h place _
      unfold closesFunctionAt
      split
      next rest hheader => exact h _ _ rest (List.take_append_drop place text).symm hheader
      next => rfl

theorem openBraces?_append (depth : Nat) (left right : Text) :
    openBraces? depth (left ++ right) = (openBraces? depth left).bind (openBraces? · right) := by
  induction left generalizing depth with
  | nil => rfl
  | cons c left ih =>
      rw [List.cons_append, openBraces?, openBraces?]
      split
      · exact ih _
      · split
        · split
          · rfl
          · exact ih _
        · exact ih _

theorem openBraces?_of_free {depth : Nat} {text : Text}
    (h : ∀ c ∈ text, c ≠ '\x7b' ∧ c ≠ '\x7d') : openBraces? depth text = some depth := by
  induction text with
  | nil => rfl
  | cons c text ih =>
      rw [List.forall_mem_cons] at h
      rw [openBraces?, if_neg h.1.1, if_neg h.1.2, ih h.2]

namespace IsWhole

variable {text : Text}

/-- Behind every place of a whole text its last statement ends. -/
theorem stop_ahead (h : IsWhole text) {left right : Text} (htext : text = left ++ right)
    (hne : right ≠ []) : right.any endsStatement = true :=
  any_of_getLast? h.stops htext hne

end IsWhole

/-! ## Closing brackets -/

section Closing

variable {opens closes : Char → Bool}

theorem closingFrom_append {depth : Int} {text : Text} {offset : Nat}
    (h : closingFrom opens closes depth text = some offset) (more : Text) :
    closingFrom opens closes depth (text ++ more) = some offset := by
  induction text generalizing depth offset with
  | nil => cases h
  | cons c text ih =>
      rw [List.cons_append]
      rw [closingFrom] at h ⊢
      split at h
      next hopens =>
        obtain ⟨inner, hinner, rfl⟩ := Option.map_eq_some_iff.mp h
        rw [if_pos hopens, ih hinner]
        rfl
      next hopens =>
        rw [if_neg hopens]
        split at h
        next hcloses =>
          rw [if_pos hcloses]
          split at h
          next hdepth => rw [if_pos hdepth, h]
          next hdepth =>
            obtain ⟨inner, hinner, rfl⟩ := Option.map_eq_some_iff.mp h
            rw [if_neg hdepth, ih hinner]
            rfl
        next hcloses =>
          obtain ⟨inner, hinner, rfl⟩ := Option.map_eq_some_iff.mp h
          rw [if_neg hcloses, ih hinner]
          rfl

/-- The closing character is one of the text's. -/
theorem lt_length_of_closingFrom {depth : Int} {text : Text} {offset : Nat}
    (h : closingFrom opens closes depth text = some offset) : offset < text.length := by
  induction text generalizing depth offset with
  | nil => cases h
  | cons c text ih =>
      have hinner : ∀ {next : Int}, (closingFrom opens closes next text).map (· + 1) = some offset →
          offset < (c :: text).length := by
        intro next hnext
        obtain ⟨inner, hinner, rfl⟩ := Option.map_eq_some_iff.mp hnext
        simpa using ih hinner
      rw [closingFrom] at h
      split at h
      · exact hinner h
      · split at h
        · split at h
          · cases h
            simp
          · exact hinner h
        · exact hinner h

/-- Where nothing closes in a text, what closes behind it is not in the text. -/
theorem length_le_of_closingFrom_append {depth : Int} {text more : Text} {offset : Nat}
    (hnone : closingFrom opens closes depth text = none)
    (h : closingFrom opens closes depth (text ++ more) = some offset) : text.length ≤ offset := by
  induction text generalizing depth offset with
  | nil => simp
  | cons c text ih =>
      have hinner : ∀ {next : Int}, (closingFrom opens closes next text).map (· + 1) = none →
          (closingFrom opens closes next (text ++ more)).map (· + 1) = some offset →
          (c :: text).length ≤ offset := by
        intro next hnone hnext
        obtain ⟨inner, hinner, rfl⟩ := Option.map_eq_some_iff.mp hnext
        simpa using ih (Option.map_eq_none_iff.mp hnone) hinner
      rw [List.cons_append] at h
      rw [closingFrom] at h hnone
      split at h
      next hopens => exact hinner (by simpa [hopens] using hnone) h
      next hopens =>
        rw [if_neg hopens] at hnone
        split at h
        next hcloses =>
          rw [if_pos hcloses] at hnone
          split at h
          next hdepth =>
            rw [if_pos hdepth] at hnone
            cases hnone
          next hdepth => exact hinner (by simpa [hdepth] using hnone) h
        next hcloses => exact hinner (by simpa [hcloses] using hnone) h

end Closing

/-- Braces that are open in front of a text and not behind it are closed in it. -/
theorem exists_closingFrom_of_openBraces? {outer depth final : Nat} {text : Text}
    (hdepth : 0 < depth) (hfinal : final ≤ outer)
    (h : openBraces? (outer + depth) text = some final) :
    ∃ offset, closingFrom (· == '\x7b') (· == '\x7d') depth text = some offset := by
  induction text generalizing depth with
  | nil =>
      have : outer + depth = final := by simpa [openBraces?] using h
      omega
  | cons c text ih =>
      rw [openBraces?] at h
      rw [closingFrom]
      by_cases hopen : c = '\x7b'
      · rw [if_pos hopen, Nat.add_assoc] at h
        obtain ⟨offset, hoffset⟩ := ih (by omega) h
        rw [if_pos (by simpa using hopen)]
        exact ⟨offset + 1, by simpa using hoffset⟩
      · rw [if_neg hopen] at h
        rw [if_neg (by simpa using hopen)]
        by_cases hclose : c = '\x7d'
        · rw [if_pos hclose, if_neg (by omega)] at h
          rw [if_pos (by simpa using hclose)]
          by_cases hone : depth = 1
          · exact ⟨0, by simp [hone]⟩
          · rw [Nat.add_sub_assoc hdepth] at h
            obtain ⟨offset, hoffset⟩ := ih (by omega) h
            rw [if_neg (by omega)]
            have hcast : ((depth - 1 : Nat) : Int) = (depth : Int) - 1 := by omega
            rw [hcast] at hoffset
            exact ⟨offset + 1, by simp [hoffset]⟩
        · rw [if_neg hclose] at h
          obtain ⟨offset, hoffset⟩ := ih hdepth h
          rw [if_neg (by simpa using hclose)]
          exact ⟨offset + 1, by simp [hoffset]⟩

/-- In a balanced text, every brace that is opened is closed. -/
theorem exists_closingBrace? (left : Text) {right : Text}
    (h : openBraces? 0 (left ++ '\x7b' :: right) = some 0) :
    ∃ offset, closingBrace? ('\x7b' :: right) = some offset := by
  rw [openBraces?_append] at h
  obtain ⟨outer, _, h⟩ := Option.bind_eq_some_iff.mp h
  obtain ⟨offset, hoffset⟩ :=
    exists_closingFrom_of_openBraces? Nat.one_pos (Nat.zero_le outer) (by simpa [openBraces?] using h)
  exact ⟨offset + 1, by simpa [closingBrace?, closingFrom] using hoffset⟩

/-- Behind the brace that closes the innermost ones, those outside of them are open. -/
theorem openBraces?_drop_closing {depth : Nat} {text : Text} {offset : Nat} (outer : Nat)
    (hdepth : 0 < depth)
    (h : closingFrom (· == '\x7b') (· == '\x7d') depth text = some offset) :
    openBraces? (outer + depth) text = openBraces? outer (text.drop (offset + 1)) := by
  induction text generalizing depth offset with
  | nil => cases h
  | cons c text ih =>
      rw [closingFrom] at h
      rw [openBraces?, List.drop_succ_cons]
      by_cases hopen : c = '\x7b'
      · rw [if_pos (by simpa using hopen)] at h
        obtain ⟨inner, hinner, rfl⟩ := Option.map_eq_some_iff.mp h
        rw [if_pos hopen, Nat.add_assoc]
        exact ih (by omega) (by simpa using hinner)
      · rw [if_neg (by simpa using hopen)] at h
        rw [if_neg hopen]
        by_cases hclose : c = '\x7d'
        · rw [if_pos (by simpa using hclose)] at h
          rw [if_pos hclose, if_neg (by omega)]
          split at h
          next hone =>
            cases h
            have hback : outer + depth - 1 = outer := by omega
            rw [hback, List.drop_zero]
          next hone =>
            obtain ⟨inner, hinner, rfl⟩ := Option.map_eq_some_iff.mp h
            have hcast : (depth : Int) - 1 = ((depth - 1 : Nat) : Int) := by omega
            rw [hcast] at hinner
            rw [Nat.add_sub_assoc hdepth]
            exact ih (by omega) hinner
        · rw [if_neg (by simpa using hclose)] at h
          obtain ⟨inner, hinner, rfl⟩ := Option.map_eq_some_iff.mp h
          rw [if_neg hclose]
          exact ih hdepth hinner

/-- The braces from one that opens to the one that closes it are balanced. -/
theorem openBraces?_block {text : Text} {offset : Nat} (outer : Nat)
    (h : closingBrace? ('\x7b' :: text) = some offset) :
    openBraces? outer ('\x7b' :: text)
      = openBraces? outer (('\x7b' :: text).drop (offset + 1)) := by
  unfold closingBrace? at h
  rw [closingFrom, if_pos (by decide)] at h
  obtain ⟨inner, hinner, rfl⟩ := Option.map_eq_some_iff.mp h
  rw [openBraces?, if_pos rfl, List.drop_succ_cons]
  exact openBraces?_drop_closing outer Nat.one_pos (by simpa using hinner)

/-! ## Functions and blocks -/

theorem dropWhile_append_of_ne_nil {accepts : Char → Bool} {text : Text}
    (h : text.dropWhile accepts ≠ []) (more : Text) :
    (text ++ more).dropWhile accepts = text.dropWhile accepts ++ more := by
  rw [List.dropWhile_append, if_neg (by simpa using h)]

/-- What `throughBlock` reads where the block closes: the text up to the block, and the block. -/
theorem throughBlock_of_closing {text : Text} {offset : Nat}
    (h : closingBrace? (text.dropWhile (· != '\x7b')) = some offset) :
    throughBlock text = some ((), (text.dropWhile (· != '\x7b')).drop (offset + 1)) := by
  unfold throughBlock
  split
  next hnil =>
    rw [hnil] at h
    cases h
  next => rw [h]

theorem throughBlock_append {text : Text}
    (h : (closingBrace? (text.dropWhile (· != '\x7b'))).isSome) (more : Text) :
    throughBlock (text ++ more) = (throughBlock text).map (followedBy more) := by
  obtain ⟨offset, hoffset⟩ := Option.isSome_iff_exists.mp h
  have hne : text.dropWhile (· != '\x7b') ≠ [] := by
    intro hnil
    rw [hnil] at hoffset
    cases hoffset
  have hmore := closingFrom_append hoffset more
  rw [← dropWhile_append_of_ne_nil hne] at hmore
  rw [throughBlock_of_closing hoffset, throughBlock_of_closing hmore,
    dropWhile_append_of_ne_nil hne, List.drop_append_of_le_length]
  · rfl
  · exact lt_length_of_closingFrom hoffset

theorem throughBlock_eq_some {text rest : Text} {u : Unit}
    (h : throughBlock text = some (u, rest)) : ∃ written, written ≠ [] ∧ text = written ++ rest := by
  unfold throughBlock at h
  split at h
  next => cases h
  next block hne =>
    have hsplit := List.takeWhile_append_dropWhile (p := (· != '\x7b')) (l := text)
    generalize text.dropWhile (· != '\x7b') = block at *
    cases block with
    | nil => exact absurd rfl hne
    | cons c block =>
        split at h
        next offset _ =>
          cases h
          refine ⟨text.takeWhile (· != '\x7b') ++ (c :: block).take (offset + 1), by simp, ?_⟩
          rw [List.append_assoc, List.take_append_drop, hsplit]
        next =>
          cases h
          exact ⟨text, by rw [← hsplit]; simp, by simp⟩

/-- The head of a function is `fn`, white space and a name as long as there is. -/
theorem functionHeader_eq_some_iff {text rest : Text} {u : Unit} :
    functionHeader text = some (u, rest) ↔
      ∃ gap name, text = 'f' :: 'n' :: (gap ++ (name ++ rest)) ∧ gap ≠ [] ∧
        (∀ c ∈ gap, isBlank c = true) ∧ Reader.IsIdentifier name ∧
          ∀ c ∈ rest.head?, isWord c = false := by
  unfold functionHeader
  simp only [Reader.bind_eq_some_iff, Reader.word_eq_some_iff, Reader.blanks1_eq_some_iff,
    Reader.identifier_eq_some_iff, Reader.pure_apply, Option.some.injEq, Prod.mk.injEq]
  constructor
  · rintro ⟨_, _, rfl, _, _, ⟨gap, ⟨rfl, hgap, -⟩, hne⟩, name, _, ⟨hname, rfl, hend⟩, -, rfl⟩
    exact ⟨gap, name, rfl, hne, hgap, hname, hend⟩
  · rintro ⟨gap, name, rfl, hne, hgap, hname, hend⟩
    have hsolid : ∀ c ∈ (name ++ rest).head?, isBlank c = false := by
      obtain ⟨first, others, rfl, hfirst, -⟩ := hname
      rintro _ ⟨⟩
      exact isBlank_eq_false_of_isWord (isWord_of_isNameStart hfirst)
    exact ⟨(), _, rfl, (), _, ⟨gap, ⟨rfl, hgap, hsolid⟩, hne⟩, name, _, ⟨hname, rfl, hend⟩,
      trivial, rfl⟩

theorem functionHeader_eq_some {text rest : Text} {u : Unit}
    (h : functionHeader text = some (u, rest)) :
    ∃ written, text = 'f' :: 'n' :: (written ++ rest) ∧ '\x7b' ∉ written := by
  obtain ⟨gap, name, rfl, -, hgap, hname, -⟩ := functionHeader_eq_some_iff.mp h
  refine ⟨gap ++ name, by simp, fun hmem => ?_⟩
  rcases List.mem_append.mp hmem with hmem | hmem
  · exact absurd (hgap _ hmem) (by decide)
  · exact absurd (hname.isWord _ hmem) (by decide)

theorem functionHeader_staysBefore : functionHeader.StaysBefore endsStatement :=
  .bind (.word (by decide)) fun _ => .bind (.blanks1 isBlank_eq_false_of_endsStatement) fun _ =>
    .bind (.identifier isWord_eq_false_of_endsStatement) fun _ => .pure ()

theorem functionText_eq_some {text rest : Text} {u : Unit}
    (h : functionText text = some (u, rest)) :
    ∃ written, text = 'f' :: 'n' :: (written ++ rest) := by
  obtain ⟨_, middle, hheader, hblock⟩ := Reader.bind_eq_some_iff.mp h
  obtain ⟨front, htext, _⟩ := functionHeader_eq_some hheader
  obtain ⟨written, _, rfl⟩ := throughBlock_eq_some hblock
  exact ⟨front ++ written, by simp [htext]⟩

/-- A shape that starts with a character other than white space starts a word. -/
theorem startsWord_atWordStart {α : Type} {reader : Reader α} (first : Char)
    (hfirst : isBlank first = false)
    (h : ∀ text value rest, reader text = some (value, rest) →
      ∃ written, text = first :: (written ++ rest)) : (atWordStart reader).StartsWord where
  advances := by
    intro before text value rest hread
    unfold atWordStart at hread
    split at hread
    · cases hread
    · obtain ⟨written, rfl⟩ := h text value rest hread
      exact ⟨first :: written, by simp, rfl⟩
  refuses_blank := by
    intro before c rest hc
    unfold atWordStart
    split
    · rfl
    · cases hread : reader (c :: rest) with
      | none => rfl
      | some result =>
          obtain ⟨value, remaining⟩ := result
          obtain ⟨written, heq⟩ := h _ value remaining hread
          cases heq
          rw [hc] at hfirst
          cases hfirst
  eq_at_start := by
    intro before text hbefore
    unfold atWordStart
    rw [hbefore]
    rfl

theorem startsWord_functionText : (atWordStart functionText).StartsWord := by
  refine startsWord_atWordStart 'f' (by decide) fun text _ rest h => ?_
  obtain ⟨written, rfl⟩ := functionText_eq_some h
  exact ⟨'n' :: written, rfl⟩

theorem sealedText_of_ne {before : Option Char} {c : Char} {rest : Text} (hc : c ≠ '\x7b') :
    sealedText before (c :: rest) = atWordStart functionText before (c :: rest) := by
  unfold sealedText
  split
  next heq =>
    cases heq
    exact absurd rfl hc
  next => rfl

theorem startsWord_sealedText : sealedText.StartsWord where
  advances := by
    intro before text value rest h
    unfold sealedText at h
    split at h
    · exact throughBlock_eq_some h
    · exact startsWord_functionText.advances before text value rest h
  refuses_blank := by
    intro before c rest hc
    rw [sealedText_of_ne]
    · exact startsWord_functionText.refuses_blank before c rest hc
    · rintro rfl
      revert hc
      decide
  eq_at_start := by
    intro before text hbefore
    unfold sealedText
    split
    · rfl
    · exact startsWord_functionText.eq_at_start before _ hbefore

namespace IsWhole

variable {text : Text}

theorem settledIn_functionText (h : IsWhole text) (hfunctions : ClosesFunctions text) :
    (atWordStart functionText).SettledIn none text := by
  refine settledIn_atWordStart fun left c right htext hword more => ?_
  have hheader := (functionHeader_staysBefore _
    (h.stop_ahead htext (List.cons_ne_nil c right))).1 more
  cases hread : functionHeader (c :: right) with
  | none =>
      rw [hread] at hheader
      unfold functionText
      rw [Reader.bind_of_none hread, Reader.bind_of_none hheader]
      rfl
  | some result =>
      obtain ⟨u, rest⟩ := result
      rw [hread] at hheader
      unfold functionText
      rw [Reader.bind_of_some hread, Reader.bind_of_some hheader]
      refine throughBlock_append (hfunctions left (c :: right) rest htext ?_) more
      simp [atWordStart, hword, hread]

theorem settledIn_sealedText (h : IsWhole text) (hfunctions : ClosesFunctions text) :
    sealedText.SettledIn none text := by
  intro left c right htext more
  by_cases hc : c = '\x7b'
  · subst hc
    have hbalanced := h.balanced
    rw [htext] at hbalanced
    obtain ⟨offset, hoffset⟩ := exists_closingBrace? _ hbalanced
    have hblock : ('\x7b' :: right).dropWhile (· != '\x7b') = '\x7b' :: right := rfl
    show throughBlock ('\x7b' :: right ++ more) = (throughBlock ('\x7b' :: right)).map _
    exact throughBlock_append (by rw [hblock, hoffset]; rfl) more
  · rw [List.cons_append, sealedText_of_ne hc, sealedText_of_ne hc]
    exact h.settledIn_functionText hfunctions left c right htext more

end IsWhole

/-- A text starts with an opening brace where none comes before. -/
theorem dropWhile_eq_cons_of_mem {text : Text} (h : '\x7b' ∈ text) :
    ∃ rest, text.dropWhile (· != '\x7b') = '\x7b' :: rest := by
  induction text with
  | nil => cases h
  | cons c text ih =>
      by_cases hc : c = '\x7b'
      · exact ⟨text, by simp [hc]⟩
      · rw [List.dropWhile_cons_of_pos (by simpa using hc)]
        exact ih ((List.mem_cons.mp h).resolve_left (Ne.symm hc))

/-- In a whole text, the body of a function closes if it opens. -/
theorem IsWhole.isSome_closingBrace? {left right rest : Text} (h : IsWhole (left ++ right))
    (hrest : rest <:+ right) (hmem : '\x7b' ∈ rest) :
    (closingBrace? (rest.dropWhile (· != '\x7b'))).isSome := by
  obtain ⟨block, hblock⟩ := dropWhile_eq_cons_of_mem hmem
  have hsuffix : '\x7b' :: block <:+ left ++ right :=
    hblock ▸ ((List.dropWhile_suffix _).trans hrest).trans (List.suffix_append left right)
  obtain ⟨front, hfront⟩ := hsuffix
  have hbalanced := h.balanced
  rw [← hfront] at hbalanced
  obtain ⟨offset, hoffset⟩ := exists_closingBrace? _ hbalanced
  rw [hblock, hoffset]
  rfl

/-- A text that closes its functions does so in front of the white space at its end. -/
theorem ClosesFunctions.of_append {text gap : Text} (h : ClosesFunctions (text ++ gap))
    (hwhole : IsWhole text) (hgap : ∀ c ∈ gap, isBlank c = true) : ClosesFunctions text := by
  rintro left right rest rfl hread
  have hword : left.getLast?.any isWord = false := by
    by_contra hword
    simp [atWordStart, hword] at hread
  have hheader : functionHeader right = some ((), rest) := by
    simpa [atWordStart, hword] using hread
  obtain ⟨written, hright, _⟩ := functionHeader_eq_some hheader
  have hmore : functionHeader (right ++ gap) = some ((), rest ++ gap) := by
    rw [(functionHeader_staysBefore _ (hwhole.stop_ahead rfl (by simp [hright]))).1 gap, hheader]
    rfl
  have hclosing := h left (right ++ gap) (rest ++ gap) (by simp)
    (by simpa [atWordStart, hword] using hmore)
  refine hwhole.isSome_closingBrace? ⟨'f' :: 'n' :: written, hright.symm⟩ ?_
  -- White space holds no brace, so the body opens in front of it.
  by_contra hmem
  have hnil : (rest ++ gap).dropWhile (· != '\x7b') = [] := by
    rw [List.dropWhile_eq_nil_iff]
    intro c hc
    rcases List.mem_append.mp hc with hc | hc
    · simpa using ne_of_mem_of_not_mem hc hmem
    · have hblank := hgap c hc
      simp only [bne_iff_ne, ne_eq]
      rintro rfl
      revert hblank
      decide
  rw [hnil] at hclosing
  cases hclosing

/-- No brace closes in a balanced text where none has opened. -/
theorem openBraces?_eq_zero {text : Text} {depth : Nat} (hfree : '\x7b' ∉ text)
    (h : openBraces? 0 text = some depth) : depth = 0 ∧ '\x7d' ∉ text := by
  induction text with
  | nil => exact ⟨by simpa [openBraces?] using h.symm, by simp⟩
  | cons c text ih =>
      rw [List.mem_cons, not_or] at hfree
      rw [openBraces?, if_neg (Ne.symm hfree.1)] at h
      split at h
      next => cases h
      next hclose =>
        obtain ⟨hdepth, hrest⟩ := ih hfree.2 h
        exact ⟨hdepth, by simp [Ne.symm hclose, hrest]⟩

/-- What is left behind a block of a balanced text is balanced. -/
theorem openBraces?_of_throughBlock (front : Text) {text rest : Text} {u : Unit} (hfront : '\x7b' ∉ front)
    (hread : throughBlock text = some (u, rest)) (h : openBraces? 0 (front ++ text) = some 0) :
    openBraces? 0 rest = some 0 := by
  have hmem : '\x7b' ∈ text := by
    by_contra hmem
    have hnil : text.dropWhile (· != '\x7b') = [] := by
      rw [List.dropWhile_eq_nil_iff]
      intro c hc
      simpa using ne_of_mem_of_not_mem hc hmem
    unfold throughBlock at hread
    rw [hnil] at hread
    cases hread
  obtain ⟨block, hblock⟩ := dropWhile_eq_cons_of_mem hmem
  have hsplit : front ++ text = (front ++ text.takeWhile (· != '\x7b')) ++ '\x7b' :: block := by
    rw [List.append_assoc, ← hblock, List.takeWhile_append_dropWhile]
  have hbefore : '\x7b' ∉ front ++ text.takeWhile (· != '\x7b') := by
    intro hmem
    rcases List.mem_append.mp hmem with hmem | hmem
    · exact hfront hmem
    · simpa using List.mem_takeWhile_imp hmem
  rw [hsplit] at h
  obtain ⟨offset, hoffset⟩ := exists_closingBrace? _ h
  rw [throughBlock_of_closing (hblock ▸ hoffset), hblock] at hread
  cases hread
  rw [openBraces?_append] at h
  obtain ⟨depth, hdepth, h⟩ := Option.bind_eq_some_iff.mp h
  rw [(openBraces?_eq_zero hbefore hdepth).1] at h
  rw [← openBraces?_block 0 hoffset, h]

/-- Outside of the functions and blocks of a balanced text there is no brace. -/
theorem ne_brace_of_plain_mem {before : Option Char} {text : Text} {pieces : List (Segment Unit)}
    (hpieces : Segmented sealedText before text pieces) (h : openBraces? 0 text = some 0) {c : Char}
    (hmem : .plain c ∈ pieces) : c ≠ '\x7d' := by
  induction hpieces with
  | nil => cases hmem
  | @plain before d rest pieces hread hrest ih =>
      have hopen : d ≠ '\x7b' := by
        rintro rfl
        have hblock := h
        rw [← List.nil_append ('\x7b' :: rest)] at hblock
        obtain ⟨offset, hoffset⟩ := exists_closingBrace? _ hblock
        have hthrough : throughBlock ('\x7b' :: rest) = none := hread
        rw [throughBlock_of_closing (by exact hoffset)] at hthrough
        cases hthrough
      rw [openBraces?, if_neg hopen] at h
      split at h
      next => cases h
      next hclose =>
        rcases List.mem_cons.mp hmem with heq | hmem
        · cases heq
          exact hclose
        · exact ih h hmem
  | @hit before u written rest pieces hne hread hrest ih =>
      refine ih ?_ (by simpa using hmem)
      unfold sealedText at hread
      split at hread
      next => exact openBraces?_of_throughBlock [] List.not_mem_nil hread h
      next =>
        unfold atWordStart at hread
        split at hread
        next => cases hread
        next =>
          obtain ⟨_, middle, hheader, hblock⟩ := Reader.bind_eq_some_iff.mp hread
          obtain ⟨header, hsplit, hfree⟩ := functionHeader_eq_some hheader
          rw [hsplit] at h
          exact openBraces?_of_throughBlock ('f' :: 'n' :: header) (by simp [hfree]) hblock
            (by simpa using h)

/-! ## Structs -/

/-- Reads the keyword, the name and the opening brace of a struct. -/
def structHead : Reader Text := do
  Reader.word "struct"
  Reader.blanks1
  let name ← Reader.identifier
  Reader.blanks
  Reader.symbol '\x7b'
  pure name

/-- The text up to the brace that closes the one in front of it. -/
def structBody? (rest : Text) : Option Text :=
  (closingBrace? ('\x7b' :: rest)).map fun offset => rest.take (offset - 1)

/-- Chains whose last steps differ by a change of the result differ by that change. -/
theorem Reader.bind_eq_map {α β γ : Type} {first : Reader α} {next : α → Reader β}
    {other : α → Reader γ} {change : γ × Text → β × Text} {text : Text}
    (h : ∀ a rest, next a rest = (other a rest).map change) :
    (first >>= next) text = ((first >>= other) text).map change := by
  cases hread : first text with
  | none => rw [bind_of_none hread, bind_of_none hread, Option.map_none]
  | some result => rw [bind_of_some hread, bind_of_some hread, h]

theorem structHeader_eq (text : Text) :
    structHeader text = (structHead text).map fun (name, rest) =>
      ((name, structBody? rest), rest) :=
  Reader.bind_eq_map fun _ _ => Reader.bind_eq_map fun _ _ => Reader.bind_eq_map fun _ _ =>
    Reader.bind_eq_map fun _ _ => Reader.bind_eq_map fun _ _ => rfl

theorem structHead_staysBefore : structHead.StaysBefore endsStatement :=
  .bind (.word (by decide)) fun _ => .bind (.blanks1 isBlank_eq_false_of_endsStatement) fun _ =>
    .bind (.identifier isWord_eq_false_of_endsStatement) fun _ =>
    .bind (.blanks isBlank_eq_false_of_endsStatement) fun _ =>
    .bind (.symbol (by decide)) fun _ => .pure _

theorem structHead_eq_some {text rest name : Text} (h : structHead text = some (name, rest)) :
    ∃ written, text = 's' :: (written ++ '\x7b' :: rest) := by
  unfold structHead at h
  simp only [Reader.bind_eq_some_iff, Reader.word_eq_some_iff, Reader.blanks1_eq_some_iff,
    Reader.blanks_eq_some_iff, Reader.identifier_eq_some_iff, Reader.symbol_eq_some_iff,
    Reader.pure_apply, Option.some.injEq, Prod.mk.injEq] at h
  obtain ⟨_, _, rfl, _, _, ⟨gap, ⟨rfl, _⟩, _⟩, word, _, ⟨_, rfl, _⟩, _, _, ⟨gap', rfl, _⟩, _, _,
    rfl, rfl, rfl⟩ := h
  exact ⟨"truct".toList ++ gap ++ word ++ gap', by simp⟩

theorem startsWord_structHeader : (atWordStart structHeader).StartsWord := by
  refine startsWord_atWordStart 's' (by decide) fun text value rest h => ?_
  rw [structHeader_eq] at h
  obtain ⟨⟨name, remaining⟩, hhead, heq⟩ := Option.map_eq_some_iff.mp h
  cases heq
  obtain ⟨written, rfl⟩ := structHead_eq_some hhead
  exact ⟨written ++ ['\x7b'], by simp⟩

theorem structBody?_append {rest : Text} {offset : Nat}
    (h : closingBrace? ('\x7b' :: rest) = some offset) (more : Text) :
    structBody? (rest ++ more) = structBody? rest := by
  have hmore : closingBrace? ('\x7b' :: (rest ++ more)) = some offset := closingFrom_append h more
  have hlength := lt_length_of_closingFrom h
  rw [List.length_cons] at hlength
  unfold structBody?
  rw [h, hmore, Option.map_some, Option.map_some, List.take_append_of_le_length (by omega)]

theorem IsWhole.settledIn_structHeader {text : Text} (h : IsWhole text) :
    (atWordStart structHeader).SettledIn none text := by
  refine settledIn_atWordStart fun left c right htext _ more => ?_
  simp only [structHeader_eq,
    (structHead_staysBefore _ (h.stop_ahead htext (List.cons_ne_nil c right))).1 more,
    Option.map_map]
  refine Option.map_congr fun ⟨name, rest⟩ hhead => ?_
  obtain ⟨written, hright⟩ := structHead_eq_some hhead
  have hbalanced := h.balanced
  rw [htext, hright, ← List.cons_append, ← List.append_assoc] at hbalanced
  obtain ⟨offset, hoffset⟩ := exists_closingBrace? _ hbalanced
  simp [followedBy, structBody?_append hoffset more]

/-! ## Statements -/

/-- A text that closes all braces and ends with the end of a statement is cut into chunks on its
own. -/
theorem exists_statementChunks_append {depth : Nat} {text : Text} (hne : text ≠ [])
    (hstops : ∀ c ∈ text.getLast?, endsStatement c = true)
    (hbraces : openBraces? depth text = some 0) :
    ∃ first chunks, ∀ more,
      statementChunks depth (text ++ more) = first :: (chunks ++ statementChunks 0 more) := by
  induction text generalizing depth with
  | nil => exact absurd rfl hne
  | cons c text ih =>
      rw [openBraces?] at hbraces
      by_cases hnil : text = []
      · subst hnil
        have hc : endsStatement c = true := hstops c rfl
        refine ⟨[c], [], fun more => ?_⟩
        rw [List.singleton_append, statementChunks]
        rcases endsStatement_iff.mp hc with rfl | rfl
        · have hdepth : depth = 0 := by simpa [openBraces?] using hbraces
          simp [hdepth]
        · have hdepth : depth ≠ 0 ∧ depth - 1 = 0 := by simpa [openBraces?] using hbraces
          simp [hdepth.2]
      · rw [List.getLast?_cons_of_ne_nil hnil] at hstops
        -- The character goes in front of the first chunk behind it, or is a chunk of its own.
        have hjoin : ∀ next, openBraces? next text = some 0 → ∃ first chunks, ∀ more,
            Text.onFirst c (statementChunks next (text ++ more))
              = first :: (chunks ++ statementChunks 0 more) := by
          intro next hnext
          obtain ⟨first, chunks, hchunks⟩ := ih hnil hstops hnext
          exact ⟨c :: first, chunks, fun more => by rw [hchunks, Text.onFirst]⟩
        have hcut : openBraces? 0 text = some 0 → ∃ first chunks, ∀ more,
            [c] :: statementChunks 0 (text ++ more)
              = first :: (chunks ++ statementChunks 0 more) := by
          intro hnext
          obtain ⟨first, chunks, hchunks⟩ := ih hnil hstops hnext
          exact ⟨[c], first :: chunks, fun more => by rw [hchunks, List.cons_append]⟩
        simp only [List.cons_append, statementChunks]
        split at hbraces
        next hopen =>
          simp only [if_pos hopen]
          exact hjoin _ hbraces
        next hopen =>
          simp only [if_neg hopen]
          split at hbraces
          next hclose =>
            simp only [if_pos hclose]
            split at hbraces
            next => cases hbraces
            next hdepth =>
              split
              next hzero => exact hcut (hzero ▸ hbraces)
              next => exact hjoin _ hbraces
          next hclose =>
            simp only [if_neg hclose]
            split
            next hstop => exact hcut (hstop.2 ▸ hbraces)
            next => exact hjoin _ hbraces

/-- A whole text is cut into chunks on its own. -/
theorem IsWhole.exists_statementChunks {text : Text} (h : IsWhole text) :
    ∃ chunks, ∀ more, statementChunks 0 (text ++ more) = chunks ++ statementChunks 0 more := by
  by_cases hnil : text = []
  · exact ⟨[], fun more => by simp [hnil]⟩
  · obtain ⟨first, chunks, hchunks⟩ := exists_statementChunks_append hnil h.stops h.balanced
    exact ⟨first :: chunks, hchunks⟩

/-- A text without braces that ends with its only semicolon is a chunk of its own. -/
theorem statementChunks_line {body : Text} (hfree : ∀ c ∈ body, c ≠ '\x7b' ∧ c ≠ '\x7d' ∧ c ≠ ';')
    (more : Text) :
    statementChunks 0 (body ++ ';' :: more) = (body ++ [';']) :: statementChunks 0 more := by
  induction body with
  | nil => simp [statementChunks]
  | cons c body ih =>
      rw [List.forall_mem_cons] at hfree
      obtain ⟨⟨hopen, hclose, hstop⟩, hfree⟩ := hfree
      rw [List.cons_append, statementChunks, if_neg hopen, if_neg hclose,
        if_neg fun h => hstop h.1, ih hfree]
      rfl

theorem exists_statementChunks_eq_cons (depth : Nat) (text : Text) :
    ∃ first chunks, statementChunks depth text = first :: chunks := by
  have honFirst : ∀ c texts, ∃ first chunks, Text.onFirst c texts = first :: chunks := by
    intro c texts
    cases texts <;> exact ⟨_, _, rfl⟩
  cases text with
  | nil => exact ⟨[], [], rfl⟩
  | cons c text =>
      rw [statementChunks]
      split
      · exact honFirst _ _
      · split
        · split
          · exact ⟨_, _, rfl⟩
          · exact honFirst _ _
        · split
          · exact ⟨_, _, rfl⟩
          · exact honFirst _ _

theorem ne_of_isBlank {c d : Char} (hc : isBlank c = true) (hd : isBlank d = false) : c ≠ d := by
  rintro rfl
  rw [hc] at hd
  cases hd

/-- White space belongs to the chunk behind it. -/
theorem statementChunks_blank {gap : Text} (hgap : ∀ c ∈ gap, isBlank c = true) (more : Text) :
    ∃ first chunks, statementChunks 0 more = first :: chunks ∧
      statementChunks 0 (gap ++ more) = (gap ++ first) :: chunks := by
  induction gap with
  | nil =>
      obtain ⟨first, chunks, hmore⟩ := exists_statementChunks_eq_cons 0 more
      exact ⟨first, chunks, hmore, hmore⟩
  | cons c gap ih =>
      rw [List.forall_mem_cons] at hgap
      obtain ⟨first, chunks, hmore, hchunks⟩ := ih hgap.2
      refine ⟨first, chunks, hmore, ?_⟩
      rw [List.cons_append, statementChunks, if_neg (ne_of_isBlank hgap.1 (by decide)),
        if_neg (ne_of_isBlank hgap.1 (by decide)),
        if_neg fun h => ne_of_isBlank hgap.1 (by decide) h.1, hchunks]
      rfl

/-- The texts of the statements that chunks hold. -/
def chunkTexts (chunks : List Text) : List Text :=
  (chunks.map Text.trim).filter (!·.isEmpty)

theorem chunkTexts_append (chunks others : List Text) :
    chunkTexts (chunks ++ others) = chunkTexts chunks ++ chunkTexts others := by
  simp [chunkTexts]

theorem trim_eq_nil_iff {text : Text} : Text.trim text = [] ↔ Text.trimLeft text = [] := by
  constructor
  · intro h
    by_contra hne
    have hblank : ∀ c ∈ Text.trimLeft text, isBlank c = true := trimRight_eq_nil h
    have hhead : isBlank ((Text.trimLeft text).head hne) = false :=
      List.head_dropWhile_not isBlank hne
    rw [hblank _ (List.head_mem hne)] at hhead
    cases hhead
  · intro h
    rw [Text.trim, h, Text.trimRight]

theorem map_text_statementsFrom (offset : Nat) (chunks : List Text) :
    (statementsFrom offset chunks).map (·.text) = chunkTexts chunks := by
  induction chunks generalizing offset with
  | nil => rfl
  | cons chunk chunks ih =>
      rw [statementsFrom, chunkTexts, List.map_cons]
      split
      next hempty =>
        have hnil := trim_eq_nil_iff.mpr (List.isEmpty_iff.mp hempty)
        rw [ih, hnil]
        rfl
      next hempty =>
        have hne : (Text.trim chunk).isEmpty = false := by
          rw [List.isEmpty_eq_false_iff, Ne, trim_eq_nil_iff]
          simpa using hempty
        rw [List.map_cons, ih, List.filter_cons_of_pos (by simp [hne])]
        rfl

theorem trim_blank_append {gap : Text} (hgap : ∀ c ∈ gap, isBlank c = true) (text : Text) :
    Text.trim (gap ++ text) = Text.trim text := by
  unfold Text.trim Text.trimLeft
  rw [List.dropWhile_append_of_pos hgap]

/-- The texts of the statements behind white space. -/
theorem chunkTexts_blank {gap : Text} (hgap : ∀ c ∈ gap, isBlank c = true) (more : Text) :
    chunkTexts (statementChunks 0 (gap ++ more)) = chunkTexts (statementChunks 0 more) := by
  obtain ⟨first, chunks, hmore, hchunks⟩ := statementChunks_blank hgap more
  rw [hmore, hchunks, chunkTexts, chunkTexts, List.map_cons, List.map_cons,
    trim_blank_append hgap]

theorem trimRight_append_cons (text : Text) {c : Char} (hc : isBlank c = false) (rest : Text) :
    Text.trimRight (text ++ c :: rest) = text ++ c :: Text.trimRight rest := by
  induction text with
  | nil =>
      rw [List.nil_append, Text.trimRight]
      cases Text.trimRight rest <;> simp [hc]
  | cons d text ih =>
      rw [List.cons_append, Text.trimRight, ih]
      split
      next hnil => simp at hnil
      next => rfl

/-- Trimming stops at a character that is not white space. -/
theorem trim_append_cons (text : Text) {c : Char} (hc : isBlank c = false) (rest : Text) :
    Text.trim (text ++ c :: rest) = Text.trimLeft text ++ c :: Text.trimRight rest := by
  have hleft : Text.trimLeft (text ++ c :: rest) = Text.trimLeft text ++ c :: rest := by
    unfold Text.trimLeft
    rw [List.dropWhile_append]
    split
    next hnil => rw [List.isEmpty_iff.mp hnil, List.dropWhile_cons_of_neg (by simp [hc])]; rfl
    next => rfl
  rw [Text.trim, hleft, trimRight_append_cons _ hc]

theorem statementsFrom_append (offset : Nat) (chunks others : List Text) :
    statementsFrom offset (chunks ++ others)
      = statementsFrom offset chunks
        ++ statementsFrom (offset + chunks.flatten.length) others := by
  induction chunks generalizing offset with
  | nil => rfl
  | cons chunk chunks ih =>
      rw [List.cons_append, statementsFrom, statementsFrom, ih, List.flatten_cons,
        List.length_append, ← Nat.add_assoc]
      split <;> rfl

end ShaderMarkup
