import ShaderMarkup.Proofs.Conservation
import ShaderMarkup.Proofs.Nesting
import ShaderMarkup.Proofs.Stage

/-!
# Regions as a partition

`regions` cuts a source at its functions and blocks.  `Parted` says how, one sealed region at a
time: in front of it nothing can be sealed, and behind it the same goes on.  What one sealed region
is comes from `of_sealedText`: it starts with a brace or with the head of a function, and it ends
where its braces close for the first time, or they never close and it is the last one.  The rest is
induction on the relation:

* The regions are a partition of the source (`IsPartition`): nothing is lost, open regions hold
  neither braces nor functions, and sealed ones are blocks and functions from their start to the
  brace that closes them.
* A search for functions alone (`functionBodies`) finds the sealed regions that are functions,
  unless a block holds one (`Parted.filterMap_hitText?`).
-/

namespace ShaderMarkup

/-! ## Blocks -/

/-- The depth of braces behind a text. -/
def braceNesting (text : Text) : Int :=
  nesting (· == '\x7b') (· == '\x7d') text

/-- The text from its first opening brace on. -/
def fromBrace (text : Text) : Text :=
  text.dropWhile (· != '\x7b')

/-- Counted from the first opening brace of the text, the depth comes back to zero for the first
time behind the closing brace at the end of the text. -/
def ClosesAtEnd (text : Text) : Prop :=
  (fromBrace text).getLast? = some '\x7d' ∧
    ∀ front, front <+: fromBrace text → front ≠ [] →
      (braceNesting front = 0 ↔ front = fromBrace text)

/-- Counted from the first opening brace of the text, the depth never comes back to zero. -/
def StaysOpen (text : Text) : Prop :=
  fromBrace text ≠ [] ∧ ∀ front, front <+: fromBrace text → front ≠ [] → braceNesting front ≠ 0

theorem fromBrace_append {head : Text} (hhead : '\x7b' ∉ head) (text : Text) :
    fromBrace (head ++ text) = fromBrace text := by
  refine List.dropWhile_append_of_pos fun c hc => ?_
  simpa using ne_of_mem_of_not_mem hc hhead

@[simp] theorem fromBrace_cons (text : Text) : fromBrace ('\x7b' :: text) = '\x7b' :: text :=
  rfl

theorem braceNesting_cons (text : Text) :
    braceNesting ('\x7b' :: text) = 1 + nesting (· == '\x7b') (· == '\x7d') text := by
  unfold braceNesting
  rw [← Int.zero_add (nesting _ _ _), ← depthAfter_add_nesting (by simp)]
  rfl

theorem mem_of_fromBrace_ne_nil {text : Text} (h : fromBrace text ≠ []) : '\x7b' ∈ text := by
  by_contra hmem
  refine h (List.dropWhile_eq_nil_iff.mpr fun c hc => ?_)
  simpa using ne_of_mem_of_not_mem hc hmem

section Blocks

variable {text rest : Text} {u : Unit}

theorem ClosesAtEnd.brace_mem (h : ClosesAtEnd text) : '\x7b' ∈ text := by
  refine mem_of_fromBrace_ne_nil fun hnil => ?_
  have hlast := h.1
  rw [hnil] at hlast
  cases hlast

theorem ClosesAtEnd.getLast?_eq (h : ClosesAtEnd text) : text.getLast? = some '\x7d' := by
  have hsplit : text.takeWhile (· != '\x7b') ++ fromBrace text = text :=
    List.takeWhile_append_dropWhile
  rw [← hsplit, List.getLast?_append, h.1]
  rfl

theorem StaysOpen.brace_mem (h : StaysOpen text) : '\x7b' ∈ text :=
  mem_of_fromBrace_ne_nil h.1

theorem ClosesAtEnd.append {head : Text} (hhead : '\x7b' ∉ head) (h : ClosesAtEnd text) :
    ClosesAtEnd (head ++ text) := by
  unfold ClosesAtEnd
  rwa [fromBrace_append hhead]

theorem StaysOpen.append {head : Text} (hhead : '\x7b' ∉ head) (h : StaysOpen text) :
    StaysOpen (head ++ text) := by
  unfold StaysOpen
  rwa [fromBrace_append hhead]

/-- A nonempty front of a block is its brace and a front of what is behind it. -/
theorem exists_of_prefix_block {front more : Text} (h : front <+: '\x7b' :: more)
    (hne : front ≠ []) : ∃ inner, front = '\x7b' :: inner ∧ inner <+: more :=
  (List.prefix_cons_iff.mp h).resolve_left hne

theorem closesAtEnd_block {inside : Text}
    (hclosed : 1 + nesting (· == '\x7b') (· == '\x7d') (inside ++ ['\x7d']) = 0)
    (hinside : ∀ front, front <+: inside → 1 ≤ 1 + nesting (· == '\x7b') (· == '\x7d') front) :
    ClosesAtEnd ('\x7b' :: (inside ++ ['\x7d'])) := by
  refine ⟨by rw [fromBrace_cons, ← List.cons_append, List.getLast?_concat],
    fun front hfront hne => ?_⟩
  obtain ⟨inner, rfl, hinner⟩ := exists_of_prefix_block hfront hne
  rw [braceNesting_cons, fromBrace_cons, List.cons.injEq, eq_self_iff_true, true_and]
  rcases List.prefix_concat_iff.mp hinner with rfl | hinner
  · exact iff_of_true hclosed rfl
  · refine iff_of_false (by have := hinside inner hinner; omega) ?_
    rintro rfl
    exact absurd hinner.length_le (by simp)

theorem staysOpen_block {more : Text}
    (h : ∀ front, front <+: more → 1 ≤ 1 + nesting (· == '\x7b') (· == '\x7d') front) :
    StaysOpen ('\x7b' :: more) := by
  refine ⟨List.cons_ne_nil _ _, fun front hfront hne => ?_⟩
  obtain ⟨inner, rfl, hinner⟩ := exists_of_prefix_block hfront hne
  rw [braceNesting_cons]
  have := h inner hinner
  omega

theorem throughBlock_eq_none (h : '\x7b' ∉ text) : throughBlock text = none := by
  have hnil : text.dropWhile (· != '\x7b') = [] :=
    List.dropWhile_eq_nil_iff.mpr fun c hc => by simpa using ne_of_mem_of_not_mem hc h
  rw [throughBlock, hnil]

theorem throughBlock_append_block {head : Text} (hhead : '\x7b' ∉ head) (more : Text) :
    throughBlock (head ++ '\x7b' :: more)
      = some ((), (closingBrace? ('\x7b' :: more)).elim []
          fun offset => more.drop offset) := by
  have hblock : (head ++ '\x7b' :: more).dropWhile (· != '\x7b') = '\x7b' :: more :=
    fromBrace_append hhead _
  rw [throughBlock, hblock]
  dsimp only
  cases closingBrace? ('\x7b' :: more) <;> rfl

/-- Reading through a block ends where the block closes, or with the text. -/
theorem exists_of_throughBlock (h : throughBlock text = some (u, rest)) :
    ∃ written, text = written ++ rest ∧ (ClosesAtEnd written ∨ rest = [] ∧ StaysOpen written) := by
  have hmem : '\x7b' ∈ text := by
    by_contra hmem
    rw [throughBlock_eq_none hmem] at h
    cases h
  obtain ⟨head, more, rfl, hhead⟩ := List.eq_append_cons_of_mem hmem
  have hapart : ∀ c : Char, (c == '\x7b') = true → (c == '\x7d') = false := by simp
  have hdepth : closingBrace? ('\x7b' :: more)
      = (closingFrom (· == '\x7b') (· == '\x7d') 1 more).map (· + 1) := rfl
  rw [throughBlock_append_block hhead, hdepth] at h
  cases hclosing : closingFrom (· == '\x7b') (· == '\x7d') 1 more with
  | none =>
      rw [hclosing] at h
      cases h
      refine ⟨head ++ '\x7b' :: more, (List.append_nil _).symm, Or.inr ⟨rfl, ?_⟩⟩
      refine .append hhead (staysOpen_block fun front hfront => ?_)
      exact nesting_of_closingFrom_eq_none hapart (Int.le_refl 1) hclosing hfront
  | some offset =>
      obtain ⟨inside, close, behind, rfl, rfl, hclose, hclosed, hinside⟩ :=
        exists_of_closingFrom_eq_some hapart (Int.le_refl 1) hclosing
      obtain rfl : close = '\x7d' := by simpa using hclose
      rw [hclosing] at h
      have hrest : behind = rest := by simpa using h
      subst hrest
      refine ⟨head ++ '\x7b' :: (inside ++ ['\x7d']), by simp, Or.inl ?_⟩
      exact .append hhead (closesAtEnd_block hclosed hinside)

end Blocks

/-! ## Heads of functions -/

/-- The text starts with `fn`, white space and a name. -/
def StartsFunction (text : Text) : Prop :=
  ∃ gap name behind, text = 'f' :: 'n' :: (gap ++ (name ++ behind)) ∧ gap ≠ [] ∧
    (∀ c ∈ gap, isBlank c = true) ∧ Reader.IsIdentifier name

/-- Somewhere in the text, and not within a word, stand `fn`, white space and a name. -/
def HoldsFunction (text : Text) : Prop :=
  ∃ left right, text = left ++ right ∧ left.getLast?.any isWord = false ∧ StartsFunction right

section Functions

variable {text : Text}

theorem StartsFunction.append (h : StartsFunction text) (more : Text) :
    StartsFunction (text ++ more) := by
  obtain ⟨gap, name, behind, rfl, hgap⟩ := h
  exact ⟨gap, name, behind ++ more, by simp, hgap⟩

theorem StartsFunction.exists_cons (h : StartsFunction text) : ∃ rest, text = 'f' :: rest := by
  obtain ⟨_, _, _, rfl, -⟩ := h
  exact ⟨_, rfl⟩

/-- A stretch starts with a brace or with a function, not with both. -/
theorem StartsFunction.head?_ne_brace (h : StartsFunction text) : text.head? ≠ some '\x7b' := by
  obtain ⟨rest, rfl⟩ := h.exists_cons
  simp

/-- A name that goes on is a name. -/
theorem isIdentifier_append {name more : Text} (h : Reader.IsIdentifier name)
    (hmore : ∀ c ∈ more, isWord c = true) : Reader.IsIdentifier (name ++ more) := by
  obtain ⟨c, rest, rfl, hc, hrest⟩ := h
  refine ⟨c, rest ++ more, rfl, hc, fun d hd => ?_⟩
  exact (List.mem_append.mp hd).elim (hrest d) (hmore d)

theorem exists_of_functionHeader {rest : Text} {u : Unit}
    (h : functionHeader text = some (u, rest)) :
    ∃ head, text = head ++ rest ∧ StartsFunction head ∧ '\x7b' ∉ head := by
  obtain ⟨written, htext, hbrace⟩ := functionHeader_eq_some h
  obtain ⟨gap, name, rfl, hne, hgap, hname, -⟩ := functionHeader_eq_some_iff.mp h
  obtain rfl : gap ++ name = written := by simpa [← List.append_assoc] using htext
  exact ⟨'f' :: 'n' :: (gap ++ name), by simp, ⟨gap, name, [], by simp, hne, hgap, hname⟩,
    by simpa using hbrace⟩

theorem startsFunction_iff : StartsFunction text ↔ (functionHeader text).isSome = true := by
  rw [Option.isSome_iff_exists]
  constructor
  · rintro ⟨gap, name, behind, rfl, hne, hgap, hname⟩
    -- The reader takes the longest name there is.
    obtain ⟨hsplit, hword, hend⟩ := Reader.longest_run_iff.mp
      (⟨rfl, rfl⟩ : behind.takeWhile isWord = _ ∧ behind.dropWhile isWord = _)
    refine ⟨((), behind.dropWhile isWord), functionHeader_eq_some_iff.mpr ?_⟩
    refine ⟨gap, name ++ behind.takeWhile isWord, ?_, hne, hgap,
      isIdentifier_append hname hword, hend⟩
    rw [List.append_assoc, ← hsplit]
  · rintro ⟨⟨u, rest⟩, hread⟩
    obtain ⟨head, rfl, hhead, -⟩ := exists_of_functionHeader hread
    exact hhead.append rest

instance : Decidable (StartsFunction text) :=
  decidable_of_iff _ startsFunction_iff.symm

theorem holdsFunction_iff : HoldsFunction text ↔ ∃ place ∈ List.range (text.length + 1),
    (text.take place).getLast?.any isWord = false ∧ StartsFunction (text.drop place) := by
  constructor
  · rintro ⟨left, right, rfl, hleft, hright⟩
    have hplace : left.length < (left ++ right).length + 1 := by
      rw [List.length_append]
      omega
    exact ⟨left.length, List.mem_range.mpr hplace, by simpa using ⟨hleft, hright⟩⟩
  · rintro ⟨place, -, hleft, hright⟩
    exact ⟨text.take place, text.drop place, (List.take_append_drop place text).symm, hleft, hright⟩

instance : Decidable (HoldsFunction text) :=
  decidable_of_iff _ holdsFunction_iff.symm

end Functions

/-! ## Sealed stretches -/

section Sealed

variable {before : Option Char} {written rest : Text} {u : Unit}

/-- What one sealed stretch is. -/
theorem of_sealedText (h : sealedText before (written ++ rest) = some (u, rest)) :
    (written.head? = some '\x7b' ∨ before.any isWord = false ∧ StartsFunction written) ∧
      (ClosesAtEnd written ∨ rest = [] ∧ StaysOpen written) := by
  generalize htext : written ++ rest = text at h
  unfold sealedText at h
  split at h
  next text more =>
    obtain ⟨block, hblock, hcloses⟩ := exists_of_throughBlock h
    obtain rfl : written = block := List.append_cancel_right (htext.trans hblock)
    have hmem : '\x7b' ∈ written := hcloses.elim (·.brace_mem) (·.2.brace_mem)
    obtain ⟨first, others, rfl⟩ := List.exists_cons_of_ne_nil (List.ne_nil_of_mem hmem)
    cases htext
    exact ⟨Or.inl rfl, hcloses⟩
  next =>
    unfold atWordStart at h
    split at h
    next => cases h
    next hbefore =>
      obtain ⟨_, middle, hheader, hblock⟩ := Reader.bind_eq_some_iff.mp h
      obtain ⟨head, rfl, hhead, hbrace⟩ := exists_of_functionHeader hheader
      obtain ⟨block, rfl, hcloses⟩ := exists_of_throughBlock hblock
      obtain rfl : written = head ++ block :=
        List.append_cancel_right (htext.trans (List.append_assoc _ _ _).symm)
      refine ⟨Or.inr ⟨Bool.eq_false_iff.mpr hbefore, hhead.append block⟩, ?_⟩
      exact hcloses.imp (.append hbrace) fun ⟨hrest, hopen⟩ => ⟨hrest, hopen.append hbrace⟩

theorem brace_mem_of_sealedText (h : sealedText before (written ++ rest) = some (u, rest)) :
    '\x7b' ∈ written :=
  (of_sealedText h).2.elim (·.brace_mem) (·.2.brace_mem)

theorem throughBlock_ne_none {text : Text} (h : '\x7b' ∈ text) : throughBlock text ≠ none := by
  obtain ⟨head, more, rfl, hhead⟩ := List.eq_append_cons_of_mem h
  rw [throughBlock_append_block hhead]
  exact Option.some_ne_none _

/-- The head of a function with a brace somewhere behind it is that of a sealed stretch. -/
theorem functionText_ne_none {text : Text} (h : StartsFunction text) (hbrace : '\x7b' ∈ text) :
    functionText text ≠ none := by
  obtain ⟨⟨_, behind⟩, hread⟩ := Option.isSome_iff_exists.mp (startsFunction_iff.mp h)
  obtain ⟨head, rfl, -, hhead⟩ := exists_of_functionHeader hread
  unfold functionText
  rw [Reader.bind_of_some hread]
  exact throughBlock_ne_none ((List.mem_append.mp hbrace).resolve_left hhead)

theorem brace_notMem_of_refusesAhead {front more : Text}
    (h : sealedText.RefusesAhead before front more) : '\x7b' ∉ front := by
  intro hmem
  obtain ⟨left, right, rfl, -⟩ := List.eq_append_cons_of_mem hmem
  exact throughBlock_ne_none List.mem_cons_self (h left '\x7b' right rfl)

theorem refusesAhead_functionText {front more : Text}
    (h : sealedText.RefusesAhead before front more) :
    (atWordStart functionText).RefusesAhead before front more := by
  rintro left c right rfl
  have hc : c ≠ '\x7b' := by
    rintro rfl
    exact brace_notMem_of_refusesAhead h (by simp)
  rw [List.cons_append, ← sealedText_of_ne hc]
  exact h left c right rfl

/-- Between sealed stretches no function starts. -/
theorem not_holdsFunction_of_refusesAhead {front more : Text}
    (h : sealedText.RefusesAhead before front more) (hbefore : before.any isWord = false)
    (hbrace : '\x7b' ∈ more) : ¬ HoldsFunction front := by
  rintro ⟨left, right, rfl, hleft, hright⟩
  obtain ⟨others, rfl⟩ := hright.exists_cons
  have hword : (left.getLast?.or before).any isWord = false := by
    cases hlast : left.getLast? with
    | none => rwa [Option.none_or]
    | some d => rwa [hlast] at hleft
  have hread := refusesAhead_functionText h left 'f' others rfl
  rw [atWordStart, hword, if_neg Bool.false_ne_true] at hread
  exact functionText_ne_none (hright.append more) (List.mem_append_right _ hbrace) hread

end Sealed

/-! ## Parts -/

/-- The regions of a text that follows the character `before`. -/
inductive Parted : Option Char → Text → List Region → Prop
  | rest {before : Option Char} {text : Text} (hopen : sealedText.RefusesAhead before text []) :
      Parted before text (openRegion text)
  | next {before : Option Char} {front written rest : Text} {others : List Region}
      (hopen : sealedText.RefusesAhead before front (written ++ rest))
      (hread : sealedText (front.getLast?.or before) (written ++ rest) = some ((), rest))
      (hrest : Parted written.getLast? rest others) :
      Parted before (front ++ (written ++ rest)) (openRegion front ++ ⟨written, true⟩ :: others)

theorem joinRegions_plain_cons {pieces : List (Segment Unit)} {text : Text} {others : List Region}
    (c : Char) (h : joinRegions pieces = openRegion text ++ others)
    (hothers : ∀ region ∈ others.head?, region.isSealed = true) :
    joinRegions (.plain c :: pieces) = openRegion (c :: text) ++ others := by
  rw [joinRegions, h]
  cases text with
  | cons d text => rfl
  | nil =>
      cases others with
      | nil => rfl
      | cons region others =>
          obtain ⟨body, isSealed⟩ := region
          obtain rfl : isSealed = true := hothers _ rfl
          rfl

theorem parted_of_segmented {before : Option Char} {text : Text} {pieces : List (Segment Unit)}
    (h : Segmented sealedText before text pieces) : Parted before text (joinRegions pieces) := by
  induction h with
  | nil => exact .rest .nil
  | @hit before _ written rest _ _ hread _ ih =>
      exact @Parted.next before [] written rest _ .nil hread ih
  | @plain before c text pieces hread _ ih =>
      generalize hregions : joinRegions pieces = parts at ih
      cases ih with
      | rest hopen =>
          rw [joinRegions_plain_cons c (hregions.trans (List.append_nil _).symm) (by simp),
            List.append_nil]
          exact .rest (.cons (by rwa [List.append_nil]) hopen)
      | @next _ front written rest others hopen hnext hrest =>
          rw [joinRegions_plain_cons c hregions (by simp)]
          exact .next (.cons hread hopen) (by rwa [getLast?_cons_or]) hrest

theorem parted_regions (code : Text) : Parted none code (regions code) :=
  parted_of_segmented (segmented_segments startsWord_sealedText.advances code)

/-- A sealed function that comes next does not start in the middle of a word. -/
def Region.EndsWordBefore (region next : Region) : Prop :=
  next.isSealed = true → StartsFunction next.text → region.text.getLast?.any isWord = false

namespace Parted

variable {before : Option Char} {text : Text} {parts : List Region}

/-- What holds of every refused stretch and of every sealed one holds of every region. -/
theorem forall_mem {P : Region → Prop} (h : Parted before text parts)
    (hopen : ∀ before front more, sealedText.RefusesAhead before front more → P ⟨front, false⟩)
    (hsealed : ∀ before written rest, sealedText before (written ++ rest) = some ((), rest) →
      P ⟨written, true⟩) : ∀ region ∈ parts, P region := by
  have hfront : ∀ before front more, sealedText.RefusesAhead before front more →
      ∀ region ∈ openRegion front, P region := by
    intro before front more hrefuses region hmem
    obtain ⟨-, rfl⟩ := mem_openRegion.mp hmem
    exact hopen before front more hrefuses
  induction h with
  | rest hrefuses => exact hfront _ _ _ hrefuses
  | next hrefuses hread _ ih =>
      refine List.forall_mem_append.mpr ⟨hfront _ _ _ hrefuses, ?_⟩
      exact List.forall_mem_cons.mpr ⟨hsealed _ _ _ hread, ih⟩

theorem text_ne_nil (h : Parted before text parts) (hne : parts ≠ []) : text ≠ [] := by
  cases h with
  | rest _ =>
      rintro rfl
      exact hne rfl
  | next _ hread _ =>
      intro hnil
      simp only [List.append_eq_nil_iff] at hnil
      have hmem := brace_mem_of_sealedText hread
      rw [hnil.2.1] at hmem
      cases hmem

/-- What is known of a region that another one follows. -/
theorem of_mem_dropLast (h : Parted before text parts)
    (hbefore : text ≠ [] → before.any isWord = false) {region : Region}
    (hmem : region ∈ parts.dropLast) :
    (region.isSealed = true → ClosesAtEnd region.text) ∧
      (region.isSealed = false → ¬ HoldsFunction region.text) := by
  induction h with
  | rest _ =>
      unfold openRegion at hmem
      split at hmem <;> cases hmem
  | @next before front written rest others hopen hread hrest ih =>
      obtain ⟨-, hcloses⟩ := of_sealedText hread
      rw [List.dropLast_append_of_ne_nil (List.cons_ne_nil _ _)] at hmem
      rcases List.mem_append.mp hmem with hmem | hmem
      · obtain ⟨hne, rfl⟩ := mem_openRegion.mp hmem
        refine ⟨fun hsealed => Bool.noConfusion hsealed, fun _ => ?_⟩
        exact not_holdsFunction_of_refusesAhead hopen (hbefore (by simp [hne]))
          (List.mem_append_left _ (brace_mem_of_sealedText hread))
      · -- Another region follows the sealed one, so the text goes on behind it.
        have hothers : others ≠ [] := by
          rintro rfl
          cases hmem
        have hclosed := hcloses.resolve_right fun hopen => hrest.text_ne_nil hothers hopen.1
        rw [List.dropLast_cons_of_ne_nil hothers] at hmem
        rcases List.mem_cons.mp hmem with rfl | hmem
        · exact ⟨fun _ => hclosed, fun hopen => Bool.noConfusion hopen⟩
        · exact ih (fun _ => by rw [hclosed.getLast?_eq]; decide) hmem

/-- No region ends in the middle of a word that goes on with the keyword of a sealed function. -/
theorem isChain_endsWordBefore (h : Parted before text parts) :
    (∀ first ∈ parts.head?, first.isSealed = true → StartsFunction first.text →
      before.any isWord = false) ∧ parts.IsChain Region.EndsWordBefore := by
  induction h with
  | @rest before text _ => cases text <;> simp [openRegion]
  | @next before front written rest others hopen hread hrest ih =>
      have hkeyword : StartsFunction written → (front.getLast?.or before).any isWord = false := by
        intro hfunction
        rcases (of_sealedText hread).1 with hbrace | ⟨hword, -⟩
        · exact absurd hbrace hfunction.head?_ne_brace
        · exact hword
      have hchain : (⟨written, true⟩ :: others : List Region).IsChain Region.EndsWordBefore :=
        List.isChain_cons.mpr ih
      cases front with
      | nil =>
          refine ⟨?_, hchain⟩
          rintro _ ⟨⟩ _ hfunction
          exact hkeyword hfunction
      | cons c front =>
          refine ⟨?_, List.isChain_cons.mpr ⟨?_, hchain⟩⟩
          · rintro _ ⟨⟩ hsealed
            cases hsealed
          · rintro _ ⟨⟩ _ hfunction
            have hlast := hkeyword hfunction
            rwa [List.getLast?_cons, Option.some_or, ← List.getLast?_cons] at hlast

end Parted

/-- The parts are the source, cut at its functions and blocks. -/
structure IsPartition (code : Text) (parts : List Region) : Prop where
  covers : parts.flatMap Region.text = code
  text_ne_nil : ∀ region ∈ parts, region.text ≠ []
  -- Of two neighbours at least one is sealed.
  alternates : parts.IsChain fun region next => region.isSealed = false → next.isSealed = true
  brace_notMem : ∀ region ∈ parts, region.isSealed = false → '\x7b' ∉ region.text
  -- Behind the last block there may be heads of functions without a body.
  functionless : ∀ region ∈ parts.dropLast, region.isSealed = false → ¬ HoldsFunction region.text
  starts : ∀ region ∈ parts, region.isSealed = true →
    region.text.head? = some '\x7b' ∨ StartsFunction region.text
  endsWordBefore : parts.IsChain Region.EndsWordBefore
  closes : ∀ region ∈ parts.dropLast, region.isSealed = true → ClosesAtEnd region.text
  closes_or_staysOpen : ∀ region ∈ parts, region.isSealed = true →
    ClosesAtEnd region.text ∨ StaysOpen region.text

/-- The regions of a source are a partition of it. -/
theorem regions_isPartition (code : Text) : IsPartition code (regions code) := by
  have hparted := parted_regions code
  have hdropLast : ∀ region ∈ (regions code).dropLast, _ := fun region =>
    hparted.of_mem_dropLast (fun _ => rfl)
  have hopen : ∀ region ∈ regions code, region.isSealed = false → '\x7b' ∉ region.text :=
    hparted.forall_mem (fun _ _ _ hrefuses _ => brace_notMem_of_refusesAhead hrefuses)
      fun _ _ _ _ hfalse => Bool.noConfusion hfalse
  have hsealed : ∀ region ∈ regions code, region.isSealed = true →
      (region.text.head? = some '\x7b' ∨ StartsFunction region.text) ∧
        (ClosesAtEnd region.text ∨ StaysOpen region.text) := by
    refine hparted.forall_mem (fun _ _ _ _ hfalse => Bool.noConfusion hfalse) ?_
    intro before written rest hread _
    obtain ⟨hstarts, hcloses⟩ := of_sealedText hread
    exact ⟨hstarts.imp_right (·.2), hcloses.imp_right (·.2)⟩
  exact {
    covers := flatMap_text_regions code
    text_ne_nil := text_ne_nil_of_mem_joinRegions
      (segmented_segments startsWord_sealedText.advances code)
    alternates := isChain_joinRegions _
    brace_notMem := hopen
    functionless := fun region hmem => (hdropLast region hmem).2
    starts := fun region hmem htrue => (hsealed region hmem htrue).1
    endsWordBefore := hparted.isChain_endsWordBefore.2
    closes := fun region hmem => (hdropLast region hmem).1
    closes_or_staysOpen := fun region hmem htrue => (hsealed region hmem htrue).2 }

/-! ## Functions found alone -/

/-- The text of an accepted piece. -/
def Segment.hitText? {α : Type} : Segment α → Option Text
  | .plain _ => none
  | .hit _ written => some written

@[simp] theorem filterMap_hitText?_plain {α : Type} (text : Text) :
    (text.map (.plain : Char → Segment α)).filterMap Segment.hitText? = [] := by
  simp [List.filterMap_map, Segment.hitText?]

theorem functionBodies_eq (code : Text) : functionBodies code
    = (segments (atWordStart functionText) code).filterMap Segment.hitText? := by
  unfold functionBodies
  congr 1
  funext piece
  cases piece <;> rfl

/-- Whether the region is a sealed function. -/
def Region.isFunction (region : Region) : Bool :=
  region.isSealed && decide (StartsFunction region.text)

theorem filter_isFunction_openRegion (text : Text) :
    (openRegion text).filter Region.isFunction = [] := by
  refine List.filter_eq_nil_iff.mpr fun region hmem => ?_
  obtain ⟨-, rfl⟩ := mem_openRegion.mp hmem
  exact Bool.false_ne_true

/-- The search for functions passes over a block without functions: no head reaches over the brace
that closes the block. -/
theorem refusesAhead_functionText_of_block {before : Option Char} {written rest : Text}
    (hfree : ¬ HoldsFunction written)
    (hcloses : ClosesAtEnd written ∨ rest = [] ∧ StaysOpen written) :
    (atWordStart functionText).RefusesAhead before written rest := by
  rintro left c right rfl
  unfold atWordStart
  split
  next => rfl
  next hword =>
    have hnone : functionHeader (c :: right) = none := by
      by_contra hsome
      refine hfree ⟨left, c :: right, rfl, ?_, startsFunction_iff.mpr ?_⟩
      · cases hlast : left.getLast? with
        | none => rfl
        | some d => simpa [hlast] using hword
      · exact Option.isSome_iff_ne_none.mpr hsome
    have hheader : functionHeader (c :: right ++ rest) = none := by
      rcases hcloses with hclosed | ⟨rfl, -⟩
      · have hlast : ∀ d ∈ (left ++ c :: right).getLast?, endsStatement d = true := by
          rw [hclosed.getLast?_eq]
          rintro _ ⟨⟩
          decide
        have hstop := any_of_getLast? hlast rfl (List.cons_ne_nil c right)
        rw [(functionHeader_staysBefore _ hstop).1 rest, hnone]
        rfl
      · rwa [List.append_nil]
    exact Reader.bind_of_none hheader

theorem Parted.filterMap_hitText? {before : Option Char} {text : Text} {parts : List Region}
    (h : Parted before text parts)
    (hblocks : ∀ region ∈ parts, region.isSealed = true → region.text.head? = some '\x7b' →
      ¬ HoldsFunction region.text) :
    (segmentsFrom (atWordStart functionText) 0 before text).filterMap Segment.hitText?
      = (parts.filter Region.isFunction).map Region.text := by
  induction h with
  | @rest before text hopen =>
      have hsegments := segmentsFrom_append_of_refusesAhead (refusesAhead_functionText hopen)
      rw [List.append_nil] at hsegments
      rw [hsegments, filter_isFunction_openRegion, List.filterMap_append, filterMap_hitText?_plain]
      rfl
  | @next before front written rest others hopen hread hrest ih =>
      rw [List.forall_mem_append, List.forall_mem_cons] at hblocks
      obtain ⟨-, hblock, hothers⟩ := hblocks
      obtain ⟨hstarts, hcloses⟩ := of_sealedText hread
      have hne : written ≠ [] := List.ne_nil_of_mem (brace_mem_of_sealedText hread)
      rw [segmentsFrom_append_of_refusesAhead (refusesAhead_functionText hopen),
        List.filterMap_append, filterMap_hitText?_plain, List.nil_append, List.filter_append,
        filter_isFunction_openRegion, List.nil_append]
      rcases hstarts with hbrace | ⟨-, hfunction⟩
      · have hother : ¬ (⟨written, true⟩ : Region).isFunction = true := by
          simpa [Region.isFunction] using fun hfunction : StartsFunction written =>
            hfunction.head?_ne_brace hbrace
        rw [segmentsFrom_append_of_refusesAhead
            (refusesAhead_functionText_of_block (hblock rfl hbrace) hcloses),
          List.filterMap_append, filterMap_hitText?_plain, List.nil_append,
          Option.or_of_isSome (List.getLast?_isSome.mpr hne), List.filter_cons_of_neg hother,
          ih hothers]
      · have hfound : atWordStart functionText (front.getLast?.or before) (written ++ rest)
            = some ((), rest) := by
          obtain ⟨more, rfl⟩ := hfunction.exists_cons
          rwa [List.cons_append, ← sealedText_of_ne (by decide)]
        have hself : (⟨written, true⟩ : Region).isFunction = true := by
          simpa [Region.isFunction] using hfunction
        rw [segmentsFrom_of_some hne hfound, List.filter_cons_of_pos hself, List.map_cons,
          ← ih hothers]
        rfl

/-- Where no block holds a function, the search for functions finds the sealed regions that are
functions. -/
theorem functionBodies_eq_sealed_functions {code : Text}
    (h : ∀ region ∈ regions code, region.isSealed = true → region.text.head? = some '\x7b' →
      ¬ HoldsFunction region.text) :
    functionBodies code = ((regions code).filter Region.isFunction).map Region.text := by
  rw [functionBodies_eq]
  exact (parted_regions code).filterMap_hitText? h

/-- A source with a block, a function that holds a block, a word that ends like a keyword, a head
without a body and a function that stays open. -/
def mixedSource : Text :=
  "struct A \x7b b \x7d fn f() \x7b if x \x7b y \x7d \x7d xfn k; fn h; fn g() \x7b z".toList

theorem functionBodies_eq_sealed_functions_mixedSource :
    (∀ region ∈ regions mixedSource, region.isSealed = true →
      region.text.head? = some '\x7b' → ¬ HoldsFunction region.text) ∧
    functionBodies mixedSource
      = ((regions mixedSource).filter Region.isFunction).map Region.text ∧
    ((regions mixedSource).filter Region.isFunction).map Region.text
      = ["fn f() \x7b if x \x7b y \x7d \x7d".toList, "fn h; fn g() \x7b z".toList] := by
  have hblocks : ∀ region ∈ regions mixedSource, region.isSealed = true →
      region.text.head? = some '\x7b' → ¬ HoldsFunction region.text := by decide +kernel
  exact ⟨hblocks, functionBodies_eq_sealed_functions hblocks, by decide +kernel⟩

-- A function within a block is found by the search for functions, but it is no region.
example : functionBodies "\x7b fn f() \x7b \x7d \x7d".toList = ["fn f() \x7b \x7d".toList] ∧
    (regions "\x7b fn f() \x7b \x7d \x7d".toList).filter Region.isFunction = [] := by
  decide +kernel

end ShaderMarkup
