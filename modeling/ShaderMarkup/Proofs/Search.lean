import Mathlib.Data.List.Basic
import ShaderMarkup.Proofs.Entry
import ShaderMarkup.Proofs.Row
import ShaderMarkup.Proofs.Variable

/-!
# Where a search finds nothing

A search passes over a text in which its recognizer refuses (`searchFrom_append_of_refuses`).

* The shapes of variables start with the word `var` and a blank or an angle bracket
  (`Reader.OpensVariable`).  A text is quiet when no such place is in it, so a variable is found
  behind it (`IsQuiet.findVariable?_append`).
* A mark is found only where its name stands behind an `@`.  `markNames` lists these names.
-/

namespace ShaderMarkup

/-! ## Refusal -/

section Refusal

variable {α : Type} {recognizer : Recognizer α} {before : Option Char}

theorem Recognizer.RefusesIn.nil : recognizer.RefusesIn before [] := by
  intro left c right htext
  simp at htext

theorem Recognizer.RefusesIn.append {left right : Text} (hleft : recognizer.RefusesIn before left)
    (hright : recognizer.RefusesIn (left.getLast?.or before) right) :
    recognizer.RefusesIn before (left ++ right) := by
  intro front c back htext more
  rcases List.append_eq_append_iff.mp htext with ⟨middle, rfl, rfl⟩ | ⟨middle, rfl, hback⟩
  · have hread := hright middle c back rfl more
    rwa [← Option.or_assoc, ← List.getLast?_append] at hread
  · cases middle with
    | nil =>
        obtain rfl : right = c :: back := by simpa using hback.symm
        have hread := hright [] c back rfl more
        simpa using hread
    | cons d middle =>
        obtain ⟨rfl, rfl⟩ : d = c ∧ back = middle ++ right := by simpa [eq_comm] using hback
        have hread := hleft front d middle rfl (right ++ more)
        simpa using hread

theorem searchFrom_append_of_refuses {text more : Text}
    (h : recognizer.RefusesAhead before text more) (offset : Nat) :
    searchFrom recognizer before offset (text ++ more)
      = searchFrom recognizer (text.getLast?.or before) (offset + text.length) more := by
  induction text generalizing before offset with
  | nil => simp
  | cons c rest ih =>
      rw [List.cons_append, searchFrom, h.head]
      dsimp only
      rw [ih h.tail, getLast?_cons_or, List.length_cons, Nat.add_assoc, Nat.add_comm 1]

theorem searchFrom_of_some {offset : Nat} {text rest : Text} {value : α}
    (h : recognizer before text = some (value, rest)) :
    searchFrom recognizer before offset text
      = some ⟨value, offset, offset + (text.length - rest.length)⟩ := by
  cases text with
  | nil =>
      rw [searchFrom, h]
      simp
  | cons c text =>
      rw [searchFrom, h]

end Refusal

/-! ## Variables -/

/-- The characters that end the word `var` where a variable is declared. -/
def endsKeyword (c : Char) : Bool :=
  isBlank c || c == '<'

theorem endsKeyword_of_isWord {c : Char} (h : isWord c = true) : endsKeyword c = false := by
  have hne : c ≠ '<' := by
    rintro rfl
    exact absurd h (by decide)
  simp [endsKeyword, isBlank_eq_false_of_isWord h, hne]

/-- A reader of something that starts with the word `var`. -/
def Reader.OpensVariable {α : Type} (reader : Reader α) : Prop :=
  ∀ text value rest, reader text = some (value, rest) →
    ∃ c more, text = "var".toList ++ c :: more ∧ endsKeyword c = true

namespace Reader.OpensVariable

variable {α β : Type} {reader : Reader α}

theorem bind {next : α → Reader β} (h : reader.OpensVariable) :
    OpensVariable (reader >>= next) := by
  intro text value rest hread
  obtain ⟨a, middle, hfirst, -⟩ := bind_eq_some_iff.mp hread
  exact h text a middle hfirst

theorem plainHead : ShaderMarkup.plainHead.OpensVariable := by
  intro text name rest hread
  unfold ShaderMarkup.plainHead at hread
  simp only [bind_eq_some_iff, word_eq_some_iff, blanks1_eq_some_iff] at hread
  obtain ⟨_, _, rfl, _, _, ⟨gap, ⟨rfl, hgap, _⟩, hne⟩, _⟩ := hread
  cases gap with
  | nil => exact absurd rfl hne
  | cons c gap => exact ⟨c, _, rfl, by simp [endsKeyword, hgap c]⟩

theorem samplerVariable : ShaderMarkup.samplerVariable.OpensVariable :=
  .bind .plainHead

theorem textureVariable : ShaderMarkup.textureVariable.OpensVariable :=
  .bind .plainHead

theorem anyPlainVariable : ShaderMarkup.anyPlainVariable.OpensVariable :=
  .bind .plainHead

theorem namedVariable : ShaderMarkup.namedVariable.OpensVariable := by
  intro text name rest hread
  obtain ⟨head, rfl, hhead⟩ := ShaderMarkup.exists_variableHead hread
  cases hhead with
  | @plain gap space hname hgap hne hspace =>
      cases gap with
      | nil => exact absurd rfl hne
      | cons c gap => exact ⟨c, _, by simp; rfl, by simp [endsKeyword, hgap c]⟩
  | @template lead inner gap space hname hlead hinner hgap hspace =>
      cases lead with
      | nil => exact ⟨'<', _, by simp; rfl, rfl⟩
      | cons c lead => exact ⟨c, _, by simp; rfl, by simp [endsKeyword, hlead c]⟩

end Reader.OpensVariable

/-- A reader of something that starts with the word `var` and an angle bracket. -/
def Reader.OpensTemplate {α : Type} (reader : Reader α) : Prop :=
  ∀ text value rest, reader text = some (value, rest) →
    ∃ gap more, text = "var".toList ++ (gap ++ '<' :: more) ∧ ∀ c ∈ gap, isBlank c = true

namespace Reader.OpensTemplate

variable {α β : Type} {reader : Reader α}

theorem bind {next : α → Reader β} (h : reader.OpensTemplate) :
    OpensTemplate (reader >>= next) := by
  intro text value rest hread
  obtain ⟨a, middle, hfirst, -⟩ := bind_eq_some_iff.mp hread
  exact h text a middle hfirst

theorem storageQualifier : ShaderMarkup.storageQualifier.OpensTemplate := by
  intro text access rest hread
  unfold ShaderMarkup.storageQualifier at hread
  simp only [bind_eq_some_iff, word_eq_some_iff, blanks_eq_some_iff, symbol_eq_some_iff] at hread
  obtain ⟨_, _, rfl, _, _, ⟨gap, rfl, hgap, _⟩, _, _, rfl, _⟩ := hread
  exact ⟨gap, _, rfl, hgap⟩

theorem uniformQualifier : ShaderMarkup.uniformQualifier.OpensTemplate := by
  intro text access rest hread
  unfold ShaderMarkup.uniformQualifier at hread
  simp only [bind_eq_some_iff, word_eq_some_iff, blanks_eq_some_iff, symbol_eq_some_iff] at hread
  obtain ⟨_, _, rfl, _, _, ⟨gap, rfl, hgap, _⟩, _, _, rfl, _⟩ := hread
  exact ⟨gap, _, rfl, hgap⟩

theorem storageVariable : ShaderMarkup.storageVariable.OpensTemplate :=
  .bind .storageQualifier

theorem anyUniformVariable : ShaderMarkup.anyUniformVariable.OpensTemplate :=
  .bind .uniformQualifier

theorem opensVariable (h : reader.OpensTemplate) : reader.OpensVariable := by
  intro text value rest hread
  obtain ⟨gap, more, rfl, hgap⟩ := h text value rest hread
  cases gap with
  | nil => exact ⟨'<', more, rfl, rfl⟩
  | cons c gap => exact ⟨c, _, rfl, by simp [endsKeyword, hgap c]⟩

/-- Nothing is found where the only angle bracket stands behind another word. -/
theorem findVariable?_eq_none (h : reader.OpensTemplate) {front back : Text} {c : Char}
    (hfront : '<' ∉ front) (hc : isBlank c = false ∧ c ≠ 'r' ∧ c ≠ '<') (hback : '<' ∉ back) :
    findVariable? reader (front ++ c :: '<' :: back) = none := by
  cases hfound : findVariable? reader (front ++ c :: '<' :: back) with
  | none => rfl
  | some found =>
      obtain ⟨left, right, rest, htext, -, hread⟩ := exists_of_findVariable? hfound
      obtain ⟨gap, more, rfl, hgap⟩ := h right _ rest hread
      -- Both sides are cut at the one angle bracket.
      have hsame : (front ++ [c]) ++ '<' :: back
          = (left ++ ("var".toList ++ gap)) ++ '<' :: more := by
        simpa using htext
      obtain ⟨hcut, -⟩ := (List.append_cons_inj_of_notMem (by simp [hfront, Ne.symm hc.2.2])
        hback).mp hsame
      have hlast := congrArg List.getLast? hcut
      rw [List.getLast?_concat, List.getLast?_append_of_ne_nil _ (by simp)] at hlast
      rcases List.eq_nil_or_concat gap with rfl | ⟨others, d, rfl⟩
      · exact absurd (Option.some.inj hlast) hc.2.1
      · rw [List.concat_eq_append, ← List.append_assoc, List.getLast?_concat] at hlast
        have hd := hgap d (by simp)
        rw [← Option.some.inj hlast, hc.1] at hd
        cases hd

end Reader.OpensTemplate

/-! ## Quiet texts -/

/-- A text of chunks with a space behind each, none of which ends with the word `var`. -/
def IsQuiet (text : Text) : Prop :=
  ∃ chunks : List Text, text = chunks.flatMap (· ++ [' ']) ∧
    ∀ chunk ∈ chunks, (∀ c ∈ chunk, endsKeyword c = false) ∧ ¬ "var".toList <:+ chunk

namespace IsQuiet

variable {α : Type} {reader : Reader α} {text : Text}

theorem nil : IsQuiet [] :=
  ⟨[], rfl, by simp⟩

theorem append {left right : Text} (hleft : IsQuiet left) (hright : IsQuiet right) :
    IsQuiet (left ++ right) := by
  obtain ⟨chunks, rfl, hchunks⟩ := hleft
  obtain ⟨others, rfl, hothers⟩ := hright
  refine ⟨chunks ++ others, by simp, fun chunk hmem => ?_⟩
  rcases List.mem_append.mp hmem with hmem | hmem
  · exact hchunks chunk hmem
  · exact hothers chunk hmem

theorem of_chunk {chunk : Text} (hsolid : ∀ c ∈ chunk, endsKeyword c = false)
    (hlast : ¬ "var".toList <:+ chunk) : IsQuiet (chunk ++ [' ']) :=
  ⟨[chunk], by simp, by simp; exact ⟨by simpa using hsolid, hlast⟩⟩

/-- A chunk that ends with another letter. -/
theorem of_concat {chunk : Text} {c : Char} (hsolid : ∀ d ∈ chunk ++ [c], endsKeyword d = false)
    (hc : c ≠ 'r') : IsQuiet (chunk ++ [c] ++ [' ']) := by
  refine of_chunk hsolid ?_
  rintro ⟨front, heq⟩
  have hlast := congrArg List.getLast? heq
  rw [List.getLast?_concat, List.getLast?_append_of_ne_nil _ (by decide)] at hlast
  exact hc (Option.some.inj hlast).symm

theorem filled {name : String} {argument : Text} (hname : ∀ c ∈ name.toList, isWord c = true)
    (h : ∀ c ∈ argument, endsKeyword c = false) :
    IsQuiet ((Decorator.filled name argument).text ++ [' ']) := by
  have htext : (Decorator.filled name argument).text
      = ('@' :: (name.toList ++ '(' :: argument)) ++ [')'] := by
    simp [Decorator.text, Decorator.filled]
  rw [htext]
  refine of_concat ?_ (by decide)
  simp only [List.forall_mem_append, List.forall_mem_cons]
  exact ⟨⟨by decide, fun c hc => endsKeyword_of_isWord (hname c hc), by decide, h⟩, by decide⟩

theorem rowText {marks : List (Option Decorator)}
    (h : ∀ decorator, some decorator ∈ marks → IsQuiet (decorator.text ++ [' '])) :
    IsQuiet (rowText marks []) := by
  induction marks with
  | nil => exact nil
  | cons mark marks ih =>
      have hrest := ih fun decorator hmem => h decorator (List.mem_cons_of_mem mark hmem)
      rw [ShaderMarkup.rowText, ← List.singleton_append, ← List.append_assoc]
      refine append ?_ hrest
      cases mark with
      | none => exact of_chunk (by simp) (by decide)
      | some decorator => exact h decorator List.mem_cons_self

/-- A chunk is passed over. -/
theorem refusesIn_chunk (h : reader.OpensVariable) {chunk : Text}
    (hsolid : ∀ c ∈ chunk, endsKeyword c = false) (hlast : ¬ "var".toList <:+ chunk)
    (before : Option Char) : (atWordStart reader).RefusesIn before (chunk ++ [' ']) := by
  intro left c right htext more
  cases hread : reader (c :: right ++ more) with
  | none => rw [atWordStart, hread, ite_self]
  | some result =>
      obtain ⟨d, rest, hvar, hd⟩ := h _ result.1 result.2 hread
      obtain ⟨middle, rfl, hmiddle⟩ :
          ∃ middle, chunk = left ++ middle ∧ c :: right = middle ++ [' '] := by
        rcases List.append_eq_append_iff.mp htext with ⟨middle, rfl, hcut⟩ | ⟨middle, rfl, hcut⟩
        · cases middle with
          | nil => exact ⟨[], by simp, hcut.symm⟩
          | cons d middle => simp at hcut
        · exact ⟨middle, rfl, hcut⟩
      rw [hmiddle, List.append_assoc, List.singleton_append] at hvar
      -- The word and the end of the chunk are both the longest run without an end of a keyword.
      have hchunk : (middle ++ ' ' :: more).takeWhile (fun c => !endsKeyword c) = middle := by
        rw [List.takeWhile_append_of_pos, List.takeWhile_cons_of_neg (by decide), List.append_nil]
        intro d hd
        rw [hsolid d (List.mem_append_right left hd)]
        rfl
      have hword : ("var".toList ++ d :: rest).takeWhile (fun c => !endsKeyword c)
          = "var".toList := by
        rw [List.takeWhile_append_of_pos (by decide), List.takeWhile_cons_of_neg (by simp [hd]),
          List.append_nil]
      rw [hvar, hword] at hchunk
      exact absurd (hchunk ▸ List.suffix_append left middle) hlast

theorem refusesIn (h : reader.OpensVariable) (hquiet : IsQuiet text) (before : Option Char) :
    (atWordStart reader).RefusesIn before text := by
  obtain ⟨chunks, rfl, hchunks⟩ := hquiet
  induction chunks generalizing before with
  | nil => exact .nil
  | cons chunk chunks ih =>
      rw [List.forall_mem_cons] at hchunks
      exact (refusesIn_chunk h hchunks.1.1 hchunks.1.2 before).append (ih _ hchunks.2)

theorem isWord_getLast? (hquiet : IsQuiet text) : text.getLast?.any isWord = false := by
  obtain ⟨chunks, rfl, -⟩ := hquiet
  rcases List.eq_nil_or_concat chunks with rfl | ⟨others, chunk, rfl⟩
  · rfl
  · rw [List.concat_eq_append, List.flatMap_append, List.flatMap_singleton, ← List.append_assoc,
      List.getLast?_concat]
    rfl

theorem not_mem (hquiet : IsQuiet text) : '<' ∉ text := by
  obtain ⟨chunks, rfl, hchunks⟩ := hquiet
  intro hmem
  obtain ⟨chunk, hchunk, hmem⟩ := List.mem_flatMap.mp hmem
  rcases List.mem_append.mp hmem with hmem | hmem
  · exact absurd ((hchunks chunk hchunk).1 '<' hmem) (by decide)
  · simp at hmem

/-- Behind a quiet text a variable is found. -/
theorem findVariable?_append (h : reader.OpensVariable) (hquiet : IsQuiet text) {tail rest : Text}
    {value : α} (hread : reader tail = some (value, rest)) :
    findVariable? reader (text ++ tail)
      = some ⟨value, text.length, text.length + (tail.length - rest.length)⟩ := by
  have hstart : atWordStart reader (text.getLast?.or none) tail = some (value, rest) := by
    rw [atWordStart, Option.or_none, if_neg (by simp [hquiet.isWord_getLast?]), hread]
  have hrefuses := hquiet.refusesIn h none
  rw [findVariable?, search,
    searchFrom_append_of_refuses fun left c right htext => hrefuses left c right htext tail,
    searchFrom_of_some hstart, Nat.zero_add]

end IsQuiet

/-! ## Marks -/

/-- The words that stand behind an `@`. -/
def markNames : Text → List Text
  | [] => []
  | c :: rest => if c = '@' then rest.takeWhile isWord :: markNames rest else markNames rest

section Marks

variable {word text : Text}

theorem markNames_free (h : '@' ∉ text) : markNames text = [] := by
  induction text with
  | nil => rfl
  | cons c rest ih =>
      rw [List.mem_cons, not_or] at h
      rw [markNames, if_neg (Ne.symm h.1), ih h.2]

/-- The words end where no word goes on. -/
theorem markNames_append (left : Text) {right : Text} (h : ∀ c ∈ right.head?, isWord c = false) :
    markNames (left ++ right) = markNames left ++ markNames right := by
  have hword : ∀ rest : Text, (rest ++ right).takeWhile isWord = rest.takeWhile isWord := by
    intro rest
    have hright : right.takeWhile isWord = [] := by
      cases right with
      | nil => rfl
      | cons c right => rw [List.takeWhile_cons_of_neg (by simp [h c rfl])]
    rw [List.takeWhile_append, hright, List.append_nil]
    split
    next hall => exact ((List.takeWhile_prefix isWord).eq_of_length hall).symm
    next => rfl
  induction left with
  | nil => rfl
  | cons c left ih =>
      rw [List.cons_append, markNames, markNames, ih, hword]
      split <;> rfl

theorem markNames_text {decorator : Decorator} (h : decorator.IsWritten) :
    markNames decorator.text
      = decorator.name :: decorator.argument.elim [] markNames := by
  have hname : markNames decorator.name = [] :=
    markNames_free fun hmem => absurd (h.name.isWord '@' hmem) (by decide)
  rw [Decorator.text, markNames, if_pos rfl]
  cases hargument : decorator.argument with
  | none =>
      rw [Option.elim_none, Option.elim_none, List.append_nil, hname,
        List.takeWhile_eq_self_iff.mpr h.name.isWord]
  | some argument =>
      have hbehind : ∀ c ∈ ('(' :: (argument ++ [')'])).head?, isWord c = false := by
        simp
        decide
      rw [Option.elim_some, Option.elim_some, markNames_append _ hbehind, hname, List.nil_append,
        (Reader.longest_run_iff.mpr ⟨rfl, h.name.isWord, hbehind⟩).1, markNames,
        if_neg (by decide), markNames_append argument (by simp; decide),
        show markNames [')'] = [] from rfl, List.append_nil]

theorem markNames_rowText {marks : List (Option Decorator)} {tail : Text}
    (h : ∀ decorator, some decorator ∈ marks → decorator.IsWritten) :
    markNames (rowText marks tail)
      = (marks.reduceOption.flatMap fun decorator =>
          decorator.name :: decorator.argument.elim [] markNames) ++ markNames tail := by
  induction marks with
  | nil => rfl
  | cons mark marks ih =>
      have hrest := ih fun decorator hmem => h decorator (List.mem_cons_of_mem mark hmem)
      rw [rowText, markNames_append _ (by simp; decide), markNames, if_neg (by decide), hrest]
      cases mark with
      | none => rfl
      | some decorator =>
          rw [Option.elim_some, markNames_text (h decorator List.mem_cons_self),
            List.reduceOption_cons_of_some, List.flatMap_cons, List.append_assoc]

theorem flatMap_markNames_of_isLeaf {decorators : List Decorator}
    (h : ∀ decorator ∈ decorators, decorator.IsLeaf) :
    (decorators.flatMap fun decorator => decorator.name :: decorator.argument.elim [] markNames)
      = decorators.map (·.name) := by
  have hleaf : ∀ decorator ∈ decorators,
      (decorator.name :: decorator.argument.elim [] markNames) = [decorator.name] := by
    intro decorator hmem
    cases hargument : decorator.argument with
    | none => rfl
    | some argument =>
        rw [Option.elim_some, markNames_free ((h decorator hmem).free argument hargument)]
  rw [List.flatMap_congr hleaf, List.map_eq_flatMap]

theorem Decorator.Holds.markNames_argument {decorator : Decorator} {inner : List Decorator}
    (h : decorator.Holds inner) :
    decorator.argument.elim [] markNames = inner.map (·.name) := by
  cases h with
  | leaf h =>
      cases hargument : decorator.argument with
      | none => rfl
      | some argument => exact markNames_free (h.free argument hargument)
  | @nest name front last hname h =>
      have hnames := flatMap_markNames_of_isLeaf h
      rw [List.flatMap_append, List.flatMap_singleton] at hnames
      rw [Option.elim_some, markNames_rowText, reduceOption_map_some,
        markNames_text (h last (by simp)).isWritten, hnames]
      intro decorator hmem
      exact (h decorator (by simpa using Or.inl hmem)).isWritten

theorem mem_markNames {behind : Text} (left : Text) (hword : ∀ c ∈ word, isWord c = true)
    (hbehind : ∀ c ∈ behind.head?, isWord c = false) :
    word ∈ markNames (left ++ '@' :: (word ++ behind)) := by
  rw [markNames_append left (by simp; decide), List.mem_append]
  refine Or.inr ?_
  rw [markNames, if_pos rfl, (Reader.longest_run_iff.mpr ⟨rfl, hword, hbehind⟩).1]
  exact List.mem_cons_self

theorem markedFrom?_eq_none (hword : ∀ c ∈ word, isWord c = true) (h : word ∉ markNames text) :
    markedFrom? word text = none := by
  cases hmarked : markedFrom? word text with
  | none => rfl
  | some marked =>
      obtain ⟨hmark, left, rfl⟩ := exists_of_markedFrom? hmarked
      obtain ⟨⟨u, rest⟩, hread⟩ := Option.isSome_iff_exists.mp hmark
      obtain ⟨behind, rfl, hbehind, -⟩ := entryMark_eq_some hread
      exact absurd (mem_markNames left hword hbehind) h

theorem search_decoratorMark_eq_none {name : String} (hname : ∀ c ∈ name.toList, isWord c = true)
    (h : name.toList ∉ markNames text) : search (anywhere (decoratorMark name)) text = none := by
  cases hfound : search (anywhere (decoratorMark name)) text with
  | none => rfl
  | some found =>
      obtain ⟨left, right, rest, rfl, -, hread⟩ := exists_of_searchFrom hfound
      have hread : decoratorMark name right = some (found.value, rest) := hread
      unfold decoratorMark at hread
      simp only [Reader.bind_eq_some_iff, Reader.symbol_eq_some_iff, Reader.word_eq_some_iff,
        Reader.notBefore_eq_some_iff] at hread
      obtain ⟨_, _, rfl, _, behind, rfl, -, hbehind⟩ := hread
      exact absurd (mem_markNames left hname hbehind) h

end Marks

/-! ## Segments -/

/-- A text that a recognizer refuses everywhere is cut into its characters. -/
theorem segmentsFrom_of_refused {α : Type} {recognizer : Recognizer α} {text : Text}
    (h : ∀ before c rest, c :: rest <:+ text → recognizer before (c :: rest) = none)
    (before : Option Char) : segmentsFrom recognizer 0 before text = text.map .plain := by
  induction text generalizing before with
  | nil => rfl
  | cons c rest ih =>
      have hrest := ih fun before d more hsuffix =>
        h before d more (hsuffix.trans (List.suffix_cons c rest))
      rw [segmentsFrom_of_none (h before c rest (List.suffix_refl _)), hrest, List.map_cons]

theorem stripComments_free {code : Text} (h : '/' ∉ code) : stripComments code = code := by
  have hrefused : segments (anywhere comment) code = code.map .plain := by
    refine segmentsFrom_of_refused (fun before c rest hsuffix => ?_) none
    have hc : c ≠ '/' := ne_of_mem_of_not_mem (hsuffix.subset List.mem_cons_self) h
    show comment (c :: rest) = none
    unfold comment
    split <;> simp_all
  rw [stripComments, hrefused, List.flatMap_map]
  exact List.flatMap_singleton' code

section Braceless

variable {code : Text} (h : '\x7b' ∉ code)

include h

theorem functionText_refused (before : Option Char) {rest : Text} (hsuffix : rest <:+ code) :
    atWordStart functionText before rest = none := by
  have hread : functionText rest = none := by
    cases hfunction : functionText rest with
    | none => rfl
    | some result =>
        obtain ⟨_, middle, hheader, hblock⟩ := Reader.bind_eq_some_iff.mp hfunction
        obtain ⟨front, htext, _⟩ := functionHeader_eq_some hheader
        have hmiddle : middle.dropWhile (· != '\x7b') = [] := by
          rw [List.dropWhile_eq_nil_iff]
          intro c hc
          have hmem : c ∈ code := hsuffix.subset (by simp [htext, hc])
          simpa using ne_of_mem_of_not_mem hmem h
        rw [throughBlock, hmiddle] at hblock
        cases hblock
  rw [atWordStart, hread, ite_self]

theorem functionBodies_free : functionBodies code = [] := by
  have hrefused : segments (atWordStart functionText) code = code.map .plain :=
    segmentsFrom_of_refused
      (fun before c rest hsuffix => functionText_refused h before hsuffix) none
  rw [functionBodies, hrefused, List.filterMap_map]
  simp

theorem regions_free : regions code = openRegion code := by
  have hrefused : segments sealedText code = code.map .plain := by
    refine segmentsFrom_of_refused (fun before c rest hsuffix => ?_) none
    rw [sealedText_of_ne (ne_of_mem_of_not_mem (hsuffix.subset List.mem_cons_self) h)]
    exact functionText_refused h before hsuffix
  have hjoined : joinRegions (code.map .plain ++ []) = openRegion code ++ joinRegions [] :=
    joinRegions_plain_append (by simp [StartsSealed])
  rw [regions, hrefused]
  simpa [joinRegions] using hjoined

end Braceless

end ShaderMarkup
