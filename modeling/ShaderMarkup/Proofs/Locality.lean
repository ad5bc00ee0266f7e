import ShaderMarkup.Proofs.Segments

/-!
# Reading in front of a stop

What a reader finds in a text can change when more text is put behind it.  It does not for a reader
that cannot get past a certain character, as long as that character is ahead:
`reader.StaysBefore stops` says so, and one lemma per elementary reader passes it on to the shapes
that are put together from them.

The same for recognizers: `recognizer.SettledIn before text` says that at every place of the text
the recognizer does the same whatever follows.  Then the text can be cut into segments on its own
(`segmentsFrom_append`).
-/

namespace ShaderMarkup

variable {α β : Type}

/-- The rest of a reading, with more text behind it. -/
def followedBy (more : Text) (result : α × Text) : α × Text :=
  (result.1, result.2 ++ more)

/-! ## Readers -/

namespace Reader

/-- Where a stop is ahead, the reader reads the same whatever follows, and leaves the stop. -/
def StaysBefore (stops : Char → Bool) (reader : Reader α) : Prop :=
  ∀ text, text.any stops = true →
    (∀ more, reader (text ++ more) = (reader text).map (followedBy more)) ∧
      ∀ result ∈ reader text, result.2.any stops = true

namespace StaysBefore

variable {stops : Char → Bool}

theorem pure (value : α) : StaysBefore stops (Pure.pure value : Reader α) := by
  intro text htext
  refine ⟨fun more => rfl, ?_⟩
  rintro _ ⟨⟩
  exact htext

theorem bind {first : Reader α} {next : α → Reader β} (hfirst : first.StaysBefore stops)
    (hnext : ∀ a, (next a).StaysBefore stops) : StaysBefore stops (first >>= next) := by
  intro text htext
  obtain ⟨hmore, hahead⟩ := hfirst text htext
  cases hread : first text with
  | none =>
      rw [hread] at hmore
      refine ⟨fun more => ?_, ?_⟩
      · rw [bind_of_none (hmore more), bind_of_none hread]
        rfl
      · rw [bind_of_none hread]
        rintro _ ⟨⟩
  | some result =>
      obtain ⟨a, middle⟩ := result
      rw [hread] at hmore
      obtain ⟨hmore', hahead'⟩ := hnext a middle (hahead _ hread)
      refine ⟨fun more => ?_, ?_⟩
      · rw [bind_of_some (hmore more), bind_of_some hread]
        exact hmore' more
      · rw [bind_of_some hread]
        exact hahead'

theorem symbol {c : Char} (hc : stops c = false) : (Reader.symbol c).StaysBefore stops := by
  intro text htext
  cases text with
  | nil => cases htext
  | cons d text =>
      by_cases hd : d = c
      · subst hd
        rw [List.any_cons, hc, Bool.false_or] at htext
        refine ⟨fun more => by simp [Reader.symbol, followedBy], ?_⟩
        intro result hresult
        have heq : ((), text) = result := by simpa [Reader.symbol] using hresult
        rwa [← heq]
      · exact ⟨fun more => by simp [Reader.symbol, hd], by simp [Reader.symbol, hd]⟩

/-- A text without stops in front of a longer one ends in front of a stop of it. -/
theorem prefix_of_prefix_append {expected text more : Text} (hfree : expected.any stops = false)
    (htext : text.any stops = true) (h : expected <+: text ++ more) : expected <+: text := by
  rcases List.prefix_or_prefix_of_prefix h (List.prefix_append text more) with h | h
  · exact h
  · obtain ⟨rest, rfl⟩ := h
    rw [List.any_append, htext, Bool.true_or] at hfree
    cases hfree

theorem exactly {expected : Text} (hfree : expected.any stops = false) :
    (Reader.exactly expected).StaysBefore stops := by
  intro text htext
  cases hread : Reader.exactly expected text with
  | none =>
      refine ⟨fun more => ?_, by simp⟩
      by_contra hsome
      obtain ⟨⟨u, rest⟩, hmore⟩ := Option.ne_none_iff_exists'.mp hsome
      have hstart : expected <+: text ++ more := ⟨rest, (exactly_eq_some_iff.mp hmore).symm⟩
      obtain ⟨rest', rfl⟩ := prefix_of_prefix_append hfree htext hstart
      rw [(exactly_eq_some_iff (u := ())).mpr rfl] at hread
      cases hread
  | some result =>
      obtain ⟨u, rest⟩ := result
      obtain rfl := exactly_eq_some_iff.mp hread
      refine ⟨fun more => ?_, ?_⟩
      · exact exactly_eq_some_iff.mpr (List.append_assoc expected rest more)
      · rintro _ ⟨⟩
        rwa [List.any_append, hfree, Bool.false_or] at htext

theorem word {expected : String} (hfree : expected.toList.any stops = false) :
    (Reader.word expected).StaysBefore stops :=
  exactly hfree

/-- A longest run of a class without stops ends in front of the first stop. -/
theorem longest_run {accepts : Char → Bool} (haccepts : ∀ c, stops c = true → accepts c = false)
    {text : Text} (htext : text.any stops = true) :
    (text.dropWhile accepts).any stops = true ∧ ∀ more,
      (text ++ more).takeWhile accepts = text.takeWhile accepts ∧
        (text ++ more).dropWhile accepts = text.dropWhile accepts ++ more := by
  obtain ⟨hsplit, htaken, hrest⟩ :=
    longest_run_iff.mp (⟨rfl, rfl⟩ : text.takeWhile accepts = _ ∧ text.dropWhile accepts = _)
  have hahead : (text.dropWhile accepts).any stops = true := by
    rw [hsplit, List.any_append, Bool.or_eq_true] at htext
    rcases htext with h | h
    · obtain ⟨c, hc, hstop⟩ := List.any_eq_true.mp h
      have := haccepts c hstop
      rw [htaken c hc] at this
      cases this
    · exact h
  refine ⟨hahead, fun more => longest_run_iff.mpr ⟨?_, htaken, ?_⟩⟩
  · rw [← List.append_assoc, ← hsplit]
  · cases hdrop : text.dropWhile accepts with
    | nil =>
        rw [hdrop] at hahead
        cases hahead
    | cons c rest =>
        rw [hdrop] at hrest
        simpa using hrest

theorem run1 {accepts : Char → Bool} (haccepts : ∀ c, stops c = true → accepts c = false) :
    (Reader.run1 accepts).StaysBefore stops := by
  intro text htext
  obtain ⟨hahead, hmore⟩ := longest_run haccepts htext
  refine ⟨fun more => ?_, ?_⟩
  · rw [Reader.run1, Reader.run1, (hmore more).1, (hmore more).2]
    split <;> rfl
  · intro result hresult
    rw [Reader.run1] at hresult
    split at hresult
    next => cases hresult
    next =>
      cases hresult
      exact hahead

theorem blanks (hblank : ∀ c, stops c = true → isBlank c = false) :
    Reader.blanks.StaysBefore stops := by
  intro text htext
  obtain ⟨hahead, hmore⟩ := longest_run hblank htext
  refine ⟨fun more => ?_, ?_⟩
  · rw [Reader.blanks, (hmore more).2]
    rfl
  · rintro _ ⟨⟩
    exact hahead

theorem blanks1 (hblank : ∀ c, stops c = true → isBlank c = false) :
    Reader.blanks1.StaysBefore stops :=
  (run1 hblank).bind fun _ => pure ()

theorem identifier (hword : ∀ c, stops c = true → isWord c = false) :
    Reader.identifier.StaysBefore stops := by
  intro text htext
  cases text with
  | nil => cases htext
  | cons c text =>
      cases hc : isNameStart c with
      | false => exact ⟨fun more => by simp [Reader.identifier, hc], by simp [Reader.identifier, hc]⟩
      | true =>
          have hstop : stops c = false := by
            by_contra h
            have := hword c (by simpa using h)
            rw [isWord_of_isNameStart hc] at this
            cases this
          rw [List.any_cons, hstop, Bool.false_or] at htext
          obtain ⟨hahead, hmore⟩ := longest_run hword htext
          refine ⟨fun more => ?_, ?_⟩
          · rw [List.cons_append, Reader.identifier, Reader.identifier, if_pos hc, if_pos hc,
              (hmore more).1, (hmore more).2]
            rfl
          · intro result hresult
            rw [Reader.identifier, if_pos hc] at hresult
            cases hresult
            exact hahead

theorem notBefore (rejects : Char → Bool) : (Reader.notBefore rejects).StaysBefore stops := by
  intro text htext
  cases text with
  | nil => cases htext
  | cons c text =>
      cases hc : rejects c with
      | true => exact ⟨fun more => by simp [Reader.notBefore, hc], by simp [Reader.notBefore, hc]⟩
      | false =>
          refine ⟨fun more => by simp [Reader.notBefore, hc, followedBy], ?_⟩
          intro result hresult
          have heq : ((), c :: text) = result := by simpa [Reader.notBefore, hc] using hresult
          rwa [← heq]

end StaysBefore

end Reader

/-! ## Recognizers -/

/-- At every place of the text the recognizer does the same, whatever follows the text. -/
def Recognizer.SettledIn (recognizer : Recognizer α) (before : Option Char) (text : Text) : Prop :=
  ∀ left c right, text = left ++ c :: right → ∀ more,
    recognizer (left.getLast?.or before) (c :: right ++ more)
      = (recognizer (left.getLast?.or before) (c :: right)).map (followedBy more)

/-- Behind every place of a text that ends with a stop, there is a stop ahead. -/
theorem any_of_getLast? {stops : Char → Bool} {text left right : Text}
    (hlast : ∀ c ∈ text.getLast?, stops c = true) (htext : text = left ++ right)
    (hne : right ≠ []) : right.any stops = true := by
  have hright : text.getLast? = some (right.getLast hne) := by
    rw [htext, List.getLast?_append_of_ne_nil _ hne, List.getLast?_eq_some_getLast hne]
  exact List.any_eq_true.mpr ⟨_, List.getLast_mem hne, hlast _ hright⟩

/-- A reader that cannot get past a stop is settled in a text that ends with one. -/
theorem Reader.StaysBefore.settledIn {stops : Char → Bool} {reader : Reader α}
    (h : reader.StaysBefore stops) {text : Text} (hlast : ∀ c ∈ text.getLast?, stops c = true)
    (before : Option Char) : (anywhere reader).SettledIn before text := by
  intro left c right htext more
  exact (h _ (any_of_getLast? hlast htext (List.cons_ne_nil c right))).1 more

/-- What starts a word is settled in a text, if its reader is at every place no word reaches into. -/
theorem settledIn_atWordStart {reader : Reader α} {text : Text}
    (h : ∀ left c right, text = left ++ c :: right → left.getLast?.any isWord = false → ∀ more,
      reader (c :: right ++ more) = (reader (c :: right)).map (followedBy more)) :
    (atWordStart reader).SettledIn none text := by
  intro left c right htext more
  rw [Option.or_none]
  cases hword : left.getLast?.any isWord with
  | true => simp [atWordStart, hword]
  | false =>
      simp only [atWordStart, hword, Bool.false_eq_true, if_false]
      exact h left c right htext hword more

theorem Recognizer.SettledIn.drop {recognizer : Recognizer α} {before : Option Char}
    {left right : Text} (h : recognizer.SettledIn before (left ++ right)) (hne : left ≠ []) :
    recognizer.SettledIn left.getLast? right := by
  rintro front c rest rfl more
  have := h (left ++ front) c rest (by simp) more
  rwa [getLast?_append_or hne] at this

/-- A text in which the recognizer is settled is cut into segments on its own. -/
theorem segmentsFrom_append {recognizer : Recognizer α} (hadvances : recognizer.Advances)
    {before : Option Char} {text : Text} (hsettled : recognizer.SettledIn before text)
    (more : Text) :
    segmentsFrom recognizer 0 before (text ++ more)
      = segmentsFrom recognizer 0 before text
        ++ segmentsFrom recognizer 0 (text.getLast?.or before) more := by
  have hsegmented := segmented_segmentsFrom hadvances before text
  generalize segmentsFrom recognizer 0 before text = pieces at hsegmented
  induction hsegmented with
  | nil => simp
  | @plain before c rest pieces hread hrest ih =>
      have hmore := hsettled [] c rest rfl more
      rw [List.getLast?_nil, Option.none_or, hread] at hmore
      have hdrop : recognizer.SettledIn (some c) rest :=
        Recognizer.SettledIn.drop (by exact hsettled) (List.cons_ne_nil c [])
      rw [List.cons_append] at hmore ⊢
      rw [segmentsFrom_of_none hmore, ih hdrop, getLast?_cons_or]
      rfl
  | @hit before value written rest pieces hne hread hrest ih =>
      obtain ⟨c, front, rfl⟩ := List.exists_cons_of_ne_nil hne
      have hmore := hsettled [] c (front ++ rest) rfl more
      rw [List.getLast?_nil, Option.none_or, ← List.cons_append, hread, List.append_assoc] at hmore
      rw [List.append_assoc, segmentsFrom_of_some hne hmore, ih (hsettled.drop hne),
        getLast?_append_or hne]
      rfl

/-- At no place of the text the recognizer accepts anything, whatever follows the text. -/
def Recognizer.RefusesIn (recognizer : Recognizer α) (before : Option Char) (text : Text) : Prop :=
  ∀ left c right, text = left ++ c :: right → ∀ more,
    recognizer (left.getLast?.or before) (c :: right ++ more) = none

/-- At no place of the text the recognizer accepts anything, where `more` follows the text. -/
def Recognizer.RefusesAhead (recognizer : Recognizer α) (before : Option Char) (text more : Text) :
    Prop :=
  ∀ left c right, text = left ++ c :: right →
    recognizer (left.getLast?.or before) (c :: right ++ more) = none

namespace Recognizer.RefusesAhead

variable {recognizer : Recognizer α} {before : Option Char} {c : Char} {rest more : Text}

theorem nil : recognizer.RefusesAhead before [] more := by
  intro left c right htext
  simp at htext

theorem cons (hread : recognizer before (c :: (rest ++ more)) = none)
    (h : recognizer.RefusesAhead (some c) rest more) :
    recognizer.RefusesAhead before (c :: rest) more := by
  intro left d right htext
  rcases List.cons_eq_append_iff.mp htext with ⟨rfl, heq⟩ | ⟨inner, rfl, rfl⟩
  · cases heq
    exact hread
  · rw [getLast?_cons_or]
    exact h inner d right rfl

theorem head (h : recognizer.RefusesAhead before (c :: rest) more) :
    recognizer before (c :: (rest ++ more)) = none := by
  have hread := h [] c rest rfl
  rwa [List.getLast?_nil, Option.none_or] at hread

theorem tail (h : recognizer.RefusesAhead before (c :: rest) more) :
    recognizer.RefusesAhead (some c) rest more := by
  rintro left d right rfl
  have hread := h (c :: left) d right rfl
  rwa [getLast?_cons_or] at hread

end Recognizer.RefusesAhead

/-- A text in which the recognizer refuses is cut into its characters. -/
theorem segmentsFrom_append_of_refusesAhead {recognizer : Recognizer α} {before : Option Char}
    {text more : Text} (h : recognizer.RefusesAhead before text more) :
    segmentsFrom recognizer 0 before (text ++ more)
      = text.map .plain ++ segmentsFrom recognizer 0 (text.getLast?.or before) more := by
  induction text generalizing before with
  | nil => simp
  | cons c rest ih =>
      rw [List.cons_append, segmentsFrom_of_none h.head, ih h.tail, getLast?_cons_or]
      rfl

theorem segmentsFrom_append_of_refuses {recognizer : Recognizer α} {before : Option Char}
    {text : Text} (hrefuses : recognizer.RefusesIn before text) (more : Text) :
    segmentsFrom recognizer 0 before (text ++ more)
      = text.map .plain ++ segmentsFrom recognizer 0 (text.getLast?.or before) more :=
  segmentsFrom_append_of_refusesAhead fun left c right htext => hrefuses left c right htext more

/-- A recognizer of something that starts neither with white space nor in the middle of a word. -/
structure Recognizer.StartsWord (recognizer : Recognizer α) : Prop where
  advances : recognizer.Advances
  refuses_blank : ∀ before c rest, isBlank c = true → recognizer before (c :: rest) = none
  eq_at_start : ∀ before text, before.any isWord = false →
    recognizer before text = recognizer none text

namespace Recognizer.StartsWord

variable {recognizer : Recognizer α}

theorem refusesIn_blank (h : recognizer.StartsWord) {gap : Text}
    (hgap : ∀ c ∈ gap, isBlank c = true) (before : Option Char) :
    recognizer.RefusesIn before gap := by
  rintro left c right rfl more
  exact h.refuses_blank _ c _ (hgap c (by simp))

/-- Where no word goes on, the characters in front do not matter. -/
theorem segmentsFrom_eq (h : recognizer.StartsWord) {before : Option Char}
    (hbefore : before.any isWord = false) (text : Text) :
    segmentsFrom recognizer 0 before text = segments recognizer text := by
  unfold segments
  cases text with
  | nil => rfl
  | cons c rest => rw [segmentsFrom, segmentsFrom, h.eq_at_start before _ hbefore]

/-- The segments of a text that starts with lines in which the recognizer is settled. -/
theorem segments_append (h : recognizer.StartsWord) {text gap : Text}
    (hsettled : recognizer.SettledIn none text) (hgap : ∀ c ∈ gap, isBlank c = true)
    (hline : ∀ c ∈ (text ++ gap).getLast?, isWord c = false) (more : Text) :
    segments recognizer (text ++ gap ++ more)
      = segments recognizer text ++ gap.map .plain ++ segments recognizer more := by
  have hlast : (gap.getLast?.or (text.getLast?.or none)).any isWord = false := by
    rw [Option.or_none, ← List.getLast?_append]
    cases hc : (text ++ gap).getLast? with
    | none => rfl
    | some c => exact hline c hc
  unfold segments
  rw [List.append_assoc, segmentsFrom_append h.advances hsettled,
    segmentsFrom_append_of_refuses (h.refusesIn_blank hgap _), h.segmentsFrom_eq hlast,
    List.append_assoc]
  rfl

/-- The segments of a text that starts with a line in which the recognizer refuses. -/
theorem segments_append_of_refuses (h : recognizer.StartsWord) {line : Text}
    (hrefuses : recognizer.RefusesIn none line) (more : Text) :
    segments recognizer (line ++ '\n' :: more)
      = (line ++ ['\n']).map .plain ++ segments recognizer more := by
  unfold segments
  rw [segmentsFrom_append_of_refuses hrefuses,
    segmentsFrom_of_none (h.refuses_blank _ '\n' more (by decide)), h.segmentsFrom_eq (by decide)]
  simp [segments]

end Recognizer.StartsWord

end ShaderMarkup
