import ShaderMarkup.Proofs.Emission
import ShaderMarkup.Proofs.Excerpt
import ShaderMarkup.Proofs.Locality
import ShaderMarkup.Proofs.Whitespace

/-!
# Emission around white space

White space in front of a piece stays in front of its plain form (`plainPiece_blank_append`), because
no decorator and no variable starts with it.  A line end cuts what tidying does in two, and a second
line end behind it is dropped (`tidyLines_blank_line`).
-/

namespace ShaderMarkup

/-! ## Decorators behind white space -/

theorem startsWord_read : (anywhere Decorator.read).StartsWord where
  advances := Decorator.advances_read
  refuses_blank := by
    intro before c rest hc
    show Decorator.read (c :: rest) = none
    unfold Decorator.read
    split
    next heq =>
      cases heq
      exact absurd hc (by decide)
    next => rfl
  eq_at_start := fun _ _ _ => rfl

/-- Behind white space the segments of a text are what they are on their own. -/
theorem Recognizer.StartsWord.segments_blank {α : Type} {recognizer : Recognizer α}
    (h : recognizer.StartsWord) {gap : Text} (hgap : ∀ c ∈ gap, isBlank c = true) (more : Text) :
    segments recognizer (gap ++ more) = gap.map .plain ++ segments recognizer more := by
  have hlast : ∀ c ∈ ([] ++ gap : Text).getLast?, isWord c = false := fun c hc =>
    isWord_eq_false_of_isBlank (hgap c (List.mem_of_getLast? hc))
  exact h.segments_append (by simp [Recognizer.SettledIn]) hgap hlast more

theorem any_calls_eq (p : Decorator → Bool) (text : Text) :
    (calls text).any (fun call => p call.value)
      = ((decoratorSegments text).filterMap Segment.value?).any p := by
  unfold decoratorSegments
  rw [← map_value_hitsFrom 0, List.any_map]
  rfl

/-! ## Removal -/

/-- Every decorator that is removed takes at least one character with it. -/
theorem length_removeOnce_add_le (chosen : Text → Bool) (text : Text) :
    (removeOnce chosen text).length
        + ((decoratorSegments text).filterMap Segment.value?).countP (fun decorator =>
          chosen decorator.name) ≤ text.length := by
  have hpieces := segmented_segments Decorator.advances_read text
  unfold removeOnce decoratorSegments
  generalize segments (anywhere Decorator.read) text = pieces at hpieces
  generalize (none : Option Char) = before at hpieces
  induction hpieces with
  | nil => simp
  | plain _ _ ih =>
      simp only [List.flatMap_cons, List.filterMap_cons, Segment.value?, List.length_append,
        List.length_nil, List.length_cons]
      omega
  | @hit _ decorator written _ _ hne _ _ ih =>
      have hwritten := List.length_pos_iff.mpr hne
      simp only [List.flatMap_cons, List.filterMap_cons, Segment.value?, List.length_append,
        List.countP_cons]
      split
      · simp only [List.length_nil]
        omega
      · omega

theorem length_removeOnce_lt {chosen : Text → Bool} {text : Text}
    (h : (calls text).any (fun call => chosen call.value.name) = true) :
    (removeOnce chosen text).length < text.length := by
  have hcount := length_removeOnce_add_le chosen text
  have hpos : 0 < ((decoratorSegments text).filterMap Segment.value?).countP (fun decorator =>
      chosen decorator.name) := by
    rw [any_calls_eq fun decorator => chosen decorator.name] at h
    exact List.countP_pos_iff.mpr (List.any_eq_true.mp h)
  omega

/-- Removal with as many rounds as the text has characters is complete: more rounds change
nothing. -/
theorem removeWithin_of_le (chosen : Text → Bool) {rounds : Nat} {text : Text}
    (h : text.length ≤ rounds) :
    removeWithin chosen rounds text = removeDecorators chosen text := by
  unfold removeDecorators
  induction hlength : text.length using Nat.strong_induction_on generalizing rounds text with
  | _ length ih =>
      subst hlength
      cases hany : (calls text).any fun call => chosen call.value.name with
      | false =>
          have hkeep : ∀ rounds, removeWithin chosen rounds text = text := by
            intro rounds
            cases rounds with
            | zero => rfl
            | succ rounds => rw [removeWithin, hany, if_neg (by decide)]
          rw [hkeep, hkeep]
      | true =>
          have hshorter := length_removeOnce_lt hany
          have hround : ∀ {rounds : Nat}, text.length ≤ rounds →
              removeWithin chosen rounds text
                = removeWithin chosen (removeOnce chosen text).length (removeOnce chosen text) := by
            intro rounds hrounds
            cases rounds with
            | zero => omega
            | succ rounds =>
                rw [removeWithin, hany, if_pos rfl]
                exact ih _ (by omega) (by omega) rfl
          rw [hround h, hround (Nat.le_refl _)]

section Blank

variable {gap : Text} (hgap : ∀ c ∈ gap, isBlank c = true) (text : Text)
include hgap

theorem decoratorSegments_blank :
    decoratorSegments (gap ++ text) = gap.map .plain ++ decoratorSegments text :=
  startsWord_read.segments_blank hgap text

theorem any_calls_blank (p : Decorator → Bool) :
    (calls (gap ++ text)).any (fun call => p call.value)
      = (calls text).any fun call => p call.value := by
  rw [any_calls_eq, any_calls_eq, decoratorSegments_blank hgap, List.filterMap_append,
    filterMap_value?_plain, List.nil_append]

theorem removeOnce_blank (chosen : Text → Bool) :
    removeOnce chosen (gap ++ text) = gap ++ removeOnce chosen text := by
  unfold removeOnce
  rw [decoratorSegments_blank hgap, List.flatMap_append]
  simp [List.flatMap_map]

theorem removeWithin_blank (chosen : Text → Bool) (rounds : Nat) :
    removeWithin chosen rounds (gap ++ text) = gap ++ removeWithin chosen rounds text := by
  induction rounds generalizing text with
  | zero => rfl
  | succ rounds ih =>
      rw [removeWithin, removeWithin, any_calls_blank hgap text fun decorator =>
        chosen decorator.name, removeOnce_blank hgap]
      split
      · exact ih _
      · rfl

theorem removeDecorators_blank (chosen : Text → Bool) :
    removeDecorators chosen (gap ++ text) = gap ++ removeDecorators chosen text := by
  rw [removeDecorators, removeWithin_blank hgap,
    removeWithin_of_le chosen (by simp only [List.length_append]; omega)]

theorem plainEntries_blank (workgroup : Option Extent) :
    plainEntries workgroup (gap ++ text) = gap ++ plainEntries workgroup text := by
  unfold plainEntries
  rw [decoratorSegments_blank hgap, List.flatMap_append]
  simp [List.flatMap_map]

/-- Where nothing that starts with white space is sought, white space is passed over. -/
theorem searchFrom_blank {α : Type} {reader : Reader α}
    (hreader : ∀ c rest, isBlank c = true → reader (c :: rest) = none) {before : Option Char}
    (hbefore : before.any isWord = false) (offset : Nat) :
    searchFrom (atWordStart reader) before offset (gap ++ text)
      = searchFrom (atWordStart reader) none (offset + gap.length) text := by
  induction gap generalizing before offset with
  | nil =>
      have hstart : atWordStart reader before = atWordStart reader none := by
        funext rest
        simp [atWordStart, hbefore]
      cases text with
      | nil => rw [List.nil_append, searchFrom, searchFrom, hstart]; rfl
      | cons c text => rw [List.nil_append, searchFrom, searchFrom, hstart]; rfl
  | cons c gap ih =>
      rw [List.forall_mem_cons] at hgap
      have hread : atWordStart reader before (c :: (gap ++ text)) = none := by
        simp [atWordStart, hreader c _ hgap.1]
      rw [List.cons_append, searchFrom, hread]
      dsimp only
      rw [ih hgap.2 (by simp [isWord_eq_false_of_isBlank hgap.1]), List.length_cons]
      congr 1
      omega

omit hgap in
theorem searchFrom_add {α : Type} (recognizer : Recognizer α) (before : Option Char)
    (shift offset : Nat) :
    searchFrom recognizer before (shift + offset) text
      = (searchFrom recognizer before offset text).map fun found =>
        ⟨found.value, shift + found.start, shift + found.stop⟩ := by
  induction text generalizing before offset with
  | nil =>
      rw [searchFrom, searchFrom]
      split <;> rfl
  | cons c text ih =>
      rw [searchFrom, searchFrom]
      split
      · simp [Nat.add_assoc]
      · rw [Nat.add_assoc, ih]

theorem findVariable?_blank :
    findVariable? namedVariable (gap ++ text)
      = (findVariable? namedVariable text).map fun found =>
        ⟨found.value, gap.length + found.start, gap.length + found.stop⟩ := by
  have hvar : ∀ c rest, isBlank c = true → namedVariable (c :: rest) = none := by
    intro c rest hc
    refine Reader.bind_of_none ?_
    cases hread : Reader.word "var" (c :: rest) with
    | none => rfl
    | some result =>
        have heq := Reader.word_eq_some_iff.mp hread
        cases heq
        exact absurd hc (by decide)
  unfold findVariable? search
  rw [searchFrom_blank hgap text hvar rfl, Nat.zero_add, ← searchFrom_add, Nat.add_zero]

theorem bindVariable_blank (slotOf : Text → Option Slot) :
    bindVariable slotOf (gap ++ text) = (bindVariable slotOf text).map (gap ++ ·) := by
  unfold bindVariable
  dsimp only
  rw [findVariable?_blank hgap, removeDecorators_blank hgap, findVariable?_blank hgap]
  cases findVariable? namedVariable text with
  | none => rfl
  | some declared =>
      dsimp only [Option.map_some]
      split
      · rfl
      · cases findVariable? namedVariable (removeDecorators isSlotDecorator text) with
        | none => rfl
        | some found =>
            dsimp only [Option.map_some]
            cases slotOf found.value with
            | none => rfl
            | some slot =>
                rw [List.take_length_add_append, List.drop_length_add_append]
                simp [Except.map]

/-- White space in front of a piece stays in front of its plain form. -/
theorem plainPiece_blank_append (kind : ShaderKind) (workgroup : Option Extent)
    (slotOf : Text → Option Slot) :
    plainPiece kind workgroup slotOf (gap ++ text)
      = (plainPiece kind workgroup slotOf text).map (gap ++ ·) := by
  unfold plainPiece
  rw [any_calls_blank hgap text fun decorator => !decorator.balanced]
  split
  · rw [List.takeWhile_append_of_pos hgap]
    rfl
  · rw [removeDecorators_blank hgap, plainEntries_blank hgap, bindVariable_blank hgap]

end Blank

/-! ## Line ends -/

theorem squeeze_newline (left right : Text) :
    squeeze (left ++ '\n' :: right) = squeeze left ++ '\n' :: squeeze right := by
  induction left with
  | nil => simp [squeeze, isHorizontal]
  | cons c left ih =>
      rw [List.cons_append, squeeze, squeeze, ih]
      cases left with
      | nil => split <;> simp [squeeze, isHorizontal]
      | cons d left =>
          simp only [List.cons_append, List.head?_cons]
          by_cases hd : isHorizontal d = true
          · split <;> simp [hd]
          · split <;> simp [hd]

theorem dropIndent_newline (atLineStart : Bool) (left right : Text) :
    dropIndent atLineStart (left ++ '\n' :: right)
      = dropIndent atLineStart left ++ '\n' :: dropIndent true right := by
  induction left generalizing atLineStart with
  | nil => simp [dropIndent]
  | cons c left ih =>
      rw [List.cons_append, dropIndent, dropIndent]
      split
      · rw [ih, List.cons_append]
      · split
        · rw [ih]
        · rw [ih, List.cons_append]

theorem lines_append_newline (left right : Text) :
    Text.lines (left ++ '\n' :: right) = Text.lines left ++ Text.lines right := by
  induction left with
  | nil =>
      rw [List.nil_append, lines_newline]
      rfl
  | cons c left ih =>
      rw [List.cons_append]
      by_cases hc : c = '\n'
      · rw [hc, lines_newline, lines_newline, ih, List.cons_append]
      · obtain ⟨first, others, hlines⟩ := exists_lines_eq_cons left
        rw [lines_cons hc, lines_cons hc, ih, hlines]
        rfl

/-- A line end in front of a text is dropped. -/
theorem tidyLines_leading_newline (text : Text) : tidyLines ('\n' :: text) = tidyLines text := by
  unfold tidyLines
  rw [lines_newline]
  rfl

/-- Of two line ends one is dropped. -/
theorem tidyLines_blank_line (left right : Text) :
    tidyLines (left ++ '\n' :: '\n' :: right) = tidyLines (left ++ '\n' :: right) := by
  unfold tidyLines
  rw [lines_append_newline, lines_append_newline, lines_newline, List.map_append, List.map_append,
    List.filter_append, List.filter_append]
  rfl

/-- Where a line starts, a line end is dropped. -/
theorem tidyLines_newline {left : Text} (h : left = [] ∨ left.getLast? = some '\n') (right : Text) :
    tidyLines (left ++ '\n' :: right) = tidyLines (left ++ right) := by
  rcases h with rfl | h
  · exact tidyLines_leading_newline right
  · obtain ⟨front, rfl⟩ := List.getLast?_eq_some_iff.mp h
    rw [List.append_assoc, List.append_assoc]
    exact tidyLines_blank_line front right

/-! ## Pieces -/

theorem exists_semicolonPieces_eq_cons (text : Text) :
    ∃ first others, semicolonPieces text = first :: others := by
  cases text with
  | nil => exact ⟨_, _, rfl⟩
  | cons c text =>
      rw [semicolonPieces]
      split
      · exact ⟨_, _, rfl⟩
      · cases semicolonPieces text <;> exact ⟨_, _, rfl⟩

/-- A text that ends with a semicolon is cut into pieces on its own. -/
theorem exists_semicolonPieces_append {text : Text} (h : text.getLast? = some ';') :
    ∃ first others, ∀ more,
      semicolonPieces (text ++ more) = first :: (others ++ semicolonPieces more) := by
  induction text with
  | nil => cases h
  | cons c text ih =>
      by_cases hnil : text = []
      · subst hnil
        obtain rfl : c = ';' := by simpa using h
        exact ⟨[';'], [], fun more => by simp [semicolonPieces]⟩
      · rw [List.getLast?_cons_of_ne_nil hnil] at h
        obtain ⟨first, others, hpieces⟩ := ih h
        by_cases hc : c = ';'
        · exact ⟨[c], first :: others, fun more => by
            rw [List.cons_append, semicolonPieces, if_pos hc, hpieces, List.cons_append]⟩
        · exact ⟨c :: first, others, fun more => by
            rw [List.cons_append, semicolonPieces, if_neg hc, hpieces, Text.onFirst]⟩

theorem semicolonPieces_free (body : Text) (hbody : ';' ∉ body) (more : Text) :
    ∃ first others, semicolonPieces more = first :: others ∧
      semicolonPieces (body ++ more) = (body ++ first) :: others := by
  induction body with
  | nil =>
      obtain ⟨first, others, hmore⟩ := exists_semicolonPieces_eq_cons more
      exact ⟨first, others, hmore, hmore⟩
  | cons c body ih =>
      rw [List.mem_cons, not_or] at hbody
      obtain ⟨first, others, hmore, hbodyMore⟩ := ih hbody.2
      refine ⟨first, others, hmore, ?_⟩
      rw [List.cons_append, semicolonPieces, if_neg (Ne.symm hbody.1), hbodyMore]
      rfl

/-! ## Regions -/

/-- The open region of a text, if there is any text. -/
def openRegion (text : Text) : List Region :=
  if text.isEmpty then [] else [⟨text, false⟩]

theorem mem_openRegion {text : Text} {region : Region} :
    region ∈ openRegion text ↔ text ≠ [] ∧ region = ⟨text, false⟩ := by
  cases text <;> simp [openRegion]

/-- Segments that start with an accepted piece, if there are any. -/
def StartsSealed (pieces : List (Segment Unit)) : Prop :=
  ∀ piece ∈ pieces.head?, ∃ written, piece = .hit () written

/-- Segments that end with an accepted piece, if there are any. -/
def EndsSealed (pieces : List (Segment Unit)) : Prop :=
  ∀ piece ∈ pieces.getLast?, ∃ written, piece = .hit () written

theorem joinRegions_plain_append {text : Text} {pieces : List (Segment Unit)}
    (h : StartsSealed pieces) :
    joinRegions (text.map .plain ++ pieces) = openRegion text ++ joinRegions pieces := by
  induction text with
  | nil => rfl
  | cons c text ih =>
      rw [List.map_cons, List.cons_append, joinRegions, ih]
      cases text with
      | nil =>
          cases pieces with
          | nil => rfl
          | cons piece pieces =>
              obtain ⟨written, rfl⟩ := h piece rfl
              rfl
      | cons d text => rfl

theorem exists_joinRegions_eq_cons {pieces : List (Segment Unit)} (hne : pieces ≠ []) :
    ∃ region others, joinRegions pieces = region :: others := by
  cases pieces with
  | nil => exact absurd rfl hne
  | cons piece pieces =>
      cases piece with
      | hit value written => exact ⟨_, _, rfl⟩
      | plain c =>
          rw [joinRegions]
          split <;> exact ⟨_, _, rfl⟩

/-- Characters between accepted pieces are one open region. -/
theorem joinRegions_append {front back : List (Segment Unit)} {text : Text}
    (hfront : EndsSealed front) (hback : StartsSealed back) :
    joinRegions (front ++ text.map .plain ++ back)
      = joinRegions front ++ openRegion text ++ joinRegions back := by
  induction front with
  | nil => exact joinRegions_plain_append hback
  | cons piece front ih =>
      have hrest : EndsSealed front := by
        intro last hlast
        have hne : front ≠ [] := by
          rintro rfl
          cases hlast
        exact hfront last (by rwa [List.getLast?_cons_of_ne_nil hne])
      cases piece with
      | hit value written =>
          rw [List.cons_append, List.cons_append, joinRegions, joinRegions, ih hrest,
            List.cons_append, List.cons_append]
      | plain c =>
          -- The last segment is an accepted one, so more follows, and its first region decides.
          have hne : front ≠ [] := by
            rintro rfl
            obtain ⟨written, heq⟩ := hfront (.plain c) rfl
            cases heq
          obtain ⟨region, others, hregions⟩ := exists_joinRegions_eq_cons hne
          rw [List.cons_append, List.cons_append, joinRegions, joinRegions, ih hrest, hregions]
          obtain ⟨body, isSealed⟩ := region
          cases isSealed <;> rfl

/-- The characters behind the last accepted piece. -/
theorem exists_trailing_plain (pieces : List (Segment Unit)) :
    ∃ (front : List (Segment Unit)) (text : Text),
      pieces = front ++ text.map .plain ∧ EndsSealed front := by
  induction pieces using List.reverseRecOn with
  | nil => exact ⟨[], [], rfl, by simp [EndsSealed]⟩
  | append_singleton pieces piece ih =>
      cases piece with
      | hit value written => exact ⟨pieces ++ [.hit () written], [], by simp, by simp [EndsSealed]⟩
      | plain c =>
          obtain ⟨front, text, rfl, hfront⟩ := ih
          exact ⟨front, text ++ [c], by simp, hfront⟩

/-- The characters in front of the first accepted piece. -/
theorem exists_leading_plain (pieces : List (Segment Unit)) :
    ∃ (text : Text) (back : List (Segment Unit)),
      pieces = text.map .plain ++ back ∧ StartsSealed back := by
  induction pieces with
  | nil => exact ⟨[], [], rfl, by simp [StartsSealed]⟩
  | cons piece pieces ih =>
      cases piece with
      | hit value written => exact ⟨[], .hit () written :: pieces, rfl, by simp [StartsSealed]⟩
      | plain c =>
          obtain ⟨text, back, rfl, hback⟩ := ih
          exact ⟨c :: text, back, rfl, hback⟩

section Regions

variable (kind : ShaderKind) (workgroup : Option Extent) (slotOf : Text → Option Slot)

theorem plainRegions_append (before : Option Text) (front back : List Region) :
    plainRegions kind workgroup slotOf before (front ++ back) = (do
      let texts ← plainRegions kind workgroup slotOf before front
      let others ← plainRegions kind workgroup slotOf (texts.getLast?.or before) back
      pure (texts ++ others)) := by
  induction front generalizing before with
  | nil =>
      rw [List.nil_append]
      show _ = plainRegions kind workgroup slotOf (none.or before) back >>= fun others => pure others
      rw [Option.none_or]
      cases plainRegions kind workgroup slotOf before back <;> rfl
  | cons region front ih =>
      rw [List.cons_append, plainRegions_cons, plainRegions_cons]
      cases plainRegion kind workgroup slotOf (startsLine before) region with
      | error fault => rfl
      | ok text =>
          rw [bind_ok, bind_ok, ih]
          cases plainRegions kind workgroup slotOf (some text) front with
          | error fault => rfl
          | ok texts =>
              simp only [bind_ok, pure_eq_ok, getLast?_cons_or]
              cases plainRegions kind workgroup slotOf (texts.getLast?.or (some text)) back <;> rfl

/-- What stands in front of a sealed region does not matter to what follows. -/
theorem plainRegions_startsSealed {pieces : List (Segment Unit)} (h : StartsSealed pieces)
    (before other : Option Text) :
    plainRegions kind workgroup slotOf before (joinRegions pieces)
      = plainRegions kind workgroup slotOf other (joinRegions pieces) := by
  cases pieces with
  | nil => rfl
  | cons piece pieces =>
      obtain ⟨written, rfl⟩ := h piece rfl
      rw [joinRegions, plainRegions_cons, plainRegions_cons]
      rfl

theorem plainOpen_nil (atLineStart : Bool) :
    plainOpen kind workgroup slotOf atLineStart [] = .ok [] := by
  cases atLineStart <;> rfl

theorem plainRegions_openRegion (before : Option Text) (text : Text) :
    (plainRegions kind workgroup slotOf before (openRegion text)).map List.flatten
      = plainOpen kind workgroup slotOf (startsLine before) text := by
  unfold openRegion
  split
  next hempty =>
    rw [List.isEmpty_iff.mp hempty, plainOpen_nil]
    rfl
  next =>
    rw [plainRegions_cons, plainRegion_of_open rfl]
    cases plainOpen kind workgroup slotOf (startsLine before) text with
    | error fault => rfl
    | ok plain => simp [plainRegions, Except.map]

/-- Emission in front of an open region, of the region and behind it. -/
theorem flatten_plainRegions (front : List Region) (text : Text) {pieces : List (Segment Unit)}
    (h : StartsSealed pieces) :
    (plainRegions kind workgroup slotOf none
        (front ++ openRegion text ++ joinRegions pieces)).map List.flatten = (do
      let before ← plainRegions kind workgroup slotOf none front
      let plain ← plainOpen kind workgroup slotOf (startsLine before.getLast?) text
      let after ← plainRegions kind workgroup slotOf none (joinRegions pieces)
      pure (before.flatten ++ plain ++ after.flatten)) := by
  rw [plainRegions_append, plainRegions_append]
  cases plainRegions kind workgroup slotOf none front with
  | error fault => rfl
  | ok before =>
      rw [bind_ok, bind_ok, ← plainRegions_openRegion, Option.or_none]
      cases plainRegions kind workgroup slotOf before.getLast? (openRegion text) with
      | error fault => rfl
      | ok plain =>
          simp only [bind_ok, pure_eq_ok, Except.map]
          rw [plainRegions_startsSealed kind workgroup slotOf h _ none]
          cases plainRegions kind workgroup slotOf none (joinRegions pieces) with
          | error fault => rfl
          | ok after => simp

end Regions

theorem emit_eq (code : Text) (resources : List Resource) (kind : ShaderKind)
    (entry : Option EntryPoint) :
    emit code resources kind entry
      = (plainRegions kind (entry.bind EntryPoint.workgroup?) (slotNamed? resources) none
          (regions code)).map List.flatten >>= fun plain => .ok (tidyLines plain) := by
  unfold emit
  dsimp only
  cases plainRegions kind (entry.bind EntryPoint.workgroup?) (slotNamed? resources) none
    (regions code) <;> rfl

end ShaderMarkup
