import ShaderMarkup.Proofs.Apart
import ShaderMarkup.Proofs.Binding

/-!
# The decorators of plain pieces

What emission does to the decorators of a piece, where those that it takes out or shortens stand
apart from the text behind them (`isLoose`, `LooseApart`).

The markup goes (`removeDecorators_join`), entry points take their plain form
(`plainEntries_join`) and the variable of a resource gets its slot (`StandApart.insertSlot`).  A
slot is put in front of the word `var`, and that may be inside an argument or right behind a mark,
so decorators called `group`, `binding` or `var` may come and go.  Of every other name the piece has
as many decorators as its plain forms have (`exists_of_plainPiece`).
-/

namespace ShaderMarkup

open Segment (join)

/-! ## Loose names -/

/-- The names whose decorators still go or lose their argument when the markup is gone. -/
def isLooseEntry (workgroup : Option Extent) (name : Text) : Bool :=
  isSlotDecorator name || name = "fragment".toList
    || (name = "compute".toList && workgroup.isNone)

/-- The names whose decorators emission takes out or shortens. -/
def isLoose (kind : ShaderKind) (workgroup : Option Extent) (name : Text) : Bool :=
  isMarkup kind name || isLooseEntry workgroup name

/-- The number of decorators of the name among segments. -/
def countNamed (name : Text) (pieces : List (Segment Decorator)) : Nat :=
  (pieces.filterMap Segment.value?).countP fun decorator => decorator.name = name

section CountNamed

variable (name : Text)

@[simp] theorem countNamed_plain (c : Char) (rest : List (Segment Decorator)) :
    countNamed name (.plain c :: rest) = countNamed name rest := rfl

@[simp] theorem countNamed_hit (decorator : Decorator) (written : Text)
    (rest : List (Segment Decorator)) :
    countNamed name (.hit decorator written :: rest)
      = countNamed name rest + if decorator.name = name then 1 else 0 := by
  show (decorator :: rest.filterMap Segment.value?).countP _ = _
  rw [List.countP_cons]
  simp [countNamed]

theorem countNamed_hit_of_ne {decorator : Decorator} {name : Text} (h : decorator.name ≠ name)
    (written : Text) (rest : List (Segment Decorator)) :
    countNamed name (.hit decorator written :: rest) = countNamed name rest := by
  rw [countNamed_hit, if_neg h, Nat.add_zero]

@[simp] theorem countNamed_append (front back : List (Segment Decorator)) :
    countNamed name (front ++ back) = countNamed name front + countNamed name back := by
  simp [countNamed]

@[simp] theorem countNamed_map_plain (text : Text) : countNamed name (text.map .plain) = 0 := by
  rw [countNamed, filterMap_value?_plain]
  rfl

end CountNamed

/-! ## Entry points -/

/-- The workgroup size as a decorator. -/
def workgroupDecorator (size : Extent) : Decorator :=
  .filled "workgroup_size"
    (Text.listing [Text.ofInt size.x, Text.ofInt size.y, Text.ofInt size.z])

theorem workgroupText_eq (size : Extent) :
    workgroupText size = ' ' :: (workgroupDecorator size).text := by
  have hstart : " @workgroup_size(".toList = ' ' :: '@' :: ("workgroup_size".toList ++ ['(']) := rfl
  have hend : ")".toList = [')'] := rfl
  unfold workgroupText workgroupDecorator Decorator.filled Decorator.text
  rw [hstart, hend, Option.elim_some]
  simp only [List.cons_append, List.append_assoc, List.nil_append]

theorem ofInt_free (n : Int) :
    ∀ c ∈ Text.ofInt n, isOpening c = false ∧ isClosing c = false ∧ c ≠ 'v' := by
  have hdigits : ∀ c ∈ Text.ofNat n.natAbs,
      isOpening c = false ∧ isClosing c = false ∧ c ≠ 'v' := by
    intro c hc
    have hdigit : c.isDigit = true := Nat.isDigit_of_mem_toDigits (by decide) (by decide) hc
    have hne (d : Char) (hd : d.isDigit = false) : c ≠ d := by
      rintro rfl
      rw [hd] at hdigit
      cases hdigit
    simp [isOpening, isClosing, hne '(' (by decide), hne '[' (by decide), hne '\x7b' (by decide),
      hne ')' (by decide), hne ']' (by decide), hne '\x7d' (by decide), hne 'v' (by decide)]
  unfold Text.ofInt
  split
  · rw [List.forall_mem_cons]
    exact ⟨by decide, hdigits⟩
  · exact hdigits

theorem workgroupArgument_free (size : Extent) :
    ∀ c ∈ Text.listing [Text.ofInt size.x, Text.ofInt size.y, Text.ofInt size.z],
      isOpening c = false ∧ isClosing c = false ∧ c ≠ 'v' := by
  have hcomma : ∀ c ∈ [',', ' '], isOpening c = false ∧ isClosing c = false ∧ c ≠ 'v' := by decide
  simp only [Text.listing, List.intercalate_cons_cons, List.intercalate_singleton,
    List.forall_mem_append]
  exact ⟨⟨ofInt_free _, hcomma⟩, ⟨ofInt_free _, hcomma⟩, ofInt_free _⟩

/-- An argument without brackets is spelled in round ones. -/
theorem spelled_filled {name : String} {argument : Text}
    (hname : Reader.IsIdentifier name.toList)
    (hargument : ∀ c ∈ argument, isOpening c = false ∧ isClosing c = false) :
    (Decorator.filled name argument).Spelled (Decorator.filled name argument).text :=
  @Decorator.Spelled.filled name.toList [] argument ')' hname (by simp)
    (depthBehind_free hargument 1) (by decide)

theorem spelled_workgroupDecorator (size : Extent) :
    (workgroupDecorator size).Spelled (workgroupDecorator size).text :=
  spelled_filled ⟨'w', "orkgroup_size".toList, rfl, by decide, by decide⟩
    fun c hc => ⟨(workgroupArgument_free size c hc).1, (workgroupArgument_free size c hc).2.1⟩

/-- A stage without an argument. -/
def stageDecorator (name : String) : Decorator :=
  ⟨name.toList, none, true⟩

/-- The plain form of a decorator as segments. -/
def plainSegments (workgroup : Option Extent) (decorator : Decorator) (written : Text) :
    List (Segment Decorator) :=
  if decorator.argument.isNone then [.hit decorator written]
  else if decorator.name = "compute".toList then
    .hit (stageDecorator "compute") "@compute".toList :: workgroup.elim [] fun size =>
      [.plain ' ', .hit (workgroupDecorator size) (workgroupDecorator size).text]
  else if decorator.name = "fragment".toList then
    [.hit (stageDecorator "fragment") "@fragment".toList]
  else [.hit decorator written]

theorem join_plainSegments (workgroup : Option Extent) (decorator : Decorator) (written : Text) :
    join (plainSegments workgroup decorator written)
      = plainDecorator workgroup decorator written := by
  unfold plainSegments plainDecorator
  split
  · simp
  · split
    · cases workgroup with
      | none => simp
      | some size => simp [workgroupText_eq]
    · split <;> simp

theorem plainEntries_join {loose : Text → Bool} {after : Text} {pieces : List (Segment Decorator)}
    (workgroup : Option Extent) (h : StandApart loose after pieces) :
    plainEntries workgroup (join pieces)
      = join (rewriteSegments (plainSegments workgroup) pieces) := by
  rw [plainEntries, decoratorSegments_join h]
  clear h
  induction pieces with
  | nil => rfl
  | cons piece rest ih =>
      rw [List.flatMap_cons, ih]
      cases piece with
      | plain c => rfl
      | hit decorator written =>
          rw [rewriteSegments_hit, join_append, join_plainSegments]

/-- The decorators in the plain form of one. -/
def plainDecorators (workgroup : Option Extent) (decorator : Decorator) : List Decorator :=
  if decorator.argument.isNone then [decorator]
  else if decorator.name = "compute".toList then
    stageDecorator "compute" :: (workgroup.map workgroupDecorator).toList
  else if decorator.name = "fragment".toList then [stageDecorator "fragment"]
  else [decorator]

theorem filterMap_value?_plainSegments (workgroup : Option Extent)
    (pieces : List (Segment Decorator)) :
    (rewriteSegments (plainSegments workgroup) pieces).filterMap Segment.value?
      = (pieces.filterMap Segment.value?).flatMap (plainDecorators workgroup) := by
  refine filterMap_value?_rewriteSegments _ fun decorator written => ?_
  unfold plainSegments plainDecorators
  split
  · rfl
  · split
    · cases workgroup <;> rfl
    · split <;> rfl

theorem isIdentifier_stage {name : String} (h : name = "compute" ∨ name = "fragment") :
    Reader.IsIdentifier name.toList := by
  rcases h with rfl | rfl
  · exact ⟨'c', "ompute".toList, rfl, by decide, by decide⟩
  · exact ⟨'f', "ragment".toList, rfl, by decide, by decide⟩

theorem fitsIn_plainSegments {loose : Text → Bool} (workgroup : Option Extent)
    (hfragment : loose "fragment".toList = true)
    (hcompute : workgroup = none → loose "compute".toList = true)
    (hsize : loose "workgroup_size".toList = false) :
    FitsIn loose (plainSegments workgroup) where
  stands {decorator written after rest} hspelled hdetached hrest := by
    unfold plainSegments
    split
    · exact ⟨hspelled, hdetached, hrest⟩
    next =>
      split
      next hname =>
        have hstage := Decorator.Spelled.bare (isIdentifier_stage (Or.inl rfl))
        cases workgroup with
        | none =>
            refine ⟨hstage, fun _ => hdetached (Or.inr ?_), hrest⟩
            rw [hname]
            exact hcompute rfl
        | some size =>
            refine ⟨hstage, fun _ => ?_, by simp, spelled_workgroupDecorator size, ?_, hrest⟩
            · exact .of_space_cons (c := '@') (by decide) (by decide) _
            · rintro (hnone | hloose)
              · cases hnone
              · exact absurd (hloose.symm.trans hsize) (by decide)
      next =>
        split
        next hname =>
          refine ⟨.bare (isIdentifier_stage (Or.inr rfl)), fun _ => hdetached (Or.inr ?_), hrest⟩
          rw [hname]
          exact hfragment
        next => exact ⟨hspelled, hdetached, hrest⟩
  starts {decorator written} hspelled := by
    refine Or.inr ?_
    obtain ⟨tail, rfl⟩ := hspelled.exists_eq_cons
    unfold plainSegments
    split
    · exact ⟨tail, by simp⟩
    · split
      · exact ⟨_, rfl⟩
      · split
        · exact ⟨_, rfl⟩
        · exact ⟨tail, by simp⟩

/-! ## Slots -/

/-- A slot in front of a variable as segments. -/
def slotSegments (slot : Slot) : List (Segment Decorator) :=
  [.hit (.filled "group" (Text.ofInt slot.group)) (groupText slot), .plain ' ',
    .hit (.filled "binding" (Text.ofInt slot.binding)) (bindingText slot), .plain ' ']

theorem join_slotSegments (slot : Slot) : join (slotSegments slot) = slotText slot := by
  simp [slotSegments, slotText_eq]

theorem depthBehind_bracketed {argument : Text}
    (h : ∀ c ∈ argument, isOpening c = false ∧ isClosing c = false) {depth : Int}
    (hdepth : 1 ≤ depth) : depthBehind depth ('(' :: (argument ++ [')'])) = some depth := by
  rw [depthBehind, if_pos (by decide), depthBehind_append, depthBehind_free h, Option.bind_some,
    depthBehind, if_neg (by decide), if_pos (by decide), if_neg (by omega), Int.add_sub_cancel,
    depthBehind]

theorem ofInt_isBracketFree (n : Int) :
    ∀ c ∈ Text.ofInt n, isOpening c = false ∧ isClosing c = false :=
  fun c hc => ⟨(ofInt_free n c hc).1, (ofInt_free n c hc).2.1⟩

/-- A slot closes the brackets that it opens. -/
theorem depthBehind_slotText (slot : Slot) {depth : Int} (hdepth : 1 ≤ depth) :
    depthBehind depth (slotText slot) = some depth := by
  have hpart (name : Text) (hname : ∀ c ∈ name, isOpening c = false ∧ isClosing c = false)
      (n : Int) (more : Text) :
      depthBehind depth (name ++ '(' :: (Text.ofInt n ++ [')']) ++ more)
        = depthBehind depth more := by
    rw [List.append_assoc, depthBehind_append, depthBehind_free hname, Option.bind_some,
      depthBehind_append, depthBehind_bracketed (ofInt_isBracketFree n) hdepth, Option.bind_some]
  have hspace (more : Text) : depthBehind depth (' ' :: more) = depthBehind depth more := by
    rw [depthBehind, if_neg (by decide), if_neg (by decide)]
  rw [slotText_eq]
  exact (hpart "@group".toList (by decide) _ _).trans ((hspace _).trans
    ((hpart "@binding".toList (by decide) _ _).trans (hspace [])))

section Insertion

variable {loose : Text → Bool} {after : Text} {pieces : List (Segment Decorator)}

/-- A variable starts with the word `var`, which nothing behind it joins. -/
theorem exists_of_namedVariable {text name rest : Text}
    (h : namedVariable text = some (name, rest)) :
    ∃ more, text = "var".toList ++ more ∧ IsDetached more := by
  obtain ⟨head, rfl, hhead⟩ := exists_variableHead h
  cases hhead with
  | @plain gap space hname hgap hne hspace =>
      obtain ⟨c, others, rfl, hc, _⟩ := hname
      have hword := isWord_of_isNameStart hc
      refine ⟨gap ++ c :: (others ++ (space ++ [':']) ++ rest), by simp,
        .of_blank_cons hgap (fun hnil => absurd hnil hne) (isBlank_eq_false_of_isWord hword) ?_ _⟩
      rintro rfl
      cases hc
  | @template lead inner gap space hname hlead hinner hgap hspace =>
      exact ⟨lead ++ '<' :: (inner ++ '>' :: (gap ++ (name ++ (space ++ [':']))) ++ rest), by simp,
        .of_blank_cons hlead (fun _ => by decide) (by decide) (by decide) _⟩

theorem namedVariable_eq_none {text : Text} (h : ¬ "var".toList <+: text) :
    namedVariable text = none := by
  cases hread : namedVariable text with
  | none => rfl
  | some result =>
      obtain ⟨more, rfl, -⟩ := exists_of_namedVariable hread
      exact absurd (List.prefix_append _ _) h

theorem standApart_slotSegments {tail : Text} {rest : List (Segment Decorator)} (slot : Slot)
    (hrest : join rest = 'v' :: tail) (h : StandApart loose after rest) :
    StandApart loose after (slotSegments slot ++ rest) := by
  refine ⟨spelled_filled ⟨'g', "roup".toList, rfl, by decide, by decide⟩ (ofInt_isBracketFree _),
    fun _ => ?_, by simp,
    spelled_filled ⟨'b', "inding".toList, rfl, by decide, by decide⟩ (ofInt_isBracketFree _),
    fun _ => ?_, by simp, h⟩
  · exact .of_space_cons (c := '@') (by decide) (by decide) _
  · show IsDetached (' ' :: (join rest ++ after))
    rw [hrest]
    exact .of_space_cons (by decide) (by decide) _

/-- The names that putting a slot somewhere may bring in or take away. -/
def isSlotWord (name : Text) : Bool :=
  isSlotDecorator name || name = "var".toList

theorem countNamed_slotSegments {name : Text} (hname : isSlotWord name = false) (slot : Slot) :
    countNamed name (slotSegments slot) = 0 := by
  have hslot := Bool.or_eq_false_iff.mp (Bool.or_eq_false_iff.mp hname).1
  have hgroup : (Decorator.filled "group" (Text.ofInt slot.group)).name ≠ name :=
    Ne.symm (of_decide_eq_false hslot.1)
  have hbinding : (Decorator.filled "binding" (Text.ofInt slot.binding)).name ≠ name :=
    Ne.symm (of_decide_eq_false hslot.2)
  rw [slotSegments, countNamed_hit_of_ne hgroup, countNamed_plain,
    countNamed_hit_of_ne hbinding, countNamed_plain]
  rfl

/-- A run of a class of characters ends in one place only. -/
theorem append_eq_append_of_run {accepts : Char → Bool} {a b x y : Text} (h : a ++ x = b ++ y)
    (ha : ∀ c ∈ a, accepts c = true) (hb : ∀ c ∈ b, accepts c = true)
    (hx : ∀ c ∈ x.head?, accepts c = false) (hy : ∀ c ∈ y.head?, accepts c = false) :
    a = b ∧ x = y := by
  obtain ⟨htake, hdrop⟩ := Reader.longest_run_iff.mpr ⟨h, hb, hy⟩
  obtain ⟨htake', hdrop'⟩ := Reader.longest_run_iff.mpr ⟨rfl, ha, hx⟩
  exact ⟨htake'.symm.trans htake, hdrop'.symm.trans hdrop⟩

/-- A word that starts in a text ends in it, if no word goes on behind the text. -/
theorem isPrefix_of_word {word a b more : Text} (h : a ++ b = word ++ more)
    (hword : ∀ c ∈ word, isWord c = true) (hb : ∀ c ∈ b.head?, isWord c = false) :
    word <+: a := by
  rcases List.append_eq_append_iff.mp h with ⟨beyond, rfl, hbeyond⟩ | ⟨rest, rfl, -⟩
  · cases beyond with
    | nil => exact ⟨[], by simp⟩
    | cons c beyond =>
        have hc := hword c (by simp)
        rw [hb c (by rw [hbeyond]; rfl)] at hc
        cases hc
  · exact ⟨rest, rfl⟩

/-- A slot inside an argument. -/
theorem Decorator.Spelled.insertSlot {name left inside : Text} {close : Char}
    {gap : Text} (hname : Reader.IsIdentifier name) (hgap : ∀ c ∈ gap, isGap c = true)
    (hargument : depthBehind 1 (left ++ inside) = some 1) (hclose : isClosing close = true)
    (slot : Slot) :
    Decorator.Spelled ⟨name, some (left ++ (slotText slot ++ inside)), true⟩
      ('@' :: (name ++ (gap ++ '(' :: ((left ++ (slotText slot ++ inside)) ++ [close])))) := by
  rw [depthBehind_append, Option.bind_eq_some_iff] at hargument
  obtain ⟨reached, hleft, hinside⟩ := hargument
  refine .filled hname hgap ?_ hclose
  rw [depthBehind_append, hleft, Option.bind_some, depthBehind_append,
    depthBehind_slotText slot (one_le_depthBehind hleft (by decide)), Option.bind_some, hinside]

theorem eq_nil_of_word_ends {c : Char} {word : Text} (hword : ∀ d ∈ word, isWord d = true)
    (h : ∀ d ∈ (c :: word).getLast?, isWord d = false) : word = [] := by
  rcases List.eq_nil_or_concat word with hnil | ⟨front, last, rfl⟩
  · exact hnil
  · have hlast := h last (by
      rw [List.concat_eq_append, ← List.cons_append, List.getLast?_concat]
      rfl)
    rw [hword last (by simp)] at hlast
    cases hlast

/-- A word that starts in a decorator and goes on behind it starts in the argument, unless it is
the decorator's name. -/
theorem Decorator.Spelled.exists_of_var {decorator : Decorator} {written left right more : Text}
    (h : decorator.Spelled written) (hwritten : written = left ++ 'v' :: right)
    (hstart : ∀ c ∈ left.getLast?, isWord c = false) {rest : Text}
    (hvar : 'v' :: right ++ rest = "var".toList ++ more) (hmore : IsDetached more)
    (hrest : decorator.argument = none → IsDetached rest) :
    (written = '@' :: "var".toList ∧ left = ['@'] ∧ decorator.name = "var".toList) ∨
      ∃ name gap before inside close, decorator = ⟨name, some (before ++ inside), true⟩ ∧
        left = '@' :: (name ++ (gap ++ '(' :: before)) ∧ 'v' :: right = inside ++ [close] ∧
        Reader.IsIdentifier name ∧ (∀ c ∈ gap, isGap c = true) ∧
        depthBehind 1 (before ++ inside) = some 1 ∧ isClosing close = true := by
  have hword : ∀ c ∈ "var".toList, isWord c = true := by decide
  cases h with
  | @bare name hname =>
      cases left with
      | nil => cases hwritten
      | cons c left =>
          obtain ⟨rfl, rfl⟩ : '@' = c ∧ name = left ++ 'v' :: right := by simpa using hwritten
          have hnil : left = [] :=
            eq_nil_of_word_ends (fun d hd => hname.isWord d (by simp [hd])) hstart
          subst hnil
          obtain ⟨heq, -⟩ := append_eq_append_of_run hvar hname.isWord hword (hrest rfl).1 hmore.1
          exact Or.inl ⟨congrArg _ heq, rfl, heq⟩
  | @filled name gap argument close hname hgap hargument hclose =>
      cases left with
      | nil => cases hwritten
      | cons c left =>
          obtain ⟨rfl, hsplit⟩ : '@' = c ∧
              name ++ (gap ++ '(' :: (argument ++ [close])) = left ++ 'v' :: right := by
            simpa using hwritten
          rcases List.append_eq_append_iff.mp hsplit with
            ⟨fromGap, rfl, hgaps⟩ | ⟨word, rfl, hwords⟩
          · rcases List.append_eq_append_iff.mp hgaps with
              ⟨fromBracket, rfl, hbracket⟩ | ⟨blanks, rfl, hblanks⟩
            · -- The word starts behind the opening bracket.
              cases fromBracket with
              | nil => cases hbracket
              | cons d before =>
                  obtain ⟨rfl, hinner⟩ : '(' = d ∧
                      argument ++ [close] = before ++ 'v' :: right := by simpa using hbracket
                  obtain ⟨inside, last, hinside⟩ : ∃ inside last, 'v' :: right = inside ++ [last] :=
                    ⟨_, _, (List.dropLast_append_getLast (List.cons_ne_nil 'v' right)).symm⟩
                  rw [hinside, ← List.append_assoc] at hinner
                  obtain ⟨rfl, heq⟩ := List.append_inj' hinner rfl
                  cases heq
                  exact Or.inr ⟨name, gap, before, inside, close, rfl, rfl, hinside, hname, hgap,
                    hargument, hclose⟩
            · -- Neither the gap nor the bracket starts a word.
              cases blanks with
              | nil => cases hblanks
              | cons d blanks =>
                  cases hblanks
                  exact absurd (hgap 'v' (by simp)) (by decide)
          · -- The word is the name, but then a bracket follows it.
            have hnil : left = [] :=
              eq_nil_of_word_ends (fun d hd => hname.isWord d (by simp [hd])) hstart
            subst hnil
            rw [hwords, List.append_assoc] at hvar
            have hends : ∀ d ∈ (gap ++ '(' :: (argument ++ [close]) ++ rest).head?,
                isWord d = false := by
              rw [List.append_assoc]
              exact head?_gap_bracket hgap _
            obtain ⟨-, rfl⟩ := append_eq_append_of_run hvar hname.isWord hword hends hmore.1
            refine absurd rfl (hmore.2 '(' ?_)
            rw [List.append_assoc,
              List.dropWhile_append_of_pos fun d hd => isBlank_of_isGap (hgap d hd),
              List.cons_append, List.dropWhile_cons_of_neg (by decide)]
            rfl

/-- A slot in front of a variable that starts in the first decorator. -/
theorem StandApart.insertSlot_within {decorator : Decorator} {written left right more : Text}
    (h : StandApart loose after (.hit decorator written :: pieces))
    (hwritten : written = left ++ 'v' :: right) (hstart : ∀ c ∈ left.getLast?, isWord c = false)
    (hvar : 'v' :: right ++ join pieces = "var".toList ++ more) (hmore : IsDetached more)
    (slot : Slot) :
    ∃ bound, join bound = left ++ (slotText slot ++ ('v' :: right ++ join pieces)) ∧
      StandApart loose after bound ∧ ∀ other, isSlotWord other = false →
        countNamed other bound = countNamed other (.hit decorator written :: pieces) := by
  obtain ⟨hspelled, hdetached, hpieces⟩ := h
  rcases hspelled.exists_of_var hwritten hstart hvar hmore
      fun hnone => (hdetached (Or.inl hnone)).left with
    ⟨hbare, rfl, hname⟩ | ⟨name, gap, before, inside, close, rfl, rfl, hinside, hname, hgap,
      hargument, hclose⟩
  · -- The decorator `@var` falls apart: the slot stands between its mark and its name.
    have hword : 'v' :: right = "var".toList := List.append_cancel_left (hwritten.symm.trans hbare)
    have hrest : StandApart loose after ("var".toList.map .plain ++ pieces) :=
      standApart_map_plain_append (by decide) hpieces
    refine ⟨.plain '@' :: (slotSegments slot ++ ("var".toList.map .plain ++ pieces)), ?_,
      ⟨?_, standApart_slotSegments slot rfl hrest⟩, fun other hother => ?_⟩
    · rw [join_plain, join_append, join_slotSegments, join_append, join_map_plain, hword]
      rfl
    · rintro - d hd
      cases hd
      decide
    · have hne : ¬ decorator.name = other := by
        rw [hname]
        rintro rfl
        cases hother
      rw [countNamed_plain, countNamed_append, countNamed_slotSegments hother, countNamed_append,
        countNamed_map_plain, countNamed_hit_of_ne hne, Nat.zero_add, Nat.zero_add]
  · refine ⟨.hit _ _ :: pieces, ?_,
      ⟨.insertSlot hname hgap hargument hclose slot, fun hneeds => hdetached ?_, hpieces⟩, ?_⟩
    · rw [join_hit, hinside]
      simp only [List.cons_append, List.append_assoc, List.nil_append]
    · exact hneeds.imp_left fun hnone => by cases hnone
    · intro other _
      rw [countNamed_hit, countNamed_hit]

/-- A slot in front of a variable leaves the decorators of all other names as they are. -/
theorem StandApart.insertSlot (h : StandApart loose after pieces) {left right name rest : Text}
    (hjoin : join pieces = left ++ right) (hstart : ∀ c ∈ left.getLast?, isWord c = false)
    (hread : namedVariable right = some (name, rest)) (slot : Slot) :
    ∃ bound, join bound = left ++ (slotText slot ++ right) ∧ StandApart loose after bound ∧
      ∀ other, isSlotWord other = false → countNamed other bound = countNamed other pieces := by
  obtain ⟨more, rfl, hmore⟩ := exists_of_namedVariable hread
  clear hread
  induction pieces generalizing left with
  | nil =>
      rw [join_nil] at hjoin
      cases (List.append_eq_nil_iff.mp hjoin.symm).2
  | cons piece pieces ih =>
      cases left with
      | nil =>
          refine ⟨slotSegments slot ++ piece :: pieces, ?_, ?_, fun other hother => ?_⟩
          · rw [join_append, join_slotSegments, hjoin]
            rfl
          · exact standApart_slotSegments slot hjoin h
          · rw [countNamed_append, countNamed_slotSegments hother, Nat.zero_add]
      | cons c left =>
          cases piece with
          | plain d =>
              obtain ⟨rfl, hrest⟩ : d = c ∧ join pieces = left ++ ("var".toList ++ more) :=
                List.cons.inj hjoin
              obtain ⟨bound, hbound, hapart, hcount⟩ := ih h.2
                (fun e he => hstart e (by rw [List.getLast?_cons, Option.mem_def.mp he]; rfl)) hrest
              refine ⟨.plain d :: bound, by rw [join_plain, hbound]; rfl, ⟨?_, hapart⟩, hcount⟩
              rintro hd e he
              -- Behind a mark comes what came before, or the mark of the slot.
              cases left with
              | nil =>
                  rw [hbound] at he
                  cases he
                  decide
              | cons x left =>
                  refine h.1 hd e ?_
                  rw [hbound] at he
                  rw [hrest]
                  exact he
          | hit decorator written =>
              rw [join_hit] at hjoin
              have hplace : (∃ front, c :: left = written ++ front ∧
                    join pieces = front ++ ("var".toList ++ more)) ∨
                  ∃ right, written = c :: left ++ 'v' :: right ∧
                    'v' :: right ++ join pieces = "var".toList ++ more := by
                rcases List.append_eq_append_iff.mp hjoin with hbehind | ⟨back, hback, hmeets⟩
                · exact Or.inl hbehind
                · cases back with
                  | nil => exact Or.inl ⟨[], by simpa using hback.symm, hmeets.symm⟩
                  | cons d right =>
                      obtain rfl : 'v' = d := (List.cons.inj hmeets).1
                      exact Or.inr ⟨right, hback, hmeets.symm⟩
              rcases hplace with ⟨front, hfront, hrest⟩ | ⟨right, hwritten, hmeets⟩
              · obtain ⟨hspelled, hdetached, hpieces⟩ := h
                have hend : ∀ e ∈ front.getLast?, isWord e = false := by
                  intro e he
                  refine hstart e ?_
                  rw [hfront, List.getLast?_append, Option.mem_def.mp he]
                  rfl
                obtain ⟨bound, hbound, hapart, hcount⟩ := ih hpieces hend hrest
                refine ⟨.hit decorator written :: bound, ?_,
                  ⟨hspelled, fun hneeds => ?_, hapart⟩, ?_⟩
                · rw [join_hit, hbound, hfront, List.append_assoc]
                · have hfollows := hdetached hneeds
                  rw [hrest, List.append_assoc] at hfollows
                  rw [hbound, List.append_assoc]
                  exact hfollows.left.append_mark _
                · intro other hother
                  rw [countNamed_hit, countNamed_hit, hcount other hother]
              · rw [← hmeets]
                exact h.insertSlot_within hwritten hstart hmeets hmore slot

end Insertion

/-! ## Pieces -/

/-- If all pieces but the last end with a semicolon, the first is the only one or ends with one. -/
theorem getLast?_of_dropLast_cons {piece : Text} {pieces : List Text}
    (h : ∀ other ∈ (piece :: pieces).dropLast, other.getLast? = some ';') :
    (pieces = [] ∨ piece.getLast? = some ';') ∧
      ∀ other ∈ pieces.dropLast, other.getLast? = some ';' := by
  cases pieces with
  | nil => simp
  | cons second pieces =>
      rw [List.dropLast_cons_cons, List.forall_mem_cons] at h
      exact ⟨Or.inr h.1, h.2⟩

/-- All pieces but the last end with a semicolon. -/
theorem semicolonPieces_dropLast (text : Text) :
    ∀ piece ∈ (semicolonPieces text).dropLast, piece.getLast? = some ';' := by
  induction text with
  | nil => simp [semicolonPieces]
  | cons c rest ih =>
      obtain ⟨first, others, hpieces⟩ := exists_semicolonPieces_eq_cons rest
      rw [semicolonPieces]
      rw [hpieces] at ih ⊢
      split
      next hc =>
        rw [List.dropLast_cons_cons, List.forall_mem_cons]
        exact ⟨by rw [hc]; rfl, ih⟩
      next =>
        cases others with
        | nil => simp [Text.onFirst]
        | cons second others =>
            rw [Text.onFirst, List.dropLast_cons_cons, List.forall_mem_cons]
            rw [List.dropLast_cons_cons, List.forall_mem_cons] at ih
            refine ⟨?_, ih.2⟩
            rw [List.getLast?_cons, ih.1]
            rfl

/-- The segments of a piece without its markup and with its entry points in their plain form. -/
def entrySegments (kind : ShaderKind) (workgroup : Option Extent)
    (pieces : List (Segment Decorator)) : List (Segment Decorator) :=
  rewriteSegments (plainSegments workgroup) (rewriteSegments (withoutChosen (isMarkup kind)) pieces)

/-- The decorators that a piece has then. -/
def entryDecorators (kind : ShaderKind) (workgroup : Option Extent) (piece : Text) :
    List Decorator :=
  (((calls piece).map (·.value)).filter fun decorator => !isMarkup kind decorator.name).flatMap
    (plainDecorators workgroup)

section Pieces

variable {kind : ShaderKind} {workgroup : Option Extent} {after : Text}
  {pieces : List (Segment Decorator)}

theorem fitsIn_plainSegments_isLooseEntry (workgroup : Option Extent) :
    FitsIn (isLooseEntry workgroup) (plainSegments workgroup) := by
  refine fitsIn_plainSegments workgroup ?_ ?_ ?_
  · cases workgroup <;> rfl
  · rintro rfl
    rfl
  · cases workgroup <;> rfl

theorem isLoose_of_isMarkup (workgroup : Option Extent) (name : Text)
    (h : isMarkup kind name = true) : isLoose kind workgroup name = true := by
  simp [isLoose, h]

theorem standApart_entrySegments (h : StandApart (isLoose kind workgroup) after pieces) :
    StandApart (isLooseEntry workgroup) after (entrySegments kind workgroup pieces) ∧
      Follows after (join pieces) (join (entrySegments kind workgroup pieces)) := by
  obtain ⟨hremoved, hfollows⟩ := h.rewrite (fitsIn_withoutChosen (isLoose_of_isMarkup workgroup))
  have hentry : StandApart (isLooseEntry workgroup) after
      (rewriteSegments (withoutChosen (isMarkup kind)) pieces) :=
    hremoved.mono fun name hname => by simp [isLoose, hname]
  obtain ⟨hplain, hfollows'⟩ := hentry.rewrite (fitsIn_plainSegments_isLooseEntry workgroup)
  exact ⟨hplain, hfollows.trans hfollows'⟩

theorem join_entrySegments (h : StandApart (isLoose kind workgroup) after pieces) :
    plainEntries workgroup (removeDecorators (isMarkup kind) (join pieces))
      = join (entrySegments kind workgroup pieces) := by
  have hmarkup := @isLoose_of_isMarkup kind workgroup
  rw [removeDecorators_join hmarkup h,
    plainEntries_join workgroup (h.rewrite (fitsIn_withoutChosen hmarkup)).1]
  rfl

theorem countNamed_entrySegments (kind : ShaderKind) (workgroup : Option Extent)
    (piece name : Text) :
    countNamed name (entrySegments kind workgroup (decoratorSegments piece))
      = (entryDecorators kind workgroup piece).countP fun decorator => decorator.name = name := by
  rw [countNamed, entrySegments, filterMap_value?_plainSegments, filterMap_value?_withoutChosen,
    entryDecorators, map_value_calls]

theorem countNamed_withoutSlot {name : Text} (hname : isSlotWord name = false) :
    countNamed name (rewriteSegments (withoutChosen isSlotDecorator) pieces)
      = countNamed name pieces := by
  rw [countNamed, filterMap_value?_withoutChosen, List.countP_filter, countNamed]
  refine List.countP_congr fun decorator _ => ?_
  simp only [Bool.and_eq_true, decide_eq_true_eq, Bool.not_eq_true', and_iff_left_iff_imp]
  rintro rfl
  exact (Bool.or_eq_false_iff.mp hname).1

/-- What is put in front of a variable is put in front of the place where it is found. -/
theorem exists_of_bindVariable {loose : Text → Bool} {slotOf : Text → Option Slot} {text : Text}
    (hloose : ∀ name, isSlotDecorator name = true → loose name = true)
    (h : StandApart loose after pieces)
    (hbind : bindVariable slotOf (join pieces) = .ok text) :
    ∃ bound, join bound = text ∧ StandApart loose after bound ∧
      ((join pieces).getLast? = some ';' → text.getLast? = some ';') ∧
      ∀ name, isSlotWord name = false → countNamed name bound = countNamed name pieces := by
  have hsame : ∃ bound, join bound = join pieces ∧ StandApart loose after bound ∧
      ((join pieces).getLast? = some ';' → (join pieces).getLast? = some ';') ∧
      ∀ name, isSlotWord name = false → countNamed name bound = countNamed name pieces :=
    ⟨pieces, rfl, h, id, fun _ _ => rfl⟩
  unfold bindVariable at hbind
  split at hbind
  next =>
    cases hbind
    exact hsame
  next declared _ =>
    split at hbind
    next =>
      cases hbind
      exact hsame
    next =>
      dsimp only at hbind
      split at hbind
      next => cases hbind
      next found hfound =>
        split at hbind
        next => cases hbind
        next slot _ =>
          cases hbind
          rw [removeDecorators_join hloose h] at hfound ⊢
          obtain ⟨left, right, rest, hsplit, hstart, hread⟩ := exists_of_searchFrom hfound
          rw [Nat.zero_add] at hstart
          rw [Option.or_none, atWordStart] at hread
          split at hread
          next => cases hread
          next hword =>
            have hfront : ∀ c ∈ left.getLast?, isWord c = false := by
              intro c hc
              rw [Option.mem_def.mp hc] at hword
              simpa using hword
            obtain ⟨bound, hbound, hapart, hcount⟩ :=
              (h.rewrite (fitsIn_withoutChosen hloose)).1.insertSlot hsplit hfront hread slot
            refine ⟨bound, ?_, hapart, fun hlast => ?_, fun name hname => ?_⟩
            · rw [hbound, hsplit, hstart, List.take_left, List.drop_left, List.append_assoc]
            · have hend : (join (rewriteSegments (withoutChosen isSlotDecorator) pieces)).getLast?
                  = some ';' := h.getLast?_rewrite hlast
              obtain ⟨more, rfl, -⟩ := exists_of_namedVariable hread
              rw [hsplit, List.getLast?_append_of_ne_nil _ (by simp)] at hend
              rw [hsplit, hstart, List.drop_left, List.getLast?_append_of_ne_nil _ (by simp), hend]
            · rw [hcount name hname, countNamed_withoutSlot hname]

theorem IsClosed.any_unbalanced {piece : Text} (h : IsClosed piece) :
    ((calls piece).any fun call => !call.value.balanced) = false := by
  rw [List.any_eq_false]
  intro call hcall
  simp [h call hcall]

theorem plainPiece_of_isClosed {slotOf : Text → Option Slot} {piece : Text}
    (h : IsClosed piece) : plainPiece kind workgroup slotOf piece
      = bindVariable slotOf (plainEntries workgroup (removeDecorators (isMarkup kind) piece)) := by
  rw [plainPiece, h.any_unbalanced, if_neg (by decide)]

theorem plainPiece_of_not_isClosed {slotOf : Text → Option Slot} {piece : Text}
    (h : ¬ IsClosed piece) :
    plainPiece kind workgroup slotOf piece = .ok (piece.takeWhile isBlank) := by
  have hopen : ((calls piece).any fun call => !call.value.balanced) = true := by
    rw [List.any_eq_true]
    simpa [IsClosed] using h
  rw [plainPiece, if_pos hopen]

/-- A piece whose loose decorators are detached has, of all names but those that a slot may touch,
as many decorators as its plain forms have. -/
theorem exists_of_plainPiece {slotOf : Text → Option Slot} {piece text : Text}
    (hclosed : IsClosed piece) (hloose : LooseApart (isLoose kind workgroup) after piece)
    (h : plainPiece kind workgroup slotOf piece = .ok text) :
    ∃ bound, join bound = text ∧ StandApart (isLooseEntry workgroup) after bound ∧
      (piece.getLast? = some ';' → text.getLast? = some ';') ∧
      ∀ name, isSlotWord name = false → countNamed name bound
        = (entryDecorators kind workgroup piece).countP fun decorator => decorator.name = name := by
  have hsegments := standApart_decoratorSegments hclosed hloose
  have hplain := join_entrySegments hsegments
  rw [join_decoratorSegments] at hplain
  rw [plainPiece_of_isClosed hclosed, hplain] at h
  obtain ⟨bound, hbound, hapart, hlast, hcount⟩ :=
    exists_of_bindVariable (fun name hname => by simp [isLooseEntry, hname])
      (standApart_entrySegments hsegments).1 h
  refine ⟨bound, hbound, hapart, fun hend => hlast ?_, fun name hname => ?_⟩
  · have hmarkup := @isLoose_of_isMarkup kind workgroup
    refine StandApart.getLast?_rewrite (hsegments.rewrite (fitsIn_withoutChosen hmarkup)).1
      (hsegments.getLast?_rewrite ?_)
    rwa [join_decoratorSegments]
  · rw [hcount name hname, countNamed_entrySegments]

end Pieces

end ShaderMarkup
