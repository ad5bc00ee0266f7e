import ShaderMarkup.Proofs.Reading
import ShaderMarkup.Proofs.Whitespace
import ShaderMarkup.Source.Variable

/-!
# The head of a variable declaration

`namedVariable` reads the head of a declaration: the word `var`, template arguments if there are
any, a name and a colon.  `VariableHead name head` says that `head` is such a text.  The reader
takes exactly the heads (`exists_variableHead`), whatever follows them (`VariableHead.read_append`),
and a head with its white space written anew is a head of the same name (`VariableHead.respaced`).
-/

namespace ShaderMarkup

open Reader

/-! ## Parts of a head -/

theorem templateArguments_eq_some_iff {text rest : Text} {u : Unit} :
    templateArguments text = some (u, rest) ↔
      ∃ inner : Text, text = '<' :: (inner ++ '>' :: rest) ∧
        ∀ c ∈ inner, c ≠ '<' ∧ c ≠ '>' ∧ c ≠ ';' := by
  unfold templateArguments
  simp only [bind_eq_some_iff, symbol_eq_some_iff, run_eq_some_iff, Bool.and_eq_true,
    bne_iff_ne]
  constructor
  · rintro ⟨_, middle, rfl, inner, _, ⟨rfl, hinner, _⟩, rfl⟩
    exact ⟨inner, rfl, fun c hc => and_assoc.mp (hinner c hc)⟩
  · rintro ⟨inner, rfl, hinner⟩
    exact ⟨(), _, rfl, inner, _, ⟨rfl, fun c hc => and_assoc.mpr (hinner c hc), by simp⟩, rfl⟩

theorem nameAndColon_eq_some_iff {text name rest : Text} :
    nameAndColon text = some (name, rest) ↔
      ∃ gap space : Text, text = gap ++ (name ++ (space ++ ':' :: rest)) ∧ IsIdentifier name ∧
        (∀ c ∈ gap, isBlank c = true) ∧ ∀ c ∈ space, isBlank c = true := by
  unfold nameAndColon
  simp only [bind_eq_some_iff, blanks_eq_some_iff, identifier_eq_some_iff, symbol_eq_some_iff,
    pure_apply, Option.some.injEq, Prod.mk.injEq]
  constructor
  · rintro ⟨_, _, ⟨gap, rfl, hgap, _⟩, _, _, ⟨hname, rfl, _⟩, _, _, ⟨space, rfl, hspace, _⟩,
      _, _, rfl, rfl, rfl⟩
    exact ⟨gap, space, rfl, hname, hgap, hspace⟩
  · rintro ⟨gap, space, rfl, hname, hgap, hspace⟩
    refine ⟨(), _, ⟨gap, rfl, hgap, ?_⟩, name, _, ⟨hname, rfl, ?_⟩, (), _,
      ⟨space, rfl, hspace, by simp [isBlank]⟩, (), rest, rfl, rfl, rfl⟩
    · intro c hc
      rw [List.head?_append_of_ne_nil _ hname.ne_nil] at hc
      exact isBlank_eq_false_of_isWord (hname.isWord c (List.mem_of_head? hc))
    · -- The name ends where white space or the colon starts.
      intro c hc
      cases space with
      | nil =>
          cases hc
          decide
      | cons d space =>
          cases hc
          exact isWord_eq_false_of_isBlank (hspace c (by simp))

/-! ## Heads -/

/-- The texts that a declaration of the name may start with. -/
inductive VariableHead (name : Text) : Text → Prop
  | plain {gap space : Text} (hname : IsIdentifier name) (hgap : ∀ c ∈ gap, isBlank c = true)
      (hne : gap ≠ []) (hspace : ∀ c ∈ space, isBlank c = true) :
      VariableHead name ("var".toList ++ (gap ++ (name ++ (space ++ [':']))))
  | template {lead inner gap space : Text} (hname : IsIdentifier name)
      (hlead : ∀ c ∈ lead, isBlank c = true) (hinner : ∀ c ∈ inner, c ≠ '<' ∧ c ≠ '>' ∧ c ≠ ';')
      (hgap : ∀ c ∈ gap, isBlank c = true) (hspace : ∀ c ∈ space, isBlank c = true) :
      VariableHead name
        ("var".toList ++ (lead ++ '<' :: (inner ++ '>' :: (gap ++ (name ++ (space ++ [':']))))))

/-- What the reader takes is a head. -/
theorem exists_variableHead {text name rest : Text}
    (h : namedVariable text = some (name, rest)) :
    ∃ head, text = head ++ rest ∧ VariableHead name head := by
  unfold namedVariable at h
  simp only [bind_eq_some_iff, word_eq_some_iff, notBefore_eq_some_iff,
    optional_eq_some_iff, nameAndColon_eq_some_iff] at h
  obtain ⟨_, _, rfl, _, _, ⟨rfl, hvar⟩, _, _, htemplate, gap, space, rfl, hname, hgap, hspace⟩ := h
  rcases htemplate with ⟨_, _, _, _, hblanks, htemplate⟩ | ⟨_, _, rfl⟩
  · obtain ⟨lead, rfl, hlead, _⟩ := blanks_eq_some_iff.mp hblanks
    obtain ⟨inner, rfl, hinner⟩ := templateArguments_eq_some_iff.mp htemplate
    exact ⟨_, by simp, .template hname hlead hinner hgap hspace⟩
  · refine ⟨_, by simp, .plain hname hgap ?_ hspace⟩
    rintro rfl
    obtain ⟨c, hc⟩ : ∃ c, name.head? = some c := by
      cases name with
      | nil => exact absurd rfl hname.ne_nil
      | cons c name => exact ⟨c, rfl⟩
    have hword := hvar c (by rw [List.nil_append, List.head?_append, hc]; rfl)
    rw [hname.isWord c (List.mem_of_head? hc)] at hword
    cases hword

/-- No template arguments are read where a name follows the white space. -/
theorem template_of_identifier {gap name : Text} (rest : Text) (hname : IsIdentifier name)
    (hgap : ∀ c ∈ gap, isBlank c = true) :
    (do blanks; templateArguments : Reader Unit) (gap ++ (name ++ rest)) = none := by
  obtain ⟨c, others, rfl, hc, _⟩ := hname
  have hword := isWord_of_isNameStart hc
  rw [bind_of_some (blanks_eq_some_iff (u := ()).mpr ⟨gap, rfl, hgap, ?_⟩)]
  · refine bind_of_none ?_
    rw [List.cons_append, symbol, if_neg]
    rintro rfl
    exact absurd hword (by decide)
  · rintro d hd
    cases hd
    exact isBlank_eq_false_of_isWord hword

namespace VariableHead

variable {name head : Text}

/-- A head is read whatever follows it. -/
theorem read_append (h : VariableHead name head) (rest : Text) :
    namedVariable (head ++ rest) = some (name, rest) := by
  unfold namedVariable
  cases h with
  | @plain gap space hname hgap hne hspace =>
      rw [List.append_assoc, bind_of_some (word_eq_some_iff (u := ()).mpr rfl),
        bind_of_some (notBefore_eq_some_iff (u := ()).mpr ⟨rfl, ?_⟩)]
      · have htemplate := template_of_identifier (space ++ [':'] ++ rest) hname hgap
        rw [bind_of_some (optional_eq_some_iff.mpr (Or.inr ⟨rfl, by simpa using htemplate, rfl⟩))]
        exact nameAndColon_eq_some_iff.mpr ⟨gap, space, by simp, hname, hgap, hspace⟩
      · intro c hc
        cases gap with
        | nil => exact absurd rfl hne
        | cons d gap =>
            cases hc
            exact isWord_eq_false_of_isBlank (hgap c (by simp))
  | @template lead inner gap space hname hlead hinner hgap hspace =>
      have htemplate (tail : Text) : (do blanks; templateArguments : Reader Unit)
          (lead ++ '<' :: (inner ++ '>' :: tail)) = some ((), tail) :=
        bind_eq_some_iff.mpr ⟨(), _,
          blanks_eq_some_iff.mpr ⟨lead, rfl, hlead, by simp [isBlank]⟩,
          templateArguments_eq_some_iff.mpr ⟨inner, rfl, hinner⟩⟩
      simp only [List.append_assoc, List.cons_append]
      rw [bind_of_some (word_eq_some_iff (u := ()).mpr rfl),
        bind_of_some (notBefore_eq_some_iff (u := ()).mpr ⟨rfl, ?_⟩)]
      · rw [bind_of_some (optional_eq_some_iff.mpr (Or.inl ⟨(), rfl, htemplate _⟩))]
        exact nameAndColon_eq_some_iff.mpr ⟨gap, space, rfl, hname, hgap, hspace⟩
      · intro c hc
        cases lead with
        | nil =>
            cases hc
            decide
        | cons d lead =>
            cases hc
            exact isWord_eq_false_of_isBlank (hlead c (by simp))

/-- A head starts with the word `var` and ends with a colon. -/
theorem exists_eq (h : VariableHead name head) : ∃ inside, head = 'v' :: (inside ++ [':']) := by
  cases h with
  | @plain gap space => exact ⟨"ar".toList ++ (gap ++ (name ++ space)), by simp⟩
  | @template lead inner gap space =>
      exact ⟨"ar".toList ++ (lead ++ '<' :: (inner ++ '>' :: (gap ++ (name ++ space)))), by simp⟩

/-- The name and the colon of a head, respaced. -/
theorem respaced_name {gap space t : Text} (hname : IsIdentifier name)
    (hgap : ∀ c ∈ gap, isBlank c = true) (hspace : ∀ c ∈ space, isBlank c = true)
    (h : Respaced (gap ++ (name ++ (space ++ [':']))) t) :
    ∃ gap' space' : Text, t = gap' ++ (name ++ (space' ++ [':'])) ∧
      (∀ c ∈ gap', isBlank c = true) ∧ (∀ c ∈ space', isBlank c = true) ∧
      (gap = [] ↔ gap' = []) := by
  have hsolid : ∀ c ∈ name, isBlank c = false :=
    fun c hc => isBlank_eq_false_of_isWord (hname.isWord c hc)
  obtain ⟨gap', named, rfl, hgap', hnamed⟩ := h.cut fun c _ d hd _ => by
    rw [List.head?_append_of_ne_nil _ hname.ne_nil] at hd
    exact hsolid d (List.mem_of_head? hd)
  obtain ⟨behind, rfl, hbehind⟩ := hnamed.of_solid_append hsolid
  obtain ⟨space', ending, rfl, hspace', hending⟩ := hbehind.cut_at (by decide)
  obtain rfl : ending = [] := hending.eq_nil_iff.mp rfl
  exact ⟨gap', space', rfl, hgap'.blank hgap, hspace'.blank hspace, hgap'.eq_nil_iff⟩

/-- A head with its white space written anew is a head of the same name. -/
theorem respaced {head' : Text} (h : VariableHead name head) (hspaced : Respaced head head') :
    VariableHead name head' := by
  cases h with
  | @plain gap space hname hgap hne hspace =>
      obtain ⟨t, rfl, ht⟩ := hspaced.of_solid_append (by decide)
      obtain ⟨gap', space', rfl, hgap', hspace', hiff⟩ := respaced_name hname hgap hspace ht
      exact .plain hname hgap' (fun hnil => hne (hiff.mpr hnil)) hspace'
  | @template lead inner gap space hname hlead hinner hgap hspace =>
      obtain ⟨t, rfl, ht⟩ := hspaced.of_solid_append (by decide)
      obtain ⟨lead', opened, rfl, hlead', hopened⟩ := ht.cut_at (by decide)
      obtain ⟨inner', closed, rfl, hinner', hclosed⟩ := hopened.cut_at (by decide)
      obtain ⟨gap', space', rfl, hgap', hspace', _⟩ := respaced_name hname hgap hspace hclosed
      refine .template hname (hlead'.blank hlead) (fun c hc => ?_) hgap' hspace'
      cases hblank : isBlank c with
      | false => exact hinner c (hinner'.mem hc hblank)
      | true => refine ⟨?_, ?_, ?_⟩ <;> rintro rfl <;> exact absurd hblank (by decide)

end VariableHead

end ShaderMarkup
