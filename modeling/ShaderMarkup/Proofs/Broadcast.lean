import ShaderMarkup.Proofs.Denotation

/-!
# Broadcast, component by component

A segment that uses vectors is evaluated once for each of their components.  Where its wildcards
carry no accessors, this is the same as evaluating it in several environments, one for each
component, in which every vector is replaced by that component alone (`Environment.component`).

* Looking a wildcard up, resolving it and evaluating one component commute with this projection
  (`lookup?_component`, `resolve_component`, `evaluateComponent_component`).
* All wildcards are resolved before the first number is computed, and the projected environments
  resolve the same wildcards.  So both sides are one resolution followed by components
  (`evaluateExpr_eq_bind`, `evaluateExpr_component`), and what is left is the order in which a list
  of computations fails (`Broadcasts.of_bind`).

Vectors of different widths end an evaluation before any number is computed, but behind the
resolution: a wildcard that is unknown comes first.
-/

namespace ShaderMarkup

/-! ## One component of an environment -/

/-- The component alone; a vector without that component stays as it is. -/
def componentAlone (i : Nat) (values : List Number) : List Number :=
  match values[i]? with
  | some value => [value]
  | none => values

theorem length_componentAlone_le (i : Nat) {values : List Number} (hpos : 1 ≤ values.length)
    (hle : values.length ≤ 4) :
    1 ≤ (componentAlone i values).length ∧ (componentAlone i values).length ≤ 4 := by
  unfold componentAlone
  split
  · simp
  · exact ⟨hpos, hle⟩

/-- A vector that has the component, or a single number, becomes a single number. -/
theorem length_componentAlone {i : Nat} {values : List Number}
    (h : values.length = 1 ∨ i < values.length) : (componentAlone i values).length = 1 := by
  unfold componentAlone
  split
  next => rfl
  next hnone =>
    rcases h with hone | hlt
    · exact hone
    · rw [List.getElem?_eq_getElem hlt] at hnone
      cases hnone

/-- The wildcard with one of its components. -/
def Wildcard.component (i : Nat) (wildcard : Wildcard) : Wildcard where
  name := wildcard.name
  values := componentAlone i wildcard.values
  width_pos := (length_componentAlone_le i wildcard.width_pos wildcard.width_le).1
  width_le := (length_componentAlone_le i wildcard.width_pos wildcard.width_le).2

/-- The environment in which the named wildcards have one of their components. -/
def Environment.component (names : List Text) (i : Nat) (environment : Environment) :
    Environment :=
  environment.map fun wildcard =>
    if Text.among names wildcard.name then wildcard.component i else wildcard

theorem lookup?_component {environment : Environment} {names : List Text} {name : Text}
    (hname : name ∈ names) (i : Nat) :
    (environment.component names i).lookup? name
      = (environment.lookup? name).map (componentAlone i) := by
  unfold Environment.lookup? Environment.component
  rw [← List.map_reverse, List.find?_map, Option.map_map, Option.map_map]
  have hsame : ((fun wildcard : Wildcard => decide (wildcard.name = name)) ∘ fun wildcard =>
      if Text.among names wildcard.name then wildcard.component i else wildcard)
        = fun wildcard => decide (wildcard.name = name) := by
    funext wildcard
    simp only [Function.comp_apply]
    split <;> rfl
  rw [hsame]
  refine Option.map_congr fun wildcard hfound => ?_
  have heq : wildcard.name = name := by simpa using List.find?_some hfound
  have hamong : Text.among names wildcard.name = true := by simp [Text.among, heq, hname]
  simp only [Function.comp_apply, hamong, if_true]
  rfl

/-! ## Wildcards without accessors -/

/-- The use of a wildcard as a whole. -/
def WildcardUse.IsBare (use : WildcardUse) : Prop :=
  use.indices = [] ∧ use.swizzle = none

/-- The names that an expression refers to. -/
def Expr.names (expr : Expr) : List Text :=
  expr.uses.map (·.name)

theorem Expr.mem_names {expr : Expr} {use : WildcardUse} (h : use ∈ expr.uses) :
    use.name ∈ expr.names :=
  List.mem_map_of_mem h

section Bare

variable {environment : Environment} {use : WildcardUse}

theorem resolve_of_isBare (h : use.IsBare) :
    use.resolve environment
      = (environment.lookup? use.name).elim (refuse (.unknownWildcard use.name)) .ok := by
  unfold WildcardUse.resolve
  rw [h.1, h.2]
  cases environment.lookup? use.name <;> rfl

theorem resolve_eq_ok_iff (h : use.IsBare) {values : List Number} :
    use.resolve environment = .ok values ↔ environment.lookup? use.name = some values := by
  rw [resolve_of_isBare h]
  cases environment.lookup? use.name with
  | none => simp [refuse]
  | some found => simp

theorem resolve_component (h : use.IsBare) {names : List Text} (hname : use.name ∈ names)
    (i : Nat) :
    use.resolve (environment.component names i)
      = (use.resolve environment).map (componentAlone i) := by
  rw [resolve_of_isBare h, resolve_of_isBare h, lookup?_component hname]
  cases environment.lookup? use.name <;> rfl

end Bare

theorem mapM_map {ε α β γ : Type} {step : α → Except ε β} {f : β → γ} {items : List α} :
    items.mapM (fun item => (step item).map f) = (items.mapM step).map (List.map f) := by
  induction items with
  | nil => rfl
  | cons item rest ih =>
      rw [List.mapM_cons, List.mapM_cons, ih]
      cases step item with
      | error failure => rfl
      | ok value => cases rest.mapM step <;> rfl

/-! ## Widths -/

/-- The width of an expression's vectors, as far as its wildcards are known; it is one where there
are only single numbers. -/
structure Expr.CommonWidth (environment : Environment) (expr : Expr) (width : Nat) : Prop where
  agree : ∀ use ∈ expr.uses, ∀ values, environment.lookup? use.name = some values →
    values.length = 1 ∨ values.length = width
  attained : width = 1 ∨ ∃ use ∈ expr.uses, ∃ values,
    environment.lookup? use.name = some values ∧ values.length = width

/-- Two wildcards of an expression are vectors of different widths. -/
def Expr.WidthsDiffer (environment : Environment) (expr : Expr) : Prop :=
  ∃ first ∈ expr.uses, ∃ second ∈ expr.uses, ∃ a b,
    environment.lookup? first.name = some a ∧ environment.lookup? second.name = some b ∧
      a.length ≠ 1 ∧ b.length ≠ 1 ∧ a.length ≠ b.length

/-- The place at which a vector is looked up for a component; a single number has only one. -/
def lookupPlace (values : List Number) (component : Nat) : Nat :=
  if values.length = 1 then 0 else component

/-- A look-up of a single number, or of a component that is there, finds what is computed with. -/
theorem getElem?_lookupPlace {values : List Number} {i : Nat}
    (h : values.length = 1 ∨ i < values.length) :
    values[lookupPlace values i]? = some (componentOf values i) := by
  unfold lookupPlace componentOf
  split
  next hone =>
    obtain ⟨value, rfl⟩ := List.length_eq_one_iff.mp hone
    rfl
  next hmany =>
    have hlt : i < values.length := h.resolve_left hmany
    split
    next => exact absurd rfl hmany
    next => rw [List.getD_eq_getElem?_getD, List.getElem?_eq_getElem hlt, Option.getD_some]

theorem componentOf_componentAlone {values : List Number} {i : Nat}
    (h : values.length = 1 ∨ i < values.length) :
    componentOf (componentAlone i values) 0 = componentOf values i := by
  have hplace := getElem?_lookupPlace h
  unfold lookupPlace at hplace
  unfold componentAlone
  split at hplace
  next hone =>
    obtain ⟨value, rfl⟩ := List.length_eq_one_iff.mp hone
    cases i <;> rfl
  next => rw [hplace]; rfl

section Width

variable {environment : Environment} {segment : Text} {expr : Expr} {width : Nat}

theorem commonWidth_component {i : Nat} (h : expr.CommonWidth environment width) (hi : i < width) :
    expr.CommonWidth (environment.component expr.names i) 1 := by
  refine ⟨fun use huse values hlookup => Or.inl ?_, Or.inl rfl⟩
  rw [lookup?_component (Expr.mem_names huse)] at hlookup
  obtain ⟨found, hfound, rfl⟩ := Option.map_eq_some_iff.mp hlookup
  exact length_componentAlone ((h.agree use huse found hfound).imp_right fun hlength => by omega)

variable (hbare : ∀ use ∈ expr.uses, use.IsBare)
include hbare

theorem length_of_mem_resolved {resolved : List (List Number)}
    (h : expr.uses.mapM (fun use => use.resolve environment) = .ok resolved) :
    ∀ values ∈ resolved, 1 ≤ values.length ∧ values.length ≤ 4 := by
  intro values hvalues
  obtain ⟨use, huse, hresolve⟩ := exists_of_mem_values_of_mapM_eq_ok h hvalues
  refine length_resolve ?_ hresolve
  rw [(hbare use huse).2]
  simp

/-- Where the vectors have a common width, an expression is resolved and then evaluated at that
many components. -/
theorem evaluateExpr_eq_bind (h : expr.CommonWidth environment width) :
    evaluateExpr environment segment expr = (do
      let _ ← expr.uses.mapM fun use => use.resolve environment
      (List.range width).mapM (evaluateComponent environment segment expr)) := by
  unfold evaluateExpr
  cases hresolved : expr.uses.mapM fun use => use.resolve environment with
  | error failure => rfl
  | ok resolved =>
      have hagree : AgreeOn resolved width := by
        constructor
        · intro values hvalues
          obtain ⟨use, huse, hresolve⟩ := exists_of_mem_values_of_mapM_eq_ok hresolved hvalues
          exact h.agree use huse values ((resolve_eq_ok_iff (hbare use huse)).mp hresolve)
        · refine h.attained.imp_right ?_
          rintro ⟨use, huse, values, hlookup, hlength⟩
          obtain ⟨found, hfound, hresolve⟩ := exists_of_mem_of_mapM_eq_ok hresolved huse
          rw [resolve_eq_ok_iff (hbare use huse), hlookup] at hresolve
          cases hresolve
          exact ⟨values, hfound, hlength⟩
      obtain ⟨hshort, hhead⟩ :=
        hagree.headD_vectorWidths (length_of_mem_resolved hbare hresolved)
      rw [bind_ok, bind_ok]
      dsimp only
      rw [if_neg hshort, hhead]

theorem evaluateComponent_component {i : Nat} (h : expr.CommonWidth environment width)
    (hi : i < width) :
    evaluateComponent (environment.component expr.names i) segment expr 0
      = evaluateComponent environment segment expr i := by
  unfold evaluateComponent
  rw [eval_congr fun use huse => ?_]
  have huse := Expr.mem_uses_iff.mpr huse
  rw [resolve_component (hbare use huse) (Expr.mem_names huse)]
  cases hresolve : use.resolve environment with
  | error failure => rfl
  | ok values =>
      have hlength := h.agree use huse values ((resolve_eq_ok_iff (hbare use huse)).mp hresolve)
      exact congrArg _ (componentOf_componentAlone (hlength.imp_right fun hlength => by omega))

/-- In the environment of one component, an expression is resolved as before and then evaluated at
that component. -/
theorem evaluateExpr_component {i : Nat} (h : expr.CommonWidth environment width)
    (hi : i < width) :
    evaluateExpr (environment.component expr.names i) segment expr = (do
      let _ ← expr.uses.mapM fun use => use.resolve environment
      (evaluateComponent environment segment expr i).map ([·])) := by
  have hresolved : expr.uses.mapM (fun use => use.resolve (environment.component expr.names i))
      = (expr.uses.mapM fun use : WildcardUse => use.resolve environment).map
          (List.map (componentAlone i)) := by
    rw [← mapM_map]
    exact mapM_congr fun use huse =>
      resolve_component (hbare use huse) (Expr.mem_names huse) i
  rw [evaluateExpr_eq_bind hbare (commonWidth_component h hi), hresolved]
  cases expr.uses.mapM fun use => use.resolve environment with
  | error failure => rfl
  | ok resolved =>
      rw [Except.map, bind_ok, bind_ok, List.range_one, List.mapM_cons, List.mapM_nil,
        evaluateComponent_component hbare h hi]
      cases evaluateComponent environment segment expr i <;> rfl

end Width

/-! ## Several computations in a row -/

theorem mapM_range_eq_error {ε β : Type} {step : Nat → Except ε β} {count : Nat} {failure : ε}
    (h : (List.range count).mapM step = .error failure) :
    ∃ i < count, step i = .error failure ∧ ∀ j < i, ∃ value, step j = .ok value := by
  obtain ⟨before, i, behind, hsplit, hbefore, hfailure⟩ := mapM_eq_error_iff.mp h
  have hlt : ∀ j, j < count ↔ j ∈ before ∨ j = i ∨ j ∈ behind := by
    intro j
    rw [← List.mem_range, hsplit, List.mem_append, List.mem_cons]
  have hbehind : ∀ j ∈ behind, i < j := by
    have hsorted : (before ++ i :: behind).Pairwise (· < ·) := hsplit ▸ List.pairwise_lt_range
    exact (List.pairwise_cons.mp (List.pairwise_append.mp hsorted).2.1).1
  have hi : i < count := (hlt i).mpr (Or.inr (Or.inl rfl))
  refine ⟨i, hi, hfailure, fun j hj => hbefore j ?_⟩
  rcases (hlt j).mp (hj.trans hi) with hmem | rfl | hmem
  · exact hmem
  · omega
  · have := hbehind j hmem
    omega

/-- An outcome is that of computations in a row, each of which gives one number: it succeeds if all
of them do, has their numbers in order, and otherwise fails like the first one that fails. -/
structure Broadcasts (outcome : Check (List Number)) (width : Nat)
    (single : Nat → Check (List Number)) : Prop where
  succeeds : (∃ values, outcome = .ok values) ↔ ∀ i < width, ∃ values, single i = .ok values
  concatenates : ∀ values, outcome = .ok values → values.length = width ∧
    ∀ i value, values[i]? = some value → single i = .ok [value]
  fails : ∀ fault, outcome = .error fault → ∃ i < width, single i = .error fault ∧
    ∀ j < i, ∃ values, single j = .ok values

theorem Broadcasts.congr {outcome : Check (List Number)} {width : Nat}
    {single other : Nat → Check (List Number)} (h : Broadcasts outcome width single)
    (hsame : ∀ i < width, single i = other i) : Broadcasts outcome width other where
  succeeds := h.succeeds.trans (forall₂_congr fun i hi => by rw [hsame i hi])
  concatenates values hvalues := by
    obtain ⟨hlength, hsingle⟩ := h.concatenates values hvalues
    refine ⟨hlength, fun i value hget => ?_⟩
    rw [← hsame i (hlength ▸ (List.getElem?_eq_some_iff.mp hget).1)]
    exact hsingle i value hget
  fails fault hfault := by
    obtain ⟨i, hi, hfirst, hbefore⟩ := h.fails fault hfault
    refine ⟨i, hi, hsame i hi ▸ hfirst, fun j hj => ?_⟩
    rw [← hsame j (hj.trans hi)]
    exact hbefore j hj

/-- The components in a row against each of them alone, all behind the same first step. -/
theorem Broadcasts.of_bind {α : Type} {width : Nat} (hwidth : 1 ≤ width) (first : Check α)
    (component : Nat → Check Number) :
    Broadcasts (first >>= fun _ => (List.range width).mapM component) width
      (fun i => first >>= fun _ => (component i).map ([·])) := by
  have hsingle : ∀ i value, component i = .ok value → (component i).map ([·]) = .ok [value] := by
    intro i value h
    rw [h]
    rfl
  cases first with
  | error failure =>
      refine ⟨⟨?_, fun h => ?_⟩, ?_, ?_⟩
      · rintro ⟨values, h⟩
        cases h
      · obtain ⟨values, h⟩ := h 0 hwidth
        cases h
      · intro values h
        cases h
      · intro fault h
        cases h
        exact ⟨0, hwidth, rfl, by simp⟩
  | ok a =>
      simp only [bind_ok]
      refine ⟨⟨?_, fun h => ?_⟩, ?_, ?_⟩
      · rintro ⟨values, h⟩ i hi
        obtain ⟨hlength, hvalues⟩ := mapM_range_eq_ok_iff.mp h
        have hget := List.getElem?_eq_getElem (hlength ▸ hi)
        exact ⟨_, hsingle i _ (hvalues i _ hget)⟩
      · cases hrow : (List.range width).mapM component with
        | ok values => exact ⟨values, rfl⟩
        | error fault =>
            obtain ⟨i, hi, hfault, -⟩ := mapM_range_eq_error hrow
            obtain ⟨values, hvalues⟩ := h i hi
            rw [hfault] at hvalues
            cases hvalues
      · intro values h
        obtain ⟨hlength, hvalues⟩ := mapM_range_eq_ok_iff.mp h
        exact ⟨hlength, fun i value hget => hsingle i value (hvalues i value hget)⟩
      · intro fault h
        obtain ⟨i, hi, hfault, hbefore⟩ := mapM_range_eq_error h
        refine ⟨i, hi, by rw [hfault]; rfl, fun j hj => ?_⟩
        obtain ⟨value, hvalue⟩ := hbefore j hj
        exact ⟨[value], hsingle j value hvalue⟩

/-! ## Expressions of one segment -/

/-- The text is a single segment, and the expression is its tree.  Nothing is read with a marker
that holds a line break or a null character. -/
structure IsSegment (marker expression segment : Text) (expr : Expr) : Prop where
  alone : splitTopLevel [','] false expression = [segment]
  soughtMarker : '\n' ∉ marker ∧ '\x00' ∉ marker
  read : readExpr marker segment = .ok expr

section Segment

variable {environment : Environment} {marker expression segment : Text} {expr : Expr}

theorem length_evaluateExpr_le {values : List Number}
    (h : evaluateExpr environment segment expr = .ok values) : values.length ≤ maxComponents := by
  obtain ⟨resolved, _, h⟩ := bind_eq_ok_iff.mp h
  dsimp only at h
  split at h
  next => cases h
  next =>
    rw [(mapM_range_eq_ok_iff.mp h).1]
    cases hwidths : vectorWidths resolved with
    | nil => decide
    | cons width rest =>
        have hmem : width ∈ vectorWidths resolved := by simp [hwidths]
        exact (mem_vectorWidths_iff.mp hmem).1.2

/-- One segment is evaluated as it stands. -/
theorem IsSegment.evaluate_eq (h : IsSegment marker expression segment expr) :
    evaluate environment marker expression = evaluateExpr environment segment expr := by
  have hne : segment ≠ [] := by
    rintro rfl
    cases h.read
  have hsegment : evaluateSegment environment marker segment
      = evaluateExpr environment segment expr := by
    simp [evaluateSegment, h.soughtMarker.1, h.soughtMarker.2, h.read]
  unfold evaluate
  simp only [h.alone, List.isEmpty_cons, List.any_cons, List.any_nil, Bool.or_false, Bool.false_or,
    List.isEmpty_iff, hne, if_false, List.mapM_cons, List.mapM_nil, hsegment]
  cases hvalues : evaluateExpr environment segment expr with
  | error failure => rfl
  | ok values =>
      have hshort := length_evaluateExpr_le hvalues
      simp only [bind_ok, pure_eq_ok, List.flatten_cons, List.flatten_nil, List.append_nil,
        if_neg (Nat.not_lt_of_le hshort)]

theorem Expr.CommonWidth.one_le {width : Nat} (h : expr.CommonWidth environment width) :
    1 ≤ width := by
  rcases h.attained with rfl | ⟨use, _, values, hlookup, rfl⟩
  · exact Nat.le_refl 1
  · obtain ⟨wildcard, _, rfl⟩ := Option.map_eq_some_iff.mp hlookup
    exact wildcard.width_pos

/-- An unknown wildcard ends an evaluation, whatever the others are. -/
theorem evaluateExpr_of_unknown (hbare : ∀ use ∈ expr.uses, use.IsBare)
    (h : ∃ use ∈ expr.uses, environment.lookup? use.name = none) :
    ∃ name, evaluateExpr environment segment expr = refuse (.unknownWildcard name) := by
  obtain ⟨use, huse, hnone⟩ := h
  unfold evaluateExpr
  cases hresolved : expr.uses.mapM fun use => use.resolve environment with
  | ok resolved =>
      obtain ⟨values, _, hresolve⟩ := exists_of_mem_of_mapM_eq_ok hresolved huse
      rw [resolve_eq_ok_iff (hbare use huse), hnone] at hresolve
      cases hresolve
  | error fault =>
      obtain ⟨unknown, hunknown, hfault⟩ := exists_of_mapM_eq_error hresolved
      rw [resolve_of_isBare (hbare unknown hunknown)] at hfault
      cases hlookup : environment.lookup? unknown.name with
      | some values =>
          rw [hlookup] at hfault
          cases hfault
      | none =>
          rw [hlookup] at hfault
          cases hfault
          exact ⟨unknown.name, rfl⟩

/-- Vectors of different widths end an evaluation in which all wildcards are known. -/
theorem evaluateExpr_of_widthsDiffer (hbare : ∀ use ∈ expr.uses, use.IsBare)
    (h : expr.WidthsDiffer environment)
    (hknown : ∀ use ∈ expr.uses, (environment.lookup? use.name).isSome) :
    ∃ widths, evaluateExpr environment segment expr = refuse (.widthsDiffer segment widths) := by
  have hresolve : ∀ use ∈ expr.uses, ∀ values, environment.lookup? use.name = some values →
      use.resolve environment = .ok values :=
    fun use huse values => (resolve_eq_ok_iff (hbare use huse)).mpr
  unfold evaluateExpr
  cases hresolved : expr.uses.mapM fun use => use.resolve environment with
  | error fault =>
      obtain ⟨use, huse, hfault⟩ := exists_of_mapM_eq_error hresolved
      obtain ⟨values, hvalues⟩ := Option.isSome_iff_exists.mp (hknown use huse)
      rw [hresolve use huse values hvalues] at hfault
      cases hfault
  | ok resolved =>
      have hwidth : ∀ use ∈ expr.uses, ∀ values, environment.lookup? use.name = some values →
          values.length ≠ 1 → values.length ∈ vectorWidths resolved := by
        intro use huse values hlookup hne
        obtain ⟨found, hfound, heq⟩ := exists_of_mem_of_mapM_eq_ok hresolved huse
        cases (hresolve use huse values hlookup).symm.trans heq
        exact length_mem_vectorWidths (length_of_mem_resolved hbare hresolved) hfound hne
      obtain ⟨first, hfirst, second, hsecond, a, b, ha, hb, hone, hone', hne⟩ := h
      have hmany : 1 < (vectorWidths resolved).length := by
        have hmem := hwidth first hfirst a ha hone
        have hmem' := hwidth second hsecond b hb hone'
        match hwidths : vectorWidths resolved with
        | [] => simp [hwidths] at hmem
        | [only] => simp_all
        | _ :: _ :: _ => simp
      rw [bind_ok]
      dsimp only
      rw [if_pos hmany]
      exact ⟨_, rfl⟩

/-- An expression of one segment without accessors.  If its vectors have a common width, evaluating
it is evaluating it for each of their components in turn, and every component that is looked up is
there.  If they have not, its evaluation fails: for an unknown wildcard if there is one, and
otherwise for the widths. -/
theorem evaluate_broadcasts (h : IsSegment marker expression segment expr)
    (hbare : ∀ use ∈ expr.uses, use.IsBare) :
    (∀ width, expr.CommonWidth environment width →
      Broadcasts (evaluate environment marker expression) width
        (fun i => evaluate (environment.component expr.names i) marker expression) ∧
      ∀ i < width, ∀ use ∈ expr.uses, ∀ values, use.resolve environment = .ok values →
        values[lookupPlace values i]? = some (componentOf values i)) ∧
    (expr.WidthsDiffer environment →
      ∃ issue, evaluate environment marker expression = refuse issue ∧
        ((∀ use ∈ expr.uses, (environment.lookup? use.name).isSome) → issue.kind = .evaluation) ∧
        ((∃ use ∈ expr.uses, environment.lookup? use.name = none) →
          issue.kind = .unknownWildcard)) := by
  refine ⟨fun width hwidth => ⟨?_, ?_⟩, fun hdiffer => ?_⟩
  · rw [h.evaluate_eq, evaluateExpr_eq_bind hbare hwidth]
    refine (Broadcasts.of_bind hwidth.one_le _ _).congr fun i hi => ?_
    rw [h.evaluate_eq, evaluateExpr_component hbare hwidth hi]
  · intro i hi use huse values hresolve
    have hlength := hwidth.agree use huse values ((resolve_eq_ok_iff (hbare use huse)).mp hresolve)
    exact getElem?_lookupPlace (hlength.imp_right fun heq => by omega)
  · rw [h.evaluate_eq]
    by_cases hunknown : ∃ use ∈ expr.uses, environment.lookup? use.name = none
    · obtain ⟨name, hname⟩ := evaluateExpr_of_unknown hbare hunknown
      obtain ⟨use, huse, hnone⟩ := hunknown
      refine ⟨_, hname, fun hknown => ?_, fun _ => rfl⟩
      have hsome := hknown use huse
      rw [hnone] at hsome
      cases hsome
    · have hknown : ∀ use ∈ expr.uses, (environment.lookup? use.name).isSome := by
        simpa [Option.isSome_iff_ne_none] using hunknown
      obtain ⟨widths, hwidths⟩ := evaluateExpr_of_widthsDiffer hbare hdiffer hknown
      exact ⟨_, hwidths, fun _ => rfl, fun h => absurd h hunknown⟩

end Segment

/-- A size, a factor for it, and a point of another width. -/
def sceneInfo : Environment :=
  [.pair "size" 3 4, ⟨"factor".toList, [.int 2], by decide, by decide⟩,
    ⟨"point".toList, [.int 1, .int 2, .int 3], by decide, by decide⟩]

/-- The wildcard of that name as a whole. -/
def Expr.bare (name : String) : Expr :=
  .wildcard ⟨name.toList, [], none⟩

def sizeTimesFactor : Text :=
  "info.size * info.factor".toList

def sizePlusPoint : Text :=
  "info.size + info.point".toList

/-- The size is scaled component by component; it cannot be added to the point. -/
theorem evaluate_broadcasts_sizeTimesFactor :
    (Expr.mul (.bare "size") (.bare "factor")).CommonWidth sceneInfo 2 ∧
    Broadcasts (evaluate sceneInfo infoMarker sizeTimesFactor) 2
      (fun i => evaluate (sceneInfo.component ["size".toList, "factor".toList] i) infoMarker
        sizeTimesFactor) ∧
    (Expr.add (.bare "size") (.bare "point")).WidthsDiffer sceneInfo ∧
    ∃ issue, evaluate sceneInfo infoMarker sizePlusPoint = refuse issue ∧
      issue.kind = .evaluation := by
  have hproduct : IsSegment infoMarker sizeTimesFactor sizeTimesFactor
      (.mul (.bare "size") (.bare "factor")) :=
    ⟨by decide +kernel, by decide, eq_ok_of_toOption (by decide +kernel)⟩
  have hsum : IsSegment infoMarker sizePlusPoint sizePlusPoint
      (.add (.bare "size") (.bare "point")) :=
    ⟨by decide +kernel, by decide, eq_ok_of_toOption (by decide +kernel)⟩
  have hwidth : (Expr.mul (.bare "size") (.bare "factor")).CommonWidth sceneInfo 2 := by
    refine ⟨?_, Or.inr ⟨⟨"size".toList, [], none⟩, by decide +kernel, _, rfl, rfl⟩⟩
    have huses : (Expr.mul (.bare "size") (.bare "factor")).uses
        = [⟨"size".toList, [], none⟩, ⟨"factor".toList, [], none⟩] := by decide +kernel
    rw [huses]
    simp only [List.forall_mem_cons]
    refine ⟨fun values h => ?_, fun values h => ?_, by simp⟩
    · cases h
      exact Or.inr rfl
    · cases h
      exact Or.inl rfl
  have hdiffer : (Expr.add (.bare "size") (.bare "point")).WidthsDiffer sceneInfo :=
    ⟨⟨"size".toList, [], none⟩, by decide +kernel, ⟨"point".toList, [], none⟩, by decide +kernel,
      _, _, rfl, rfl, by decide, by decide, by decide⟩
  obtain ⟨issue, hissue, hkind, -⟩ :=
    (evaluate_broadcasts hsum (by unfold WildcardUse.IsBare; decide +kernel)).2 hdiffer
  obtain ⟨hbroadcasts, -⟩ :=
    (evaluate_broadcasts hproduct (by unfold WildcardUse.IsBare; decide +kernel)).1 2 hwidth
  exact ⟨hwidth, hbroadcasts, hdiffer, issue, hissue, hkind (by decide +kernel)⟩

def lostWildcard : Text :=
  "info.size + info.point + info.lost".toList

/-- A wildcard that is unknown hides the widths of the others. -/
theorem unknownWildcard_before_widthsDiffer :
    IsSegment infoMarker lostWildcard lostWildcard
      (.add (.add (.bare "size") (.bare "point")) (.bare "lost")) ∧
    (Expr.add (.add (.bare "size") (.bare "point")) (.bare "lost")).WidthsDiffer sceneInfo ∧
    evaluate sceneInfo infoMarker lostWildcard = refuse (.unknownWildcard "lost".toList) ∧
    (Issue.unknownWildcard "lost".toList).kind ≠ .evaluation := by
  have hsegment : IsSegment infoMarker lostWildcard lostWildcard
      (.add (.add (.bare "size") (.bare "point")) (.bare "lost")) :=
    ⟨by decide +kernel, by decide, eq_ok_of_toOption (by decide +kernel)⟩
  refine ⟨hsegment, ?_, ?_, by decide⟩
  · exact ⟨⟨"size".toList, [], none⟩, by decide +kernel, ⟨"point".toList, [], none⟩,
      by decide +kernel, _, _, rfl, rfl, by decide, by decide, by decide⟩
  · rw [hsegment.evaluate_eq]
    rfl

end ShaderMarkup
