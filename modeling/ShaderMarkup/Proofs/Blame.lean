import ShaderMarkup.Proofs.Comment
import ShaderMarkup.Proofs.Containment
import ShaderMarkup.Proofs.EntryCall

/-!
# Where an issue of a compilation points

An issue that ends a compilation points at a decorator of the entry point, at the line that it has
in the source with its comments.  The line is attached late: the checks of an entry point refuse
without one (`Unplaced`), and `blaming` gives the issue the line of the decorator that is being read
(`Unplaced.line_of_blaming`).  An issue that already had a line would keep it, so each check has to
be followed down to its numerals.

What is left is to find the decorator again: it is the first of its name that a bracket follows
(`opensFirst_of_entryCall?`), and blanking comments out has left it on its line.
-/

namespace ShaderMarkup

/-! ## Issues without a line -/

/-- The issue that the computation may end with has no line yet. -/
def Unplaced {α : Type} (check : Check α) : Prop :=
  ∀ report, check = .error (.issue report) → report.line = none

namespace Unplaced

variable {α β : Type}

theorem ok (a : α) : Unplaced (.ok a : Check α) := by
  intro report h
  cases h

theorem refuse (issue : Issue) : Unplaced (ShaderMarkup.refuse issue : Check α) := by
  intro report h
  cases h
  rfl

theorem giveUp (cause : Abort) : Unplaced (ShaderMarkup.giveUp cause : Check α) := by
  intro report h
  cases h

theorem bind {first : Check α} {next : α → Check β} (hfirst : Unplaced first)
    (hnext : ∀ a, Unplaced (next a)) : Unplaced (first >>= next) := by
  intro report h
  rcases bind_eq_error_iff.mp h with h | ⟨a, _, h⟩
  · exact hfirst report h
  · exact hnext a report h

theorem mapM {step : α → Check β} (h : ∀ item, Unplaced (step item)) (items : List α) :
    Unplaced (items.mapM step) := by
  intro report hreport
  obtain ⟨item, _, hstep⟩ := exists_of_mapM_eq_error hreport
  exact h item report hstep

/-- Blame gives an issue without a line that of the decorator. -/
theorem line_of_blaming {check : Check α} (h : Unplaced check) {code : Text} {call : Call}
    {report : Located Issue} (hblamed : blaming code call check = .error (.issue report)) :
    report.line = some (callLine code call) := by
  unfold blaming Check.located at hblamed
  split at hblamed
  next => cases hblamed
  next fault =>
    cases fault with
    | abort cause => cases hblamed
    | issue found =>
        cases hblamed
        unfold Located.locate
        rw [h found rfl]
        dsimp only
        split <;> rfl

end Unplaced

/-! ## Evaluation -/

section Evaluation

variable {environment : Environment} {segment : Text}

theorem unplaced_indexValue (literal : Literal) : Unplaced (indexValue literal) := by
  unfold indexValue
  split
  · exact .refuse _
  · split
    · exact .giveUp _
    · exact .ok _

theorem unplaced_pickIndexed (name : Text) (values : List Number) (indices : List Nat) :
    Unplaced (pickIndexed name values indices) := by
  unfold pickIndexed
  split
  · exact .ok _
  · split
    · exact .ok _
    · exact .refuse _
  · split
    · exact .refuse _
    · split
      · split
        · exact .ok _
        · exact .refuse _
      · exact .refuse _
  · exact .refuse _

theorem unplaced_resolve (use : WildcardUse) : Unplaced (use.resolve environment) := by
  unfold WildcardUse.resolve
  split
  · exact .refuse _
  · refine .bind (.mapM unplaced_indexValue _) fun indices =>
      .bind (unplaced_pickIndexed _ _ _) fun picked => ?_
    split
    · exact .ok _
    · refine .mapM (fun letter => ?_) _
      split
      · exact .ok _
      · exact .refuse _

theorem unplaced_arithmetic (result : Except ArithmeticFault Number) :
    Unplaced (arithmetic segment result) := by
  unfold arithmetic
  split
  · exact .ok _
  · exact .refuse _
  · exact .refuse _

theorem unplaced_eval {valueOf : WildcardUse → Check Number}
    (hvalue : ∀ use, Unplaced (valueOf use)) (expr : Expr) :
    Unplaced (expr.eval segment valueOf) := by
  induction expr with
  | number literal =>
      rw [Expr.eval]
      split
      · exact .ok _
      · exact .giveUp _
  | wildcard use => exact hvalue use
  | neg a ih => exact .bind ih fun _ => .ok _
  | pos a ih => exact ih
  | add a b iha ihb | sub a b iha ihb | mul a b iha ihb | div a b iha ihb =>
      exact .bind iha fun _ => .bind ihb fun _ => unplaced_arithmetic _

theorem unplaced_evaluateComponent (expr : Expr) (component : Nat) :
    Unplaced (evaluateComponent environment segment expr component) := by
  refine .bind (unplaced_eval (fun use => .bind (unplaced_resolve use) fun _ => .ok _) expr)
    fun value => ?_
  unfold checkFinite
  split
  · exact .refuse _
  · split
    · exact .ok _
    · exact .refuse _

theorem unplaced_evaluateSegment (marker segment : Text) :
    Unplaced (evaluateSegment environment marker segment) := by
  unfold evaluateSegment
  split
  · exact .giveUp _
  · split
    · exact .giveUp _
    · split
      · refine .bind (.mapM unplaced_resolve _) fun resolved => ?_
        dsimp only
        split
        · exact .refuse _
        · exact .mapM (unplaced_evaluateComponent _) _
      · exact .refuse _

theorem Context.unplaced_evaluate (context : Context) (expression : Text) :
    Unplaced (context.evaluate expression) := by
  unfold Context.evaluate ShaderMarkup.evaluate
  dsimp only
  split
  · exact .refuse _
  · refine .bind (.mapM (unplaced_evaluateSegment _) _) fun results => ?_
    split
    · exact .refuse _
    · exact .ok _

end Evaluation

/-! ## Entry points -/

section Entry

variable (context : Context)

theorem unplaced_positiveInteger (what : Text) (value : Number) :
    Unplaced (positiveInteger what value) := by
  unfold positiveInteger
  split
  · exact .refuse _
  · split
    · exact .giveUp _
    · split
      · exact .ok _
      · exact .refuse _

theorem unplaced_threadCounts (compute : Decorator) : Unplaced (threadCounts context compute) := by
  unfold threadCounts
  split
  · exact .refuse _
  · refine .bind (context.unplaced_evaluate _) fun counts => ?_
    split
    · exact .refuse _
    · exact .mapM (unplaced_positiveInteger _) _

theorem unplaced_workgroupSize (dimensions : Nat) (workgroup : Decorator) :
    Unplaced (workgroupSize context dimensions workgroup) := by
  refine .bind (context.unplaced_evaluate _) fun sizes => ?_
  split
  · exact .refuse _
  · exact .bind (.mapM (unplaced_positiveInteger _) _) fun _ => .ok _

theorem unplaced_canvasSize (most : Int) (values : List Number) :
    Unplaced (canvasSize most values) := by
  have hside (label lower : String) (value : Number) :
      Unplaced (canvasSide most label lower value) := by
    refine .bind (unplaced_positiveInteger _ _) fun length => ?_
    split
    · exact .refuse _
    · exact .ok _
  unfold canvasSize
  split
  · exact .bind (hside _ _ _) fun _ => .bind (hside _ _ _) fun _ => .ok _
  · exact .refuse _

theorem unplaced_canvasOf (canvas : Decorator) : Unplaced (canvasOf context canvas) := by
  unfold canvasOf
  dsimp only
  split
  next argument _ =>
    have hinner : Unplaced (do
        let values ← context.evaluate argument
        canvasSize context.settings.maxCanvasSize values) :=
      .bind (context.unplaced_evaluate argument) fun _ => unplaced_canvasSize _ _
    unfold blamingCanvas
    -- The canvas is named in a new issue, which has no line either.
    split
    · exact .refuse _
    · exact hinner
  next =>
    split
    · exact .refuse _
    · exact unplaced_canvasSize _ _

theorem unplaced_fragmentTarget (fragment : Decorator) :
    Unplaced (fragmentTarget context fragment) := by
  unfold fragmentTarget
  dsimp only
  split
  · exact .bind (unplaced_canvasOf context _) fun _ => .ok _
  · split
    · exact .ok _
    · exact .refuse _

theorem unplaced_addResolve (code : Text) (entry : FragmentEntry) :
    Unplaced (addResolve code entry) := by
  unfold addResolve
  split
  · exact .ok _
  · dsimp only
    split
    · exact .refuse _
    · split
      · exact .refuse _
      · exact .ok _

theorem unplaced_checkTarget (resources : List Resource) (target : Text) :
    Unplaced (checkTarget resources target) := by
  unfold checkTarget
  split
  · exact .refuse _
  · exact .ok _

end Entry

/-! ## The decorator to blame -/

/-- The names of the decorators that an issue of a compilation points at. -/
def blamedNames : List String :=
  ["compute", "fragment", "workgroup_size"]

/-- The issue has the line of the first decorator of one of the names. -/
def PointsAtEntry (code : Text) (report : Located Issue) : Prop :=
  ∃ name ∈ blamedNames, ∃ call, entryCall? code name = some call ∧
    report.line = some (callLine code call)

section Blame

variable {context : Context} {report : Located Issue}

theorem pointsAtEntry_of_shaderKind {code : Text}
    (h : shaderKind code = .error (.issue report)) : PointsAtEntry code report := by
  unfold shaderKind at h
  split at h
  next compute fragment hcompute hfragment =>
    cases h
    rcases Nat.le_total compute.start fragment.start with hle | hle
    · refine ⟨"fragment", by decide, fragment, hfragment, ?_⟩
      rw [Nat.max_eq_right hle, callLine]
    · refine ⟨"compute", by decide, compute, hcompute, ?_⟩
      rw [Nat.max_eq_left hle, callLine]
  all_goals cases h

theorem pointsAtEntry_of_computeEntry (h : computeEntry context = .error (.issue report)) :
    PointsAtEntry context.code report := by
  unfold computeEntry at h
  split at h
  next => cases h
  next compute hcompute =>
    rcases bind_eq_error_iff.mp h with h | ⟨counts, -, h⟩
    · exact ⟨"compute", by decide, compute, hcompute,
        (unplaced_threadCounts context compute.value).line_of_blaming h⟩
    · dsimp only at h
      split at h
      next => cases h
      next workgroup hworkgroup =>
        rcases bind_eq_error_iff.mp h with h | ⟨size, -, h⟩
        · exact ⟨"workgroup_size", by decide, workgroup, hworkgroup,
            (unplaced_workgroupSize context _ _).line_of_blaming h⟩
        · cases h

theorem pointsAtEntry_of_fragmentEntry {resources : List Resource}
    (h : fragmentEntry context resources = .error (.issue report)) :
    PointsAtEntry context.code report := by
  unfold fragmentEntry at h
  split at h
  next => cases h
  next fragment hfragment =>
    refine ⟨"fragment", by decide, fragment, hfragment, Unplaced.line_of_blaming ?_ h⟩
    exact .bind (unplaced_fragmentTarget context _) fun _ => .bind (unplaced_addResolve _ _)
      fun _ => .bind (unplaced_checkTarget _ _) fun _ => .ok _

theorem pointsAtEntry_of_entryPoint {resources : List Resource} {kind : ShaderKind}
    (h : entryPoint context resources kind = .error (.issue report)) :
    PointsAtEntry context.code report := by
  cases kind with
  | compute =>
      rcases bind_eq_error_iff.mp h with h | ⟨_, -, h⟩
      · exact pointsAtEntry_of_computeEntry h
      · cases h
  | fragment =>
      rcases bind_eq_error_iff.mp h with h | ⟨_, -, h⟩
      · exact pointsAtEntry_of_fragmentEntry h
      · cases h
  | resource => cases h

end Blame

/-! ## Its place in the source -/

theorem start_le_of_head?_placesFrom {α : Type} {reader : Reader α} (h : reader [] = none)
    {offset : Nat} {text : Text} {found : Found α}
    (hfound : (placesFrom reader offset text).head? = some found) {start : Nat}
    (hstart : start ∈ (placesFrom reader offset text).map (·.start)) : found.start ≤ start := by
  induction text generalizing offset with
  | nil => cases hfound
  | cons c text ih =>
      cases hread : reader (c :: text) with
      | none =>
          rw [placesFrom_of_none hread] at hfound hstart
          exact ih hfound hstart
      | some result =>
          have hoffset := ((mem_starts_placesFrom_iff h).mp hstart).1
          rw [placesFrom_of_some hread] at hfound
          cases hfound
          exact hoffset

/-- At the offset stands the first decorator of the name that a bracket follows. -/
def OpensFirst (code name : Text) (start : Nat) : Prop :=
  (∃ gap, OpensAt code name gap start) ∧ ∀ gap other, OpensAt code name gap other → start ≤ other

theorem opensFirst_of_entryCall? {code : Text} {name : String} {call : Call}
    (hname : Reader.IsIdentifier name.toList) (h : entryCall? code name = some call) :
    OpensFirst code name.toList call.start := by
  rw [entryCall?_eq hname] at h
  refine ⟨(mem_starts_iff_opensAt hname).mp (List.mem_map_of_mem (List.mem_of_head? h)), ?_⟩
  intro gap other hother
  exact start_le_of_head?_placesFrom rfl h ((mem_starts_iff_opensAt hname).mpr ⟨gap, hother⟩)

theorem isIdentifier_of_mem_blamedNames {name : String} (h : name ∈ blamedNames) :
    Reader.IsIdentifier name.toList := by
  simp only [blamedNames, List.mem_cons, List.not_mem_nil, or_false] at h
  rcases h with rfl | rfl | rfl <;> exact isIdentifier_of_mem_entryWords (by decide)

/-- An issue that ends a compilation points at the first `@compute`, `@fragment` or
`@workgroup_size` of the source without comments that white space and an opening bracket follow.
Its line is that of the decorator in the source with comments, and the message of the compilation
has the line and, behind the heading, the message of its cause. -/
theorem compile_issue_points_at_entry {source : Text} {environment : Environment}
    {settings : Settings} {cause : Located Issue}
    (h : (compile source environment settings).result = .error (.issue cause)) :
    ∃ name ∈ blamedNames, ∃ start, OpensFirst (stripComments source) name.toList start ∧
      (compileError cause).line = some ((1 + (source.take start).count '\n' : Nat) : Int) ∧
      cause.line = (compileError cause).line ∧
      (compileError cause).error = "Shader parsing error: ".toList ++ cause.error.message := by
  have hpoints : PointsAtEntry (stripComments source) cause := by
    rcases refused_of_compile_eq_issue h with h | ⟨kind, -, h⟩
    · exact pointsAtEntry_of_shaderKind h
    · exact pointsAtEntry_of_entryPoint h
  obtain ⟨name, hname, call, hcall, hline⟩ := hpoints
  have hidentifier := isIdentifier_of_mem_blamedNames hname
  refine ⟨name, hname, call.start, opensFirst_of_entryCall? hidentifier hcall, ?_, rfl, rfl⟩
  rw [compileError, hline, callLine, lineAt_stripComments, Text.lineAt, Nat.add_comm]

/-- A stage behind comments whose workgroup has an axis too many. -/
def crowdedStage : Text :=
  ("/* two\nlines */ // @compute(1)\n@compute(2, 2)\n".toList
    ++ "@workgroup_size (4, 4, 4) fn main() \x7b \x7d".toList)

set_option maxRecDepth 8192 in
theorem compile_crowdedStage :
    (compile crowdedStage [] {}).result = .error (.issue {
      error := .workgroupDimensions 3 2
      line := some 4
      source := some "@workgroup_size (4, 4, 4)".toList }) := by
  unfold crowdedStage
  exact rfl

theorem compile_issue_points_at_entry_crowdedStage :
    ∃ cause, (compile crowdedStage [] {}).result = .error (.issue cause) ∧
      cause.line = some 4 ∧
      ∃ name ∈ blamedNames, ∃ start, OpensFirst (stripComments crowdedStage) name.toList start ∧
        (compileError cause).line
          = some ((1 + (crowdedStage.take start).count '\n' : Nat) : Int) ∧
        cause.line = (compileError cause).line ∧
        (compileError cause).error = "Shader parsing error: ".toList ++ cause.error.message :=
  ⟨_, compile_crowdedStage, rfl, compile_issue_points_at_entry compile_crowdedStage⟩

end ShaderMarkup
