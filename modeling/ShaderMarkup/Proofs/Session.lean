import ShaderMarkup.Proofs.Reading
import ShaderMarkup.Proofs.Table
import ShaderMarkup.Session

/-!
# What a session remembers

`Session.Moves` lists what a step can do, with one rule for each step that succeeds and one for all
that fail, and `moves_step` says that there is nothing else.  The facts about a step are read off
these rules, and those about a run follow by induction over its steps:

* a step that fails leaves the session as it was, so without the failed steps a run ends in the same
  session and gives the same other answers (`run_accepted`);
* the current shader is the one that was compiled last (`shader_after`), and the change that is told
  with a new one is the change since then (`change_of_compiled`);
* the settings are those that were given last (`settings_after`);
* a wildcard keeps its value as long as no step names it (`find?_after`);
* every wildcard stands under its own name and the shader has been compiled (`Sound.after`), so an
  expression finds under a name what was last defined there (`Sound.lookup?_after_define`).
-/

namespace ShaderMarkup

/-! ## Answers and steps -/

/-- Whether the answer says that a step failed. -/
def Answer.isFailure : Answer → Bool
  | .notCompiled _ _ | .failed _ | .noWildcard | .noShader => true
  | _ => false

/-- The shader that an answer brings. -/
def Answer.shader? : Answer → Option Shader
  | .compiled shader _ _ => some shader
  | _ => none

theorem Answer.shader?_of_isFailure {answer : Answer} (h : answer.isFailure = true) :
    answer.shader? = none := by
  cases answer with
  | compiled => cases h
  | _ => rfl

/-- The name of the wildcard that a step is to write. -/
def Step.target? : Step → Option Text
  | .define name _ | .set name _ | .undefine name => some name
  | _ => none

/-- The settings that a step gives. -/
def Step.settings? : Step → Option Settings
  | .configure settings => some settings
  | _ => none

theorem Wildcard.name_of_ofValues {name : Text} {values : List Number} {wildcard : Wildcard}
    (h : ofValues name values = .ok wildcard) :
    wildcard.name = name ∧ wildcard.values = values := by
  unfold ofValues at h
  split at h
  next =>
    cases h
    exact ⟨rfl, rfl⟩
  next => cases h

namespace Session

variable {session later : Session} {next : Step} {answer : Answer}

/-! ## One step -/

/-- What a step of a session can be answered with, and the session it leaves. -/
inductive Moves (session : Session) : Step → Answer → Session → Prop
  | define {name : Text} {values : List Number} {wildcard : Wildcard}
      (h : Wildcard.ofValues name values = .ok wildcard) :
      Moves session (.define name values) (.defined wildcard)
        { session with wildcards := session.wildcards.insert name wildcard }
  | set {name : Text} {values : List Number} {wildcard : Wildcard}
      (hname : session.wildcards.contains name = true)
      (h : Wildcard.ofValues name values = .ok wildcard) :
      Moves session (.set name values) (.updated wildcard)
        { session with wildcards := session.wildcards.insert name wildcard }
  | undefine {name : Text} (hname : session.wildcards.contains name = true) :
      Moves session (.undefine name) .done
        { session with wildcards := session.wildcards.erase name }
  | configure (settings : Settings) :
      Moves session (.configure settings) .done { session with settings }
  | evaluate {expression : Text} {numbers : List Number}
      (h : ShaderMarkup.evaluate session.environment session.settings.marker expression
        = .ok numbers) :
      Moves session (.evaluate expression) (.values numbers) session
  | get {shader : Shader} (h : session.shader = some shader) (name : Text) :
      Moves session (.get name) (.resource (shader.resource? name)) session
  | compile {source : Text} {shader : Shader}
      (h : (ShaderMarkup.compile source session.environment session.settings).result = .ok shader) :
      Moves session (.compile source)
        (.compiled shader
          (ShaderMarkup.compile source session.environment session.settings).entries
          (session.shader.map fun previous => changes previous shader))
        { session with shader := some shader }
  | fail {next : Step} {answer : Answer} (h : answer.isFailure = true)
      (hnext : next.settings? = none) : Moves session next answer session

theorem moves_define (session : Session) (name : Text) (values : List Number) :
    session.Moves (.define name values) (session.define name values).1
      (session.define name values).2 := by
  unfold define
  split
  next wildcard h => exact .define h
  next => exact .fail rfl rfl

theorem moves_update (session : Session) (name : Text) (values : List Number) :
    session.Moves (.set name values) (session.update name values).1
      (session.update name values).2 := by
  unfold update
  split
  next hname =>
    split
    next wildcard h => exact .set hname h
    next => exact .fail rfl rfl
  next => exact .fail rfl rfl

theorem moves_compile (session : Session) (source : Text) :
    session.Moves (.compile source) (session.compile source).1 (session.compile source).2 := by
  unfold compile
  dsimp only
  split
  next shader h => exact .compile h
  next => exact .fail rfl rfl

/-- A step does what one of the rules says. -/
theorem moves_step (session : Session) (next : Step) :
    session.Moves next (session.step next).1 (session.step next).2 := by
  cases next with
  | define name values => exact moves_define session name values
  | set name values => exact moves_update session name values
  | undefine name =>
      rw [step]
      split
      next hname => exact .undefine hname
      next => exact .fail rfl rfl
  | configure settings => exact .configure settings
  | evaluate expression =>
      rw [step]
      split
      next numbers h => exact .evaluate h
      next => exact .fail rfl rfl
  | get name =>
      rw [step]
      split
      next shader h => exact .get h name
      next => exact .fail rfl rfl
  | compile source => exact moves_compile session source

namespace Moves

/-- A step that fails leaves the session as it was. -/
theorem eq_of_isFailure (h : session.Moves next answer later) (hfail : answer.isFailure = true) :
    later = session := by
  cases h with
  | evaluate | get | fail => rfl
  | _ => cases hfail

theorem shader_eq (h : session.Moves next answer later) :
    later.shader = answer.shader?.or session.shader := by
  cases h with
  | fail hfail =>
      rw [Answer.shader?_of_isFailure hfail]
      rfl
  | _ => rfl

/-- A change is told since the shader that was there before. -/
theorem change_eq {shader : Shader} {log : List LogEntry} {change : Option Change}
    (h : session.Moves next (.compiled shader log change) later) :
    change = session.shader.map fun previous => changes previous shader := by
  cases h with
  | compile => rfl
  | fail hfail => cases hfail

/-- Other wildcards than the one that a step names stay. -/
theorem find?_eq (h : session.Moves next answer later) {name : Text}
    (hname : next.target? ≠ some name) :
    later.wildcards.find? name = session.wildcards.find? name := by
  cases h with
  | define | set =>
      rw [Table.find?_insert, if_neg]
      rintro rfl
      exact hname rfl
  | undefine =>
      rw [Table.find?_erase, if_neg]
      rintro rfl
      exact hname rfl
  | _ => rfl

theorem settings_eq (h : session.Moves next answer later) :
    later.settings = next.settings?.getD session.settings := by
  cases h with
  | fail _ hnext =>
      rw [hnext]
      rfl
  | _ => rfl

end Moves

theorem step_of_isFailure (h : (session.step next).1.isFailure = true) :
    (session.step next).2 = session :=
  (moves_step session next).eq_of_isFailure h

/-! ## Runs -/

/-- The session behind a run. -/
def after : Session → List Step → Session
  | session, [] => session
  | session, next :: rest => (session.step next).2.after rest

theorem run_cons (session : Session) (next : Step) (rest : List Step) :
    session.run (next :: rest) = (session.step next).1 :: (session.step next).2.run rest := rfl

theorem run_append (session : Session) (front back : List Step) :
    session.run (front ++ back) = session.run front ++ (session.after front).run back := by
  induction front generalizing session with
  | nil => rfl
  | cons next rest ih => exact congrArg _ (ih (session.step next).2)

/-- The steps of a run that do not fail. -/
def accepted : Session → List Step → List Step
  | _, [] => []
  | session, next :: rest =>
      if (session.step next).1.isFailure then (session.step next).2.accepted rest
      else next :: (session.step next).2.accepted rest

/-- Failed steps leave no trace: without them a run ends in the same session, and the other steps
get the same answers. -/
theorem run_accepted (session : Session) (steps : List Step) :
    session.after (session.accepted steps) = session.after steps ∧
      session.run (session.accepted steps)
        = (session.run steps).filter fun answer => !answer.isFailure := by
  induction steps generalizing session with
  | nil => exact ⟨rfl, rfl⟩
  | cons next rest ih =>
      obtain ⟨hafter, hrun⟩ := ih (session.step next).2
      rw [accepted]
      cases hfail : (session.step next).1.isFailure with
      | true =>
          rw [if_pos rfl, run_cons, after, List.filter_cons_of_neg (by simp [hfail])]
          rw [step_of_isFailure hfail] at hafter hrun ⊢
          exact ⟨hafter, hrun⟩
      | false =>
          rw [if_neg Bool.false_ne_true, run_cons, run_cons, after, after,
            List.filter_cons_of_pos (by simp [hfail]), hrun]
          exact ⟨hafter, rfl⟩

/-- The current shader is the last one that a step of the run compiled. -/
theorem shader_after (session : Session) (steps : List Step) :
    (session.after steps).shader
      = ((session.run steps).filterMap Answer.shader?).getLast?.or session.shader := by
  induction steps generalizing session with
  | nil => rfl
  | cons next rest ih =>
      rw [after, ih, run_cons, (moves_step session next).shader_eq]
      cases hanswer : (session.step next).1.shader? with
      | none => rw [List.filterMap_cons_none hanswer, Option.none_or]
      | some shader =>
          rw [List.filterMap_cons_some hanswer, getLast?_cons_or, Option.some_or]

/-- A run whose last step compiles a shader tells the change since the one it compiled before. -/
theorem change_of_compiled {steps : List Step} {answers : List Answer} {shader : Shader}
    {log : List LogEntry} {change : Option Change}
    (h : session.run (steps ++ [next]) = answers ++ [.compiled shader log change]) :
    change = ((answers.filterMap Answer.shader?).getLast?.or session.shader).map
      fun previous => changes previous shader := by
  rw [run_append] at h
  obtain ⟨rfl, hlast⟩ := List.append_inj' h rfl
  have hanswer : ((session.after steps).step next).1 = .compiled shader log change :=
    (List.cons.inj hlast).1
  have hmoves := moves_step (session.after steps) next
  rw [hanswer] at hmoves
  rw [hmoves.change_eq, shader_after]

/-- The settings are those that a step of the run gave last. -/
theorem settings_after (session : Session) (steps : List Step) :
    (session.after steps).settings
      = (steps.filterMap Step.settings?).getLast?.getD session.settings := by
  induction steps generalizing session with
  | nil => rfl
  | cons next rest ih =>
      rw [after, ih, (moves_step session next).settings_eq]
      cases hgiven : next.settings? with
      | none => rw [List.filterMap_cons_none hgiven, Option.getD_none]
      | some settings =>
          rw [List.filterMap_cons_some hgiven, List.getLast?_cons, Option.getD_some]
          rfl

/-- A wildcard that no step of the run names keeps its value. -/
theorem find?_after {steps : List Step} {name : Text}
    (h : ∀ next ∈ steps, next.target? ≠ some name) :
    (session.after steps).wildcards.find? name = session.wildcards.find? name := by
  induction steps generalizing session with
  | nil => rfl
  | cons next rest ih =>
      obtain ⟨hnext, hrest⟩ := List.forall_mem_cons.mp h
      rw [after, ih hrest, (moves_step session next).find?_eq hnext]

/-! ## Sound sessions -/

/-- Every wildcard stands under its own name, and the shader, if there is one, is the result of a
compilation. -/
structure Sound (session : Session) : Prop where
  named : ∀ entry ∈ session.wildcards.entries, entry.2.name = entry.1
  compiled : ∀ shader ∈ session.shader, ∃ source environment settings,
    (ShaderMarkup.compile source environment settings).result = .ok shader

theorem sound_empty : Sound {} where
  named := List.forall_mem_nil _
  compiled := by simp

namespace Sound

/-- A wildcard that is stored under its name joins the others. -/
theorem insert (h : session.Sound) {name : Text} {values : List Number} {wildcard : Wildcard}
    (hvalues : Wildcard.ofValues name values = .ok wildcard) :
    Sound { session with wildcards := session.wildcards.insert name wildcard } where
  named entry hentry := by
    rcases Table.mem_put hentry with rfl | hentry
    · exact (Wildcard.name_of_ofValues hvalues).1
    · exact h.named entry hentry
  compiled := h.compiled

theorem moves (h : session.Sound) (hmoves : session.Moves next answer later) : later.Sound := by
  cases hmoves with
  | define hvalues => exact h.insert hvalues
  | set _ hvalues => exact h.insert hvalues
  | undefine =>
      exact ⟨fun entry hentry => h.named entry (List.mem_filter.mp hentry).1, h.compiled⟩
  | configure => exact ⟨h.named, h.compiled⟩
  | compile hcompile =>
      refine ⟨h.named, fun shader hshader => ?_⟩
      cases hshader
      exact ⟨_, _, _, hcompile⟩
  | evaluate | get | fail => exact h

/-- A run keeps a session sound. -/
theorem after (h : session.Sound) (steps : List Step) : (session.after steps).Sound := by
  induction steps generalizing session with
  | nil => exact h
  | cons next rest ih => exact ih (h.moves (moves_step session next))

/-- An expression finds under a name the wildcard that stands there. -/
theorem lookup? (h : session.Sound) (name : Text) :
    session.environment.lookup? name = (session.wildcards.find? name).map (·.values) := by
  have hfind : session.wildcards.find? name
      = (session.wildcards.entries.reverse.find? fun entry => entry.1 = name).map (·.2) := by
    have htable := Table.find?_ofList session.wildcards.entries name
    rw [Table.find?, Table.entries_ofList session.wildcards.nodup,
      List.findRev?_eq_find?_reverse] at htable
    exact htable
  have hnames : session.wildcards.entries.reverse.find? (fun entry => entry.2.name = name)
      = session.wildcards.entries.reverse.find? fun entry => entry.1 = name := by
    rw [← List.head?_filter, ← List.head?_filter]
    refine congrArg List.head? (List.filter_congr fun entry hentry => ?_)
    rw [h.named entry (List.mem_reverse.mp hentry)]
  rw [hfind, Environment.lookup?, environment, Table.values, ← List.map_reverse, List.find?_map,
    Option.map_map, Option.map_map]
  exact congrArg _ hnames

/-- What a wildcard was defined as is what expressions find, until a step names it again. -/
theorem lookup?_after_define (h : session.Sound) {name : Text} {values : List Number}
    {wildcard : Wildcard} {steps : List Step}
    (hdefined : (session.step (.define name values)).1 = .defined wildcard)
    (hsteps : ∀ next ∈ steps, next.target? ≠ some name) :
    (session.after (.define name values :: steps)).environment.lookup? name = some values := by
  have hmoves := moves_step session (.define name values)
  rw [hdefined] at hmoves
  rw [(h.after _).lookup?, Session.after, find?_after hsteps]
  generalize (session.step (.define name values)).2 = later at hmoves ⊢
  cases hmoves with
  | define hvalues =>
      rw [Table.find?_insert, if_pos rfl, Option.map_some, (Wildcard.name_of_ofValues hvalues).2]
  | fail hfail => cases hfail

end Sound

end Session

end ShaderMarkup
