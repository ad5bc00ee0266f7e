import ShaderMarkup.Change

/-!
# Sessions

A session keeps wildcards, settings and the shader that was compiled last.  A step that fails
leaves the session as it was.
-/

namespace ShaderMarkup

/-- The state of a session. -/
structure Session where
  wildcards : Table Text Wildcard := {}
  settings : Settings := {}
  shader : Option Shader := none

/-- What a session can be asked. -/
inductive Step where
  | define (name : Text) (values : List Number)
  | set (name : Text) (values : List Number)
  | undefine (name : Text)
  | configure (settings : Settings)
  | evaluate (expression : Text)
  | get (name : Text)
  | compile (source : Text)

/-- What a session answers. -/
inductive Answer where
  | defined (wildcard : Wildcard)
  | updated (wildcard : Wildcard)
  | done
  | values (numbers : List Number)
  | resource (found : Option Resource)
  | compiled (shader : Shader) (log : List LogEntry) (change : Option Change)
  | notCompiled (fault : Fault) (log : List LogEntry)
  | failed (fault : Fault)
  | noWildcard
  | noShader

namespace Session

/-- The wildcards of a session for expressions. -/
def environment (session : Session) : Environment :=
  session.wildcards.values

/-- Gives a name to a new vector, in place of the one that had it. -/
def define (session : Session) (name : Text) (values : List Number) : Answer × Session :=
  match Wildcard.ofValues name values with
  | .ok wildcard =>
      (.defined wildcard, { session with wildcards := session.wildcards.insert name wildcard })
  | .error cause => (.failed (.abort cause), session)

/-- Changes the vector of a name that is defined. -/
def update (session : Session) (name : Text) (values : List Number) : Answer × Session :=
  if session.wildcards.contains name then
    match Wildcard.ofValues name values with
    | .ok wildcard =>
        (.updated wildcard, { session with wildcards := session.wildcards.insert name wildcard })
    | .error cause => (.failed (.abort cause), session)
  else (.noWildcard, session)

/-- Compiles a source and makes it the current shader. -/
def compile (session : Session) (source : Text) : Answer × Session :=
  let journal := ShaderMarkup.compile source session.environment session.settings
  match journal.result with
  | .ok shader =>
      let change := session.shader.map fun previous => changes previous shader
      (.compiled shader journal.entries change, { session with shader := some shader })
  | .error fault => (.notCompiled fault journal.entries, session)

/-- Takes one step. -/
def step (session : Session) : Step → Answer × Session
  | .define name values => session.define name values
  | .set name values => session.update name values
  | .undefine name =>
      if session.wildcards.contains name then
        (.done, { session with wildcards := session.wildcards.erase name })
      else (.noWildcard, session)
  | .configure settings => (.done, { session with settings })
  | .evaluate expression =>
      match ShaderMarkup.evaluate session.environment session.settings.marker expression with
      | .ok numbers => (.values numbers, session)
      | .error fault => (.failed fault, session)
  | .get name =>
      match session.shader with
      | some shader => (.resource (shader.resource? name), session)
      | none => (.noShader, session)
  | .compile source => session.compile source

/-- The answers to steps, one after the other. -/
def run : Session → List Step → List Answer
  | _, [] => []
  | session, next :: rest =>
      let (answer, after) := session.step next
      answer :: run after rest

end Session

end ShaderMarkup
