import ShaderMarkup.Emission
import ShaderMarkup.Entry.Compute
import ShaderMarkup.Entry.Fragment
import ShaderMarkup.Resource.Collect
import ShaderMarkup.Source.Comment

/-!
# Compiling shaders

Comments are blanked out, the kind of the shader is found, the declarations become resources, the
resources get their slots, the entry point is read, and plain code is emitted.  A declaration that
is refused is logged and left out; an issue with the kind or the entry point ends the compilation.
-/

namespace ShaderMarkup

/-- A compiled shader: its resources in the order of their slots, its plain code, and the slots
that several resources claim. -/
structure Shader where
  kind : ShaderKind
  entry : Option EntryPoint := none
  resources : List Resource
  code : Text := []
  collisions : List Collision := []

/-- The first resource with the name. -/
def Shader.resource? (shader : Shader) (name : Text) : Option Resource :=
  shader.resources.find? fun resource => resource.name = name

/-- The entry point of a shader of the kind. -/
def entryPoint (context : Context) (resources : List Resource) :
    ShaderKind → Check (Option EntryPoint)
  | .compute => do
      let entry ← computeEntry context
      pure (some (.compute entry))
  | .fragment => do
      let entry ← fragmentEntry context resources
      pure (some (.fragment entry))
  | .resource => .ok none

/-- Collects the resources of a source without comments; every kind or only the given one. -/
def sourceResources (context : Context) (kinds : List ResourceKind) :
    Journal Abort (List Resource) :=
  collectResources context kinds (declarations context.code)

/-- The journal of a computation without issues. -/
def Journal.withFaults {α : Type} (journal : Journal Abort α) : Journal Fault α :=
  ⟨journal.entries, journal.result.mapError .abort⟩

/-- Compiles a source; an issue that ends the compilation is not yet logged. -/
def compileSource (source : Text) (environment : Environment) (settings : Settings) :
    Journal Fault Shader := do
  let code := stripComments source
  let kind ← .ofExcept (shaderKind code)
  let context := Context.ofCode code environment settings
  let declared ← (sourceResources context ResourceKind.all).withFaults
  let (resources, collisions) := allocate declared
  .write (collisions.map Collision.entry)
  let entry ← .ofExcept (entryPoint context resources kind)
  let plain ← .ofExcept (emit code resources kind entry)
  pure { kind, entry, resources, code := plain, collisions }

/-- The heading of the message of a compilation that ended with an issue. -/
def compileHeading : Text :=
  "Shader parsing error: ".toList

/-- The message of a compilation that ended with an issue, at the place of the issue. -/
def compileError (cause : Located Issue) : Located Text where
  error := compileHeading ++ cause.error.message
  line := cause.line
  source := cause.source

/-- Compiles a source.  An issue that ends the compilation is logged last. -/
def compile (source : Text) (environment : Environment) (settings : Settings) :
    Journal Fault Shader :=
  let journal := compileSource source environment settings
  match journal.result with
  | .error (.issue cause) =>
      let entry : LogEntry :=
        { level := .error
          message := compileHeading ++ withLine cause.error.message cause.line }
      ⟨journal.entries ++ [entry], journal.result⟩
  | _ => journal

end ShaderMarkup
