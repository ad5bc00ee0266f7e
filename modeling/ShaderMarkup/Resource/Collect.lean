import ShaderMarkup.Resource.Buffer
import ShaderMarkup.Resource.Reference
import ShaderMarkup.Resource.Sampler
import ShaderMarkup.Resource.Texture
import ShaderMarkup.Resource.Uniform

/-!
# Collecting resources

Every declaration yields its resource, or log entries that say what is wrong with it and quote it.
A declaration that is refused does not touch the others.
-/

namespace ShaderMarkup

/-- What is wrong with the structure of a declaration. -/
def Declaration.issues (declaration : Declaration) : List Issue :=
  let several :=
    if 1 < declaration.creators.length then [Issue.severalCreators declaration.creators] else []
  let ofKind :=
    match declaration.kind with
    | .texture => Texture.issues declaration.text
    | .buffer => Buffer.issues declaration.text
    | .uniform => Uniform.issues declaration.text
    | .sampler => Sampler.issues declaration.text
    | .reference => Reference.issues declaration.text
  several ++ bracketIssues declaration.text ++ orderIssues declaration.text ++ ofKind

/-- The resource of a declaration whose structure is sound. -/
def Declaration.build (context : Context) (declaration : Declaration) : Journal Fault Resource :=
  match declaration.kind with
  | .texture => .ofExcept (Texture.build context declaration)
  | .buffer => .ofExcept (Buffer.build context declaration)
  | .uniform => Uniform.build context declaration
  | .sampler => .ofExcept (Sampler.build context declaration)
  | .reference => .ofExcept (Reference.build context declaration)

/-- The log entries of a refused declaration: one for each issue, then the declaration itself. -/
def Declaration.refusal (declaration : Declaration) (issues : List Issue) : List LogEntry :=
  let entry issue : LogEntry :=
    { level := .error
      message :=
        declaration.kind.label.toList ++ " declaration #".toList ++ Text.ofNat declaration.index
          ++ " (line ".toList ++ Text.ofNat declaration.line ++ "): ".toList
          ++ Issue.message issue }
  issues.map entry
    ++ [{ level := .error, message := "Original declaration:\n".toList ++ declaration.text }]

/-- The resource of a declaration, or none with the log entries that say why. -/
def Declaration.resource? (context : Context) (declaration : Declaration) :
    Journal Abort (Option Resource) :=
  match declaration.issues with
  | [] =>
      let built := declaration.build context
      match built.result with
      | .ok resource => ⟨built.entries, .ok (some resource)⟩
      | .error (.issue report) =>
          ⟨built.entries ++ declaration.refusal [report.error], .ok none⟩
      | .error (.abort cause) => ⟨built.entries, .error cause⟩
  | issues => ⟨declaration.refusal issues, .ok none⟩

/-- The resources of declarations, in their order. -/
def resourcesOf (context : Context) : List Declaration → Journal Abort (List Resource)
  | [] => pure []
  | declaration :: rest => do
      let resource ← declaration.resource? context
      let others ← resourcesOf context rest
      pure (resource.toList ++ others)

/-- The resources of declarations, kind by kind and in source order within a kind. -/
def collectResources (context : Context) (kinds : List ResourceKind)
    (declared : List Declaration) : Journal Abort (List Resource) :=
  resourcesOf context <| kinds.flatMap fun kind =>
    declared.filter fun declaration => declaration.kind = kind

end ShaderMarkup
