import ShaderMarkup.Entry.Call
import ShaderMarkup.Resource.Context
import ShaderMarkup.Resource.Structure

/-!
# Compute entry points

`@compute(threads)` gives the number of threads along one to three axes, and `@workgroup_size`,
where present, the size of a workgroup along at most as many.  Axes that are not given count one.
-/

namespace ShaderMarkup

/-- The extent of a list of components, where missing ones are one. -/
def Extent.ofList (components : List Int) : Extent :=
  ⟨components.getD 0 1, components.getD 1 1, components.getD 2 1⟩

/-- The size of a workgroup where none is given. -/
def defaultWorkgroup (dimensions : Nat) : Extent :=
  match dimensions with
  | 1 => ⟨64, 1, 1⟩
  | 2 => ⟨8, 8, 1⟩
  | _ => ⟨4, 4, 4⟩

/-- The number of threads along each axis. -/
def threadCounts (context : Context) (compute : Decorator) : Check (List Int) :=
  if !compute.balanced || compute.trimmedArgument.isEmpty then refuse .missingThreadCount
  else do
    let counts ← context.evaluate (compute.argument.getD [])
    if 3 < counts.length then refuse (.tooManyThreadCounts counts.length)
    else counts.mapM (positiveInteger "Thread count".toList)

/-- The size of a workgroup, given along at most as many axes as the threads. -/
def workgroupSize (context : Context) (dimensions : Nat) (workgroup : Decorator) :
    Check Extent := do
  let sizes ← context.evaluate (workgroup.argument.getD [])
  if dimensions < sizes.length then refuse (.workgroupDimensions sizes.length dimensions)
  else
    let components ← sizes.mapM (positiveInteger "Workgroup size".toList)
    pure (Extent.ofList components)

/-- The compute entry point of a source. -/
def computeEntry (context : Context) : Check ComputeEntry :=
  match entryCall? context.code "compute" with
  | none => giveUp .noComputeEntry
  | some compute => do
      let counts ← blaming context.code compute (threadCounts context compute.value)
      let size ←
        match entryCall? context.code "workgroup_size" with
        | none => .ok (defaultWorkgroup counts.length)
        | some workgroup =>
            blaming context.code workgroup (workgroupSize context counts.length workgroup.value)
      pure ⟨counts.length, size, Extent.ofList counts⟩

end ShaderMarkup
