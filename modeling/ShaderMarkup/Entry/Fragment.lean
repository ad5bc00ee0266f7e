import ShaderMarkup.Entry.Call
import ShaderMarkup.Resource.Context
import ShaderMarkup.Resource.Structure

/-!
# Fragment entry points

`@fragment(name)` draws to a texture and `@fragment(@canvas(width, height))` to the canvas; a
`@canvas` without a size takes that of the viewport.  `@resolve(name)` names a second texture, for
resolved samples.  A texture that the shader reads cannot be drawn to.
-/

namespace ShaderMarkup

/-- One side of a canvas: its label and its value. -/
def canvasSide (most : Int) (label lower : String) (value : Number) : Check Int := do
  let length ← positiveInteger ("Canvas ".toList ++ lower.toList) value
  if most < length then refuse (.canvasTooLarge label.toList most length) else pure length

/-- The size of a canvas: two positive integers of at most `most`. -/
def canvasSize (most : Int) : List Number → Check (Int × Int)
  | [first, second] => do
      let width ← canvasSide most "Width" "width" first
      let height ← canvasSide most "Height" "height" second
      pure (width, height)
  | values => refuse (.canvasDimensions values)

/-- Names the canvas in the issue that a computation ends with. -/
def blamingCanvas {α : Type} : Check α → Check α
  | .error (.issue report) => refuse (.canvasParameters report.error)
  | check => check

/-- The size that a `@canvas` gives, or that of the viewport. -/
def canvasOf (context : Context) (canvas : Decorator) : Check (Int × Int) :=
  let most := context.settings.maxCanvasSize
  match canvas.argument with
  | some argument => blamingCanvas do
      let values ← context.evaluate argument
      canvasSize most values
  | none =>
      match context.settings.viewport with
      | none => refuse .noViewport
      | some (width, height) => canvasSize most [width, height]

/-- The `@canvas` that an argument starts with. -/
def leadingCanvas? (argument : Text) : Option Decorator :=
  match calls argument with
  | first :: _ =>
      if first.start = 0 ∧ first.value.name = "canvas".toList then some first.value else none
  | [] => none

/-- What `@fragment` draws to. -/
def fragmentTarget (context : Context) (fragment : Decorator) : Check FragmentEntry :=
  let argument := fragment.trimmedArgument
  match leadingCanvas? argument with
  | some canvas => do
      let size ← canvasOf context canvas
      pure { targetView := "canvas".toList, isCanvas := true, canvasSize := some size }
  | none =>
      match Reader.whole Reader.identifier argument with
      | some name => .ok { targetView := name }
      | none => refuse (.malformedFragmentTarget argument)

/-- Adds the target of a `@resolve` where there is one. -/
def addResolve (code : Text) (entry : FragmentEntry) : Check FragmentEntry :=
  match entryCall? code "resolve" with
  | none => .ok entry
  | some resolve =>
      let target := resolve.value.trimmedArgument
      match Reader.whole Reader.identifier target with
      | none => refuse (.malformedResolve target)
      | some name =>
          if entry.isCanvas then refuse .resolveWithCanvas
          else .ok { targetView := entry.targetView, resolveTarget := some name }

/-- Checks that the target is no resource that the shader uses. -/
def checkTarget (resources : List Resource) (target : Text) : Check Unit :=
  match resources.find? fun resource => resource.name = target && resource.usedInBody with
  | some resource => refuse (.targetInUse resource.name)
  | none => .ok ()

/-- The fragment entry point of a source. -/
def fragmentEntry (context : Context) (resources : List Resource) : Check FragmentEntry :=
  match entryCall? context.code "fragment" with
  | none => giveUp .noFragmentEntry
  | some fragment =>
      blaming context.code fragment do
        let target ← fragmentTarget context fragment.value
        let entry ← addResolve context.code target
        checkTarget resources entry.targetView
        pure entry

end ShaderMarkup
