import ShaderMarkup.Decorator.Removal
import ShaderMarkup.Entry.Basic
import ShaderMarkup.Report.Fault
import ShaderMarkup.Resource.Sampler
import ShaderMarkup.Slot.Allocation
import ShaderMarkup.Source.Region
import ShaderMarkup.Source.Variable

/-!
# Emitting plain shader code

Sealed regions are copied.  In open regions the decorators that only describe resources are taken
out, the variables of resources get their slots, and the decorators of entry points take their
plain form.  White space is tidied: no blank lines, no trailing blanks, and no indentation in open
regions.
-/

namespace ShaderMarkup

/-! ## Decorators -/

/-- The decorators that mean nothing in plain shader code. -/
def markupDecorators : List Text :=
  ResourceKind.all.map ResourceKind.decoratorName
    ++ ["size".toList, "format".toList, "stride".toList, "canvas".toList, "resolve".toList]
    ++ SamplerParameter.all.map SamplerParameter.name

/-- Whether a decorator is taken out of a shader of the kind.  A compute shader gets its workgroup
size anew. -/
def isMarkup (kind : ShaderKind) (name : Text) : Bool :=
  Text.among markupDecorators name || (kind = .compute && name = "workgroup_size".toList)

/-- The workgroup size as a decorator, after a space. -/
def workgroupText (size : Extent) : Text :=
  " @workgroup_size(".toList
    ++ Text.listing [Text.ofInt size.x, Text.ofInt size.y, Text.ofInt size.z] ++ ")".toList

/-- The plain form of a decorator. -/
def plainDecorator (workgroup : Option Extent) (decorator : Decorator) (written : Text) : Text :=
  if decorator.argument.isNone then written
  else if decorator.name = "compute".toList then
    "@compute".toList ++ workgroup.elim [] workgroupText
  else if decorator.name = "fragment".toList then "@fragment".toList
  else written

/-- The text with the decorators of entry points in their plain form. -/
def plainEntries (workgroup : Option Extent) (text : Text) : Text :=
  (decoratorSegments text).flatMap fun segment =>
    match segment with
    | .plain c => [c]
    | .hit decorator written => plainDecorator workgroup decorator written

/-! ## Slots -/

/-- The slot of the resource with the name; of several the last counts. -/
def slotNamed? (resources : List Resource) (name : Text) : Option Slot :=
  (resources.reverse.find? fun resource => resource.name = name).map Resource.slot

/-- A slot as decorators, with a space behind each. -/
def slotText (slot : Slot) : Text :=
  "@group(".toList ++ Text.ofInt slot.group ++ ") @binding(".toList ++ Text.ofInt slot.binding
    ++ ") ".toList

/-- Puts the slot of a resource in front of its variable, in place of the slot that is written. -/
def bindVariable (slotOf : Text → Option Slot) (piece : Text) : Check Text :=
  match findVariable? namedVariable piece with
  | none => .ok piece
  | some declared =>
      if (slotOf declared.value).isNone then .ok piece
      else
        let bare := removeDecorators isSlotDecorator piece
        match findVariable? namedVariable bare with
        | none => giveUp .variableLost
        | some found =>
            match slotOf found.value with
            | none => giveUp (.slotUnknown found.value)
            | some slot => .ok (bare.take found.start ++ slotText slot ++ bare.drop found.start)

/-! ## Pieces -/

/-- The text cut behind every semicolon. -/
def semicolonPieces : Text → List Text
  | [] => [[]]
  | c :: rest =>
      if c = ';' then [c] :: semicolonPieces rest else Text.onFirst c (semicolonPieces rest)

@[simp] theorem flatten_semicolonPieces (text : Text) : (semicolonPieces text).flatten = text := by
  induction text with
  | nil => rfl
  | cons c rest ih =>
      rw [semicolonPieces]
      split <;> simp [ih]

/-- The plain form of a piece of an open region.  Of a piece with an unclosed decorator only the
white space in front is left. -/
def plainPiece (kind : ShaderKind) (workgroup : Option Extent) (slotOf : Text → Option Slot)
    (piece : Text) : Check Text :=
  if (calls piece).any fun call => !call.value.balanced then .ok (piece.takeWhile isBlank)
  else bindVariable slotOf (plainEntries workgroup (removeDecorators (isMarkup kind) piece))

/-! ## White space -/

/-- Spaces and tabs. -/
def isHorizontal (c : Char) : Bool :=
  c == ' ' || c == '\t'

/-- One space in place of every run of spaces and tabs. -/
def squeeze : Text → Text
  | [] => []
  | c :: rest =>
      if isHorizontal c then
        if rest.head?.any isHorizontal then squeeze rest else ' ' :: squeeze rest
      else c :: squeeze rest

/-- The lines without indentation; the first keeps its own unless a line starts with it. -/
def unindent (atLineStart : Bool) (text : Text) : Text :=
  match Text.lines text with
  | [] => []
  | first :: rest =>
      Text.unlines ((if atLineStart then Text.trimLeft first else first)
        :: rest.map Text.trimLeft)

/-- The lines that hold more than white space, without the white space at their ends. -/
def tidyLines (text : Text) : Text :=
  Text.unlines (((Text.lines text).map Text.trimRight).filter fun line => !line.isEmpty)

/-! ## Whole sources -/

/-- The plain form of an open region. -/
def plainOpen (kind : ShaderKind) (workgroup : Option Extent) (slotOf : Text → Option Slot)
    (atLineStart : Bool) (text : Text) : Check Text := do
  let pieces ← (semicolonPieces text).mapM (plainPiece kind workgroup slotOf)
  pure (unindent atLineStart (squeeze pieces.flatten))

/-- The plain forms of regions, one after the other; `before` is the text of the last one, if there
is one. -/
def plainRegions (kind : ShaderKind) (workgroup : Option Extent)
    (slotOf : Text → Option Slot) : Option Text → List Region → Check (List Text)
  | _, [] => .ok []
  | before, region :: rest => do
      let atLineStart := before.all fun text => text.getLast? = some '\n'
      let text ←
        if region.isSealed then .ok region.text
        else plainOpen kind workgroup slotOf atLineStart region.text
      let others ← plainRegions kind workgroup slotOf (some text) rest
      pure (text :: others)

/-- The workgroup size of an entry point. -/
def EntryPoint.workgroup? : EntryPoint → Option Extent
  | .compute entry => some entry.workgroupSize
  | .fragment _ => none

/-- Plain shader code from source without comments. -/
def emit (code : Text) (resources : List Resource) (kind : ShaderKind)
    (entry : Option EntryPoint) : Check Text := do
  let workgroup := entry.bind EntryPoint.workgroup?
  let texts ← plainRegions kind workgroup (slotNamed? resources) none (regions code)
  pure (tidyLines texts.flatten)

end ShaderMarkup
