import ShaderMarkup.Report.Journal
import ShaderMarkup.Resource.Basic
import ShaderMarkup.Text.Digits

/-!
# Allocating slots

A slot is a binding in a group.  Resources that name their binding keep it.  The others get, in the
order of their declarations, the least binding of their group that is neither named nor given away,
so a high binding that is named pushes nothing past it.

Two resources that name one slot collide.  A collision is reported and changes nothing.
-/

namespace ShaderMarkup

/-! ## Order -/

/-- Inserts an element in front of the first one that it need not follow. -/
def insertBy {α : Type} (before : α → α → Bool) (a : α) : List α → List α
  | [] => [a]
  | b :: rest => if before a b then a :: b :: rest else b :: insertBy before a rest

/-- Sorts a list; elements that need not follow one another keep their order. -/
def sortBy {α : Type} (before : α → α → Bool) : List α → List α
  | [] => []
  | a :: rest => insertBy before a (sortBy before rest)

/-- A binding in a group. -/
structure Slot where
  group : Int
  binding : Int
deriving DecidableEq

/-- The order of slots: by group, then by binding. -/
def Slot.atMost (a b : Slot) : Bool :=
  decide (a.group < b.group) || (a.group == b.group && decide (a.binding ≤ b.binding))

/-- The slot of a resource, where a missing binding counts as -1. -/
def Resource.slot (resource : Resource) : Slot :=
  ⟨resource.group, resource.bindingNumber⟩

/-! ## Assignment -/

/-- The least natural number that is not in the list.  One of the first `length + 1` is not. -/
def leastFree (taken : List Int) : Nat :=
  ((List.range (taken.length + 1)).find? fun (n : Nat) => (n : Int) ∉ taken).getD 0

/-- The bindings of a group among slots. -/
def bindingsIn (group : Int) (slots : List Slot) : List Int :=
  (slots.filter fun slot => slot.group = group).map (·.binding)

/-- The slots that resources name. -/
def namedSlots (resources : List Resource) : List Slot :=
  resources.filterMap fun resource => resource.binding.map fun binding => ⟨resource.group, binding⟩

/-- Gives every resource without a binding the least free one, in order. -/
def assign : List Slot → List Resource → List Resource
  | _, [] => []
  | taken, resource :: rest =>
      match resource.binding with
      | some _ => resource :: assign taken rest
      | none =>
          let binding : Int := leastFree (bindingsIn resource.group taken)
          { resource with binding := some binding }
            :: assign (⟨resource.group, binding⟩ :: taken) rest

/-- The resources in the order of their declarations, each with a binding. -/
def assigned (resources : List Resource) : List Resource :=
  assign (namedSlots resources)
    (sortBy (fun a b => decide (a.declarationIndex ≤ b.declarationIndex)) resources)

/-! ## Collisions -/

/-- Several resources in one slot. -/
structure Collision where
  slot : Slot
  names : List Text
deriving DecidableEq

/-- Adds a slot to a list of slots in increasing order, unless it is there. -/
def insertSlot (slot : Slot) : List Slot → List Slot
  | [] => [slot]
  | first :: rest =>
      if slot = first then first :: rest
      else if slot.atMost first then slot :: first :: rest
      else first :: insertSlot slot rest

/-- The slots that several resources hold, in increasing order, with the names of their holders. -/
def collisions (resources : List Resource) : List Collision :=
  ((resources.map Resource.slot).foldr insertSlot []).filterMap fun slot =>
    let names := (resources.filter fun resource => resource.slot = slot).map (·.name)
    if 1 < names.length then some ⟨slot, names⟩ else none

/-- The warning about a collision. -/
def Collision.entry (collision : Collision) : LogEntry where
  level := .warning
  message :=
    "Duplicate binding (".toList ++ Text.ofInt collision.slot.binding ++ ") in group ".toList
      ++ Text.ofInt collision.slot.group ++ ": ".toList ++ Text.listing collision.names

/-- The resources with their slots, in the order of the slots, and the collisions among them. -/
def allocate (resources : List Resource) : List Resource × List Collision :=
  let placed := assigned resources
  (sortBy (fun a b => a.slot.atMost b.slot) placed, collisions placed)

end ShaderMarkup
