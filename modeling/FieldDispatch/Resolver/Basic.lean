import FieldDispatch.Extension.Basic

/-!
What is known of a resolver before it runs: its name, how it produces a value, what it is invoked
on, and the slots through which its arguments are bound. The slots that `ArgumentPlan.ofParameters`
makes and those that `ArgumentPlan.ofSlots?` accepts are numbered by their positions.
-/

namespace FieldDispatch

/-- A field of a type, with the number of arguments its resolver binds. -/
structure ResolverName where
  typeName : String
  memberName : String
  argumentsCount : UInt64
  deriving DecidableEq, Inhabited

namespace ResolverName

def text (name : ResolverName) : String := name.typeName ++ "_" ++ name.memberName

/-- The order by type, then member, then number of arguments. -/
def le (a b : ResolverName) : Bool :=
  if a.typeName ≠ b.typeName then a.typeName < b.typeName
  else if a.memberName ≠ b.memberName then a.memberName < b.memberName
  else a.argumentsCount ≤ b.argumentsCount

def sort (names : List ResolverName) : List ResolverName := names.mergeSort le

end ResolverName

/-- How a resolver produces its value. -/
inductive ResolverKind where
  | sync
  | async
  | property
  deriving DecidableEq, Inhabited

def ResolverKind.text : ResolverKind → String
  | .sync => "sync"
  | .async => "async"
  | .property => "property"

/-- What a resolver is invoked on: nothing, or a parent of exactly one runtime type. -/
inductive Receiver where
  | static (declaringType : String)
  | parent (runtimeType : String)
  deriving DecidableEq, Inhabited

def Receiver.parentType? : Receiver → Option String
  | .static _ => none
  | .parent runtimeType => some runtimeType

/-- One place for an argument value. -/
structure Slot where
  index : UInt64
  name : String
  type : TypeText
  source : Source
  deriving DecidableEq, Inhabited

namespace Slot

def ofParameter (index : Nat) (parameter : Parameter) : Slot :=
  ⟨UInt64.ofNat index, parameter.name, parameter.type, parameter.source⟩

/-- The field argument that the slot reads, if it reads one. -/
def argumentName? (slot : Slot) : Option String :=
  match slot.source with
  | .argument name => some (name.getD slot.name)
  | _ => none

end Slot

structure ArgumentPlan where
  slots : List Slot
  deriving DecidableEq, Inhabited

namespace ArgumentPlan

def empty : ArgumentPlan := ⟨[]⟩

/-- Slot `i` of the list has index `first + i`. -/
def isNumberedFrom (first : Nat) : List Slot → Bool
  | [] => true
  | slot :: rest => slot.index = UInt64.ofNat first && isNumberedFrom (first + 1) rest

/-- Accepts slots that are numbered by their positions. -/
def ofSlots? (slots : List Slot) : Option ArgumentPlan :=
  if isNumberedFrom 0 slots then some ⟨slots⟩ else none

def slotsFrom (first : Nat) : List Parameter → List Slot
  | [] => []
  | parameter :: rest => Slot.ofParameter first parameter :: slotsFrom (first + 1) rest

/-- One slot for each parameter, in declared order. -/
def ofParameters (parameters : List Parameter) : ArgumentPlan := ⟨slotsFrom 0 parameters⟩

def length (plan : ArgumentPlan) : Nat := plan.slots.length

def isEmpty (plan : ArgumentPlan) : Bool := plan.slots.isEmpty

def get? (plan : ArgumentPlan) (index : Nat) : Option Slot := plan.slots[index]?

end ArgumentPlan

end FieldDispatch
