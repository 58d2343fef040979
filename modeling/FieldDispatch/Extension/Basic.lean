import FieldDispatch.TypeText.Basic

/-!
The description of a type extension: which members it declares for a runtime type, what each
returns and where each parameter of a method comes from.
-/

namespace FieldDispatch

structure Location where
  file : String
  line : UInt32
  column : UInt32
  deriving DecidableEq, Inhabited

def Location.text (location : Location) : String :=
  s!"{location.file}:{location.line.toNat}:{location.column.toNat}"

/-- Where a parameter's value comes from. A field argument goes under the parameter's own name
unless it is given another. -/
inductive Source where
  | argument (name : Option String)
  | parent
  | state (key : String)
  deriving DecidableEq, Inhabited

structure Parameter where
  name : String
  type : TypeText
  source : Source
  deriving DecidableEq, Inhabited

namespace Parameter

def argument (name type : String) : Parameter := ⟨name, ⟨type⟩, .argument none⟩

def parent (name type : String) : Parameter := ⟨name, ⟨type⟩, .parent⟩

def state (name type key : String) : Parameter := ⟨name, ⟨type⟩, .state key⟩

/-- Takes the value from the field argument of the given name, whatever its source was. -/
def renamed (parameter : Parameter) (argument : String) : Parameter :=
  { parameter with source := .argument (some argument) }

end Parameter

/-- What a method returns. A future may have no result. -/
inductive Returns where
  | nothing
  | reference (type : TypeText)
  | future (type : Option TypeText)
  | value (type : TypeText)
  deriving DecidableEq, Inhabited

inductive Member.Shape where
  | method (returns : Returns) (parameters : List Parameter)
  | property (type : TypeText)
  deriving DecidableEq, Inhabited

structure Member where
  name : String
  isStatic : Bool
  shape : Member.Shape
  location : Option Location
  deriving DecidableEq, Inhabited

namespace Member

def method (name : String) (returns : Returns) : Member :=
  ⟨name, false, .method returns [], none⟩

def property (name type : String) : Member := ⟨name, false, .property ⟨type⟩, none⟩

def asStatic (member : Member) : Member := { member with isStatic := true }

/-- Declares one more parameter; a property takes none and stays as it is. -/
def withParameter (member : Member) (parameter : Parameter) : Member :=
  match member.shape with
  | .method returns parameters =>
      { member with shape := .method returns (parameters ++ [parameter]) }
  | .property _ => member

def locatedAt (member : Member) (location : Location) : Member :=
  { member with location := some location }

def isMethod (member : Member) : Bool :=
  match member.shape with
  | .method _ _ => true
  | .property _ => false

def parameters (member : Member) : List Parameter :=
  match member.shape with
  | .method _ parameters => parameters
  | .property _ => []

end Member

structure Extension where
  runtimeType : String
  extensionType : String
  nodeResolver : Option Member
  members : List Member
  deriving DecidableEq, Inhabited

namespace Extension

/-- A type that extends itself, so far with nothing. -/
def ofType (runtimeType : String) : Extension := ⟨runtimeType, runtimeType, none, []⟩

def extendedBy (extension : Extension) (extensionType : String) : Extension :=
  { extension with extensionType := extensionType }

def withNodeResolver (extension : Extension) (member : Member) : Extension :=
  { extension with nodeResolver := some member }

def withMember (extension : Extension) (member : Member) : Extension :=
  { extension with members := extension.members ++ [member] }

/-- The first declaration of a name. -/
def member? (extension : Extension) (name : String) : Option Member :=
  extension.members.find? fun member => member.name = name

end Extension

end FieldDispatch
