import FieldDispatch.Dispatch.Dispatcher

/-!
Where dispatchers are registered: anything that has a type name and takes a node resolver and
fields, each of which it may refuse. `ObjectType` is one such thing. Registrations made before a
refusal stay.
-/

namespace FieldDispatch

/-- A descriptor of a type that dispatchers can be registered on. -/
class TypeRegistry (H : outParam Host) (D : Type) where
  typeName : D → String
  registerNode : Dispatcher H → D → Except RegistrationError Unit × D
  registerField : String → Dispatcher H → D → Except RegistrationError Unit × D

/-- A run of registrations, which may act on the world and may fail. -/
abbrev Registration (H : Host) (D α : Type) :=
  ExceptT RegistrationError (StateT D (Action H.Env)) α

namespace Registration

variable {H : Host} {D : Type}

/-- A run that is one operation of the descriptor. -/
def ofOperation (operation : D → Except RegistrationError Unit × D) : Registration H D Unit :=
  ExceptT.mk fun descriptor => pure (operation descriptor)

def ofAction {α : Type} (action : Action H.Env α) : Registration H D α :=
  ExceptT.mk fun descriptor => do return (.ok (← action), descriptor)

def run {α : Type} (registration : Registration H D α) (descriptor : D) :
    Action H.Env (Except RegistrationError α × D) :=
  StateT.run (ExceptT.run registration) descriptor

end Registration

/-- An object type. If its fields are declared, no other field can be registered. -/
structure ObjectType (H : Host) where
  name : String
  declared : Option (List String)
  node : Option (Dispatcher H)
  fields : OrderedMap (Dispatcher H)

namespace ObjectType

variable {H : Host}

def new (name : String) (declared : Option (List String)) : ObjectType H :=
  ⟨name, declared, none, .empty⟩

def isNode (type : ObjectType H) : Bool := type.node.isSome

def fieldNames (type : ObjectType H) : List String := type.fields.names

def field? (type : ObjectType H) (name : String) : Option (Dispatcher H) := type.fields.get? name

def declares (type : ObjectType H) (name : String) : Bool :=
  type.declared.all fun names => name ∈ names

def registerNode (dispatcher : Dispatcher H) (type : ObjectType H) :
    Except RegistrationError Unit × ObjectType H :=
  (.ok (), { type with node := some dispatcher })

def registerField (name : String) (dispatcher : Dispatcher H) (type : ObjectType H) :
    Except RegistrationError Unit × ObjectType H :=
  if type.declares name then
    (.ok (), { type with fields := type.fields.insert name dispatcher })
  else (.error (.unknownField type.name name), type)

instance : TypeRegistry H (ObjectType H) := ⟨name, registerNode, registerField⟩

/-- Resolves a registered field. -/
def resolve? (type : ObjectType H) (name : String) (context : FieldContext H) :
    Option (Action H.Env (Resolution H.Task)) :=
  (type.field? name).map fun dispatcher => dispatcher.call context

/-- Resolves a node through the registered node resolver. -/
def resolveNode? (type : ObjectType H) (context : FieldContext H) :
    Option (Action H.Env (Resolution H.Task)) :=
  type.node.map fun dispatcher => dispatcher.call context

end ObjectType

end FieldDispatch
