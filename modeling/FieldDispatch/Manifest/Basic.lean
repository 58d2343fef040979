import FieldDispatch.Resolver.Basic

/-!
The manifest: which dispatchers a compilation makes, how each binds its arguments, and in which
order they are registered. Node resolvers are not entries of a table and carry no id.
-/

namespace FieldDispatch.Manifest

structure Resolver where
  id : Option UInt32
  name : ResolverName
  kind : ResolverKind
  receiver : Receiver
  arguments : ArgumentPlan
  type : TypeText
  deriving DecidableEq, Inhabited

/-- A member without a dispatcher, and why. -/
structure Omitted where
  member : String
  reason : String
  deriving DecidableEq, Inhabited

/-- One step of a registration. -/
inductive Step where
  | node
  | field (name : String) (resolver : UInt32)
  | configure
  deriving DecidableEq, Inhabited

structure Entry where
  runtimeType : String
  extensionType : String
  nodeResolver : Option Resolver
  resolvers : List Resolver
  omitted : List Omitted
  steps : List Step
  deriving DecidableEq, Inhabited

end Manifest

structure Manifest where
  version : String
  extensions : List Manifest.Entry
  deriving DecidableEq, Inhabited

namespace Manifest

def currentVersion : String := "0.1.0"

def ofEntries (entries : List Entry) : Manifest := ⟨currentVersion, entries⟩

/-- The resolvers of all extensions, node resolvers apart. -/
def resolvers (manifest : Manifest) : List Resolver := manifest.extensions.flatMap Entry.resolvers

def resolverCount (manifest : Manifest) : Nat := manifest.resolvers.length

end Manifest

end FieldDispatch
