import FieldDispatch.FileSystem.Basic

/-!
A file system as a value: files and directories at absolute locations, without links. A path is
followed part by part from the current directory or from the root. A file can only be the last
part; what is missing can be created only where its directory exists.
-/

namespace FieldDispatch

/-- What a file holds: text, or bytes that are no text. -/
inductive FileContent where
  | text (text : String)
  | undecodable
  deriving DecidableEq, Inhabited

structure FileTree where
  files : List (List String × FileContent)
  directories : List (List String)
  deriving Inhabited

namespace FileTree

def empty : FileTree := ⟨[], []⟩

def content? (tree : FileTree) (location : List String) : Option FileContent :=
  (tree.files.find? fun file => file.1 = location).map Prod.snd

def isDirectory (tree : FileTree) (location : List String) : Bool :=
  location.isEmpty || tree.directories.contains location

def withDirectory (tree : FileTree) (location : List String) : FileTree :=
  if tree.isDirectory location then tree
  else { tree with directories := tree.directories ++ [location] }

/-- Makes a directory and those that it stands in. -/
def withDirectories (tree : FileTree) (location : List String) : FileTree :=
  (List.range (location.length + 1)).foldl
    (fun tree depth => tree.withDirectory (location.take depth)) tree

def writeFile (location : List String) (content : FileContent) :
    List (List String × FileContent) → List (List String × FileContent)
  | [] => [(location, content)]
  | (other, kept) :: rest =>
      if other = location then (location, content) :: rest
      else (other, kept) :: writeFile location content rest

def withFile (tree : FileTree) (location : List String) (content : FileContent) : FileTree :=
  { tree with files := writeFile location content tree.files }

/-- Where a path leads. -/
inductive Place where
  | directory (location : List String)
  | file (location : List String) (content : FileContent)
  | absent (location : List String)
  deriving DecidableEq

/-- The length of the longest name, in bytes. -/
def longestName : Nat := 255

/-- Follows the parts of a path from a directory. -/
def follow (tree : FileTree) (location : List String) :
    List String → Except FileFailure Place
  | [] => .ok (.directory location)
  | part :: rest =>
      if Path.isIdle part then follow tree location rest
      else if part = ".." then follow tree location.dropLast rest
      else if longestName < part.utf8ByteSize then .error .nameTooLong
      else
        let next := location ++ [part]
        if tree.isDirectory next then follow tree next rest
        else
          match tree.content? next with
          | some content => if rest.isEmpty then .ok (.file next content) else .error .notDirectory
          | none => if rest.isEmpty then .ok (.absent next) else .error .missing

end FileTree

/-- A file tree seen from a current directory. -/
structure FileView where
  tree : FileTree
  current : List String

namespace FileView

/-- Paths have fewer bytes than this. -/
def pathLimit : Nat := 4096

/-- Follows some parts of a path, if the path as a whole is in order. -/
def follow (view : FileView) (path : Path) (parts : List String) :
    Except FileFailure FileTree.Place :=
  if path.text = "" then .error .missing
  else if path.text.toList.contains '\x00' then .error .zeroCharacter
  else if pathLimit ≤ path.text.utf8ByteSize then .error .nameTooLong
  else view.tree.follow (if path.absolute then [] else view.current) parts

def locate (view : FileView) (path : Path) : Except FileFailure FileTree.Place :=
  view.follow path path.parts

def readText (view : FileView) (path : Path) : Except FileFailure String :=
  match view.locate path with
  | .error failure => .error failure
  | .ok (.file _ (.text text)) => .ok text
  | .ok (.file _ .undecodable) => .error .notText
  | .ok (.directory _) => .error .isDirectory
  | .ok (.absent _) => .error .missing

/-- Writing to a path that ends in a slash is refused as writing to a directory, whatever the path
leads to, once the directory that holds it is found. -/
def writeToDirectory (view : FileView) (path : Path) : FileFailure :=
  let parts := (path.parts.reverse.dropWhile (· = "")).reverse
  match view.follow path parts.dropLast with
  | .error failure => failure
  | .ok (.directory _) => .isDirectory
  | .ok (.file _ _) => .notDirectory
  | .ok (.absent _) => .missing

def writeText (view : FileView) (path : Path) (text : String) : Except FileFailure FileView :=
  if path.parts.getLast? = some "" then .error (view.writeToDirectory path)
  else
    match view.locate path with
    | .error failure => .error failure
    | .ok (.file location _) => .ok { view with tree := view.tree.withFile location (.text text) }
    | .ok (.absent location) => .ok { view with tree := view.tree.withFile location (.text text) }
    | .ok (.directory _) => .error .isDirectory

def isFile (view : FileView) (path : Path) : Bool :=
  match view.locate path with
  | .ok (.file _ _) => true
  | _ => false

def canonical? (view : FileView) (path : Path) : Option Path :=
  match view.locate path with
  | .ok (.file location _) => some ⟨true, location⟩
  | .ok (.directory location) => some ⟨true, location⟩
  | _ => none

instance : FileSystem (StateM FileView) where
  readText path := do return (← get).readText path
  writeText path text := do
    match (← get).writeText path text with
    | .ok view =>
        set view
        return .ok ()
    | .error failure => return .error failure
  isFile path := do return (← get).isFile path
  canonical? path := do return (← get).canonical? path

end FileView

end FieldDispatch
