/-!
Paths as texts and as the parts between their slashes. A path keeps its text: empty parts and
single dots lead nowhere, but they are dropped only where a path is cut short. Two dots are a part
like any other, whose meaning only a file system knows.
-/

namespace FieldDispatch

/-- The parts of an absolute path come after its first slash. -/
structure Path where
  absolute : Bool
  parts : List String
  deriving DecidableEq, Inhabited

namespace Path

/-- The parts between slashes, empty ones included. -/
def split (cs : List Char) : List String := (cs.splitOn '/').map String.ofList

def ofText (text : String) : Path :=
  match text.toList with
  | '/' :: rest => ⟨true, split rest⟩
  | cs => ⟨false, split cs⟩

def text (path : Path) : String :=
  (if path.absolute then "/" else "") ++ "/".intercalate path.parts

theorem intercalate_split (cs : List Char) : "/".intercalate (split cs) = String.ofList cs := by
  have unmapped : (split cs).map String.toList = cs.splitOn '/' := by
    simp [split, Function.comp_def]
  rw [← String.toList_inj, String.toList_intercalate, unmapped, String.toList_ofList (l := cs)]
  exact List.intercalate_splitOn '/'

/-- Reading a path loses nothing of its text. -/
@[simp]
theorem text_ofText (text : String) : (ofText text).text = text := by
  unfold ofText
  split
  · next rest starts =>
    rw [← String.toList_inj]
    simp [Path.text, intercalate_split, starts]
  · simp [Path.text, intercalate_split]

/-- An empty part or a single dot, which stays where it is. -/
def isIdle (part : String) : Bool := part = "" || part = "."

/-- Parts without the idle ones at their end. -/
def withoutIdleEnd (parts : List String) : List String := (parts.reverse.dropWhile isIdle).reverse

/-- The parts that remain when a path is cut short. A dot that a relative path begins with is not
idle: it stands for the directory that the path starts from. -/
def cut (absolute : Bool) : List String → List String
  | "." :: parts => if absolute then withoutIdleEnd ("." :: parts) else "." :: withoutIdleEnd parts
  | parts => withoutIdleEnd parts

theorem length_withoutIdleEnd_le (parts : List String) :
    (withoutIdleEnd parts).length ≤ parts.length := by
  simpa [withoutIdleEnd] using (List.dropWhile_sublist isIdle (l := parts.reverse)).length_le

theorem length_cut_le (absolute : Bool) (parts : List String) :
    (cut absolute parts).length ≤ parts.length := by
  unfold cut
  split
  · split
    · exact length_withoutIdleEnd_le _
    · simpa using length_withoutIdleEnd_le _
  · exact length_withoutIdleEnd_le _

/-- The directory that holds what a path leads to. The root and the empty path have none. -/
def parent? (path : Path) : Option Path :=
  match cut path.absolute path.parts with
  | [] => none
  | part :: parts =>
      some { path with parts := cut path.absolute (part :: parts).dropLast }

theorem length_parts_lt_of_parent? {path above : Path} (found : path.parent? = some above) :
    above.parts.length < path.parts.length := by
  have shorter := length_cut_le path.absolute path.parts
  unfold parent? at found
  split at found
  · contradiction
  · next part parts remain =>
      rw [remain] at shorter
      have again := length_cut_le path.absolute (part :: parts).dropLast
      cases found
      simp only [List.length_dropLast, List.length_cons] at shorter again ⊢
      omega

/-- A path and the directories above it, the nearest first. -/
def ancestors (path : Path) : List Path :=
  match _found : path.parent? with
  | none => [path]
  | some above => path :: ancestors above
termination_by path.parts.length
decreasing_by exact length_parts_lt_of_parent? _found

/-- What a second path leads to from the first one, if it is not absolute. -/
def join (path other : Path) : Path :=
  if other.absolute then other
  else if path.parts.getLast? = some "" then
    { path with parts := path.parts.dropLast ++ other.parts }
  else { path with parts := path.parts ++ other.parts }

def child (path : Path) (name : String) : Path := path.join ⟨false, [name]⟩

/-- The last part, unless it leads to a directory by dots alone. -/
def fileName? (path : Path) : Option String :=
  (cut path.absolute path.parts).getLast?.filter fun part => part ≠ ".." ∧ part ≠ "."

/-- A name up to its last dot. A name keeps a dot that it begins with. -/
def stem (name : String) : String :=
  match (name.toList.reverse.dropWhile (· ≠ '.')).drop 1 with
  | [] => name
  | before => String.ofList before.reverse

/-- Replaces the extension of a name, or gives it one. If two dots are all that is left of the
name without its extension, they lead upwards and take no other. -/
def renamed (name extension : String) : String :=
  if stem name = "." then ".." else stem name ++ "." ++ extension

/-- Replaces the extension of what a path leads to, or gives it one. -/
def withExtension (path : Path) (extension : String) : Path :=
  match path.fileName? with
  | none => path
  | some name =>
      { path with
        parts := (cut path.absolute path.parts).dropLast ++ [renamed name extension] }

end Path

end FieldDispatch
