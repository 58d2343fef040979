import FieldDispatch.Text.Blank

/-!
The text of a type: a name, or a list type in brackets, either with a trailing mark that excludes
null. A text is kept as it was written, blanks and mistakes included; only `isWellFormed` looks
past surrounding blanks, the other questions read the text as it stands.
-/

namespace FieldDispatch

structure TypeText where
  text : String
  deriving DecidableEq, Inhabited

namespace TypeText

def isNameChar (c : Char) : Bool := c.isAlphanum || c = '_' || c = '.'

/-- Drops one trailing mark. -/
def dropMark (cs : List Char) : List Char :=
  if cs.getLast? = some '!' then cs.dropLast else cs

/-- What a closing bracket at the end closes. -/
def closed? (cs : List Char) : Option (List Char) :=
  if cs.getLast? = some ']' then some cs.dropLast else none

def bracketed? : List Char → Option (List Char)
  | '[' :: rest => closed? rest
  | _ => none

theorem length_dropMark_le (cs : List Char) : (dropMark cs).length ≤ cs.length := by
  unfold dropMark
  split <;> simp

theorem length_closed?_le {cs item : List Char} (h : closed? cs = some item) :
    item.length ≤ cs.length := by
  unfold closed? at h
  split at h
  · cases h
    simp
  · cases h

/-- One mark at most at each level, matching brackets, and a name inside. -/
def checkChars (cs : List Char) : Bool :=
  match _h : dropMark cs with
  | '[' :: rest =>
      match _inner : closed? rest with
      | some item => checkChars item
      | none => false
  | name => !name.isEmpty && name.all isNameChar
termination_by cs.length
decreasing_by
  have shorter := length_dropMark_le cs
  have item := length_closed?_le _inner
  simp only [_h, List.length_cons] at shorter
  omega

def isWellFormed (type : TypeText) : Bool := checkChars (Text.trim type.text.toList)

def isNonNull (type : TypeText) : Bool := type.text.toList.getLast? = some '!'

/-- The type without its trailing mark. -/
def nullable (type : TypeText) : TypeText := ⟨String.ofList (dropMark type.text.toList)⟩

/-- The item type, if the type is a list with or without a mark. -/
def listItem? (type : TypeText) : Option TypeText :=
  (bracketed? (dropMark type.text.toList)).map fun item => ⟨String.ofList item⟩

def isDecoration (c : Char) : Bool := c = '[' || c = ']' || c = '!'

/-- The text without the brackets and marks around it. -/
def named (type : TypeText) : String :=
  String.ofList (Text.trimBoth isDecoration type.text.toList)

/-- The order of texts by code points, which is also that of their UTF-8 bytes. -/
def sort (types : List TypeText) : List TypeText := types.mergeSort fun a b => a.text ≤ b.text

end TypeText

end FieldDispatch
