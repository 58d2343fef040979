import FieldDispatch.TypeText.Basic

/-!
Types as trees, and the text of each. A name holds letters, digits, underscores and points, and
at least one of them; a mark is a flag of its node, so no type carries two of them.
-/

namespace FieldDispatch

structure TypeName where
  chars : List Char
  nonempty : chars ≠ []
  valid : chars.all TypeText.isNameChar = true

def TypeName.text (name : TypeName) : String := String.ofList name.chars

inductive TypeTree where
  | named (name : TypeName) (nonNull : Bool)
  | list (item : TypeTree) (nonNull : Bool)

namespace TypeTree

def mark (nonNull : Bool) : List Char := if nonNull then ['!'] else []

@[simp]
theorem mark_false : mark false = [] := rfl

@[simp]
theorem mark_true : mark true = ['!'] := rfl

def chars : TypeTree → List Char
  | .named name nonNull => name.chars ++ mark nonNull
  | .list item nonNull => '[' :: (item.chars ++ ']' :: mark nonNull)

def text (tree : TypeTree) : TypeText := ⟨String.ofList tree.chars⟩

def isNonNull : TypeTree → Bool
  | .named _ nonNull => nonNull
  | .list _ nonNull => nonNull

def nullable : TypeTree → TypeTree
  | .named name _ => .named name false
  | .list item _ => .list item false

def listItem? : TypeTree → Option TypeTree
  | .named _ _ => none
  | .list item _ => some item

def innermost : TypeTree → TypeName
  | .named name _ => name
  | .list item _ => item.innermost

end TypeTree

end FieldDispatch
