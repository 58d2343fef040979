import FieldDispatch.Json.Basic
import FieldDispatch.Double.Shortest

/-!
Writing JSON trees, on one line or indented by two spaces a level. Strings escape the quote, the
backslash and the control characters below the space, and nothing else.
-/

namespace FieldDispatch.Json

namespace Printer

def hexDigits (n : Nat) : List Char :=
  let written := Nat.toDigits 16 n
  List.replicate (4 - written.length) '0' ++ written

def escapeChar (c : Char) : List Char :=
  if c = '"' then ['\\', '"']
  else if c = '\\' then ['\\', '\\']
  else if c = '\x08' then ['\\', 'b']
  else if c = '\t' then ['\\', 't']
  else if c = '\n' then ['\\', 'n']
  else if c = '\x0c' then ['\\', 'f']
  else if c = '\r' then ['\\', 'r']
  else if c.toNat < 0x20 then '\\' :: 'u' :: hexDigits c.toNat
  else [c]

def quote (text : String) : List Char :=
  '"' :: text.toList.flatMap escapeChar ++ ['"']

/-- Doubles keep a point or an exponent, so that they do not read back as integers. -/
def doubleLayout : Double.Layout := ⟨-5, 16⟩

def number : Number → List Char
  | .integer value => (toString value).toList
  | .double value =>
      if value.isNaN || value.isInfinite then "null".toList
      else (value.layOut doubleLayout).toList

def bool (value : Bool) : List Char := if value then "true".toList else "false".toList

mutual

def compact : Json → List Char
  | .null => "null".toList
  | .bool value => bool value
  | .number value => number value
  | .string value => quote value
  | .array [] => ['[', ']']
  | .array (item :: rest) => '[' :: (compact item ++ compactItems rest)
  | .object [] => ['{', '}']
  | .object ((key, value) :: rest) =>
      '{' :: (quote key ++ ':' :: (compact value ++ compactEntries rest))

/-- The items after the first, and the closing bracket. -/
def compactItems : List Json → List Char
  | [] => [']']
  | item :: rest => ',' :: (compact item ++ compactItems rest)

/-- The entries after the first, and the closing brace. -/
def compactEntries : List (String × Json) → List Char
  | [] => ['}']
  | (key, value) :: rest =>
      ',' :: (quote key ++ ':' :: (compact value ++ compactEntries rest))

end

def newLine (depth : Nat) : List Char := '\n' :: List.replicate (2 * depth) ' '

mutual

def pretty (depth : Nat) : Json → List Char
  | .null => "null".toList
  | .bool value => bool value
  | .number value => number value
  | .string value => quote value
  | .array [] => ['[', ']']
  | .array (item :: rest) =>
      '[' :: (newLine (depth + 1) ++ (pretty (depth + 1) item ++ prettyItems depth rest))
  | .object [] => ['{', '}']
  | .object ((key, value) :: rest) =>
      '{' :: (newLine (depth + 1) ++
        (quote key ++ ':' :: ' ' :: (pretty (depth + 1) value ++ prettyEntries depth rest)))

def prettyItems (depth : Nat) : List Json → List Char
  | [] => newLine depth ++ [']']
  | item :: rest =>
      ',' :: (newLine (depth + 1) ++ (pretty (depth + 1) item ++ prettyItems depth rest))

def prettyEntries (depth : Nat) : List (String × Json) → List Char
  | [] => newLine depth ++ ['}']
  | (key, value) :: rest =>
      ',' :: (newLine (depth + 1) ++
        (quote key ++ ':' :: ' ' :: (pretty (depth + 1) value ++ prettyEntries depth rest)))

end

end Printer

/-- The text of a tree on one line, without spaces. -/
def compact (tree : Json) : String := String.ofList (Printer.compact tree)

/-- The text of a tree with every item and entry on a line of its own. -/
def pretty (tree : Json) : String := String.ofList (Printer.pretty 0 tree)

end FieldDispatch.Json
