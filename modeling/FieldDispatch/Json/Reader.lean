import FieldDispatch.Json.Numeral

/-!
Reading JSON text into a draft. The grammar is that of the standard: no byte order mark, no
comments, no trailing commas, nothing after the value. Whether a number or a string has a value,
and whether nesting is too deep, decides only between a leaf and a hole.
-/

namespace FieldDispatch.Json.Reader

/-- A value may stand inside this many arrays and objects, no more. -/
def nestingLimit : Nat := 127

def isSpace (c : Char) : Bool := c = ' ' || c = '\n' || c = '\t' || c = '\r'

def skipSpace (cs : List Char) : List Char := cs.dropWhile isSpace

def digitValue (c : Char) : Nat := c.toNat - '0'.toNat

/-- Splits off the leading digits. -/
def digits (cs : List Char) : List Nat × List Char :=
  ((cs.takeWhile Char.isDigit).map digitValue, cs.dropWhile Char.isDigit)

/-- Leading digits, at least one. -/
def digits? (cs : List Char) : Option (List Nat × List Char) :=
  match digits cs with
  | ([], _) => none
  | found => some found

def fraction? : List Char → Option (List Nat × List Char)
  | '.' :: rest => digits? rest
  | cs => some ([], cs)

def exponentDigits? : List Char → Option ((Bool × List Nat) × List Char)
  | '-' :: rest => (digits? rest).map fun (found, rest) => ((true, found), rest)
  | '+' :: rest => (digits? rest).map fun (found, rest) => ((false, found), rest)
  | cs => (digits? cs).map fun (found, rest) => ((false, found), rest)

def exponent? : List Char → Option (Option (Bool × List Nat) × List Char)
  | c :: rest =>
      if c = 'e' ∨ c = 'E' then (exponentDigits? rest).map fun (found, rest) => (some found, rest)
      else some (none, c :: rest)
  | [] => some (none, [])

/-- The whole part has no leading zero unless it is zero. -/
def unsigned? (negative : Bool) (cs : List Char) : Option (Numeral × List Char) := do
  let (whole, rest) ← digits? cs
  if whole.head? = some 0 ∧ whole.length ≠ 1 then none
  else do
    let (fraction, rest) ← fraction? rest
    let (exponent, rest) ← exponent? rest
    some (⟨negative, whole, fraction, exponent⟩, rest)

def numeral? : List Char → Option (Numeral × List Char)
  | '-' :: rest => unsigned? true rest
  | cs => unsigned? false cs

/-- A string as written: a character, or a code unit given by its number. -/
inductive Piece where
  | char (c : Char)
  | unit (code : Nat)

def hexValue? (c : Char) : Option Nat :=
  if c.isDigit then some (c.toNat - '0'.toNat)
  else if 'a' ≤ c ∧ c ≤ 'f' then some (c.toNat - 'a'.toNat + 10)
  else if 'A' ≤ c ∧ c ≤ 'F' then some (c.toNat - 'A'.toNat + 10)
  else none

def hexCode? (a b c d : Char) : Option Nat := do
  some (((← hexValue? a) * 16 + (← hexValue? b)) * 256 + (← hexValue? c) * 16 + (← hexValue? d))

def escaped? : Char → Option Char
  | '"' => some '"'
  | '\\' => some '\\'
  | '/' => some '/'
  | 'b' => some '\x08'
  | 'f' => some '\x0c'
  | 'n' => some '\n'
  | 'r' => some '\r'
  | 't' => some '\t'
  | _ => none

/-- Reads up to the closing quote. -/
def pieces? : List Char → Option (List Piece × List Char)
  | [] => none
  | '"' :: rest => some ([], rest)
  | '\\' :: 'u' :: a :: b :: c :: d :: rest =>
      match hexCode? a b c d, pieces? rest with
      | some code, some (found, rest) => some (.unit code :: found, rest)
      | _, _ => none
  | '\\' :: c :: rest =>
      match escaped? c, pieces? rest with
      | some c, some (found, rest) => some (.char c :: found, rest)
      | _, _ => none
  | c :: rest =>
      if c.toNat < 0x20 then none
      else (pieces? rest).map fun (found, rest) => (.char c :: found, rest)

def isHighUnit (code : Nat) : Bool := 0xd800 ≤ code && code < 0xdc00

def isLowUnit (code : Nat) : Bool := 0xdc00 ≤ code && code < 0xe000

/-- The characters of a string in which every surrogate has its partner. -/
def joinPieces? : List Piece → Option (List Char)
  | [] => some []
  | .char c :: rest => (joinPieces? rest).map (c :: ·)
  | .unit high :: .unit low :: rest =>
      if isHighUnit high then
        if isLowUnit low then
          (joinPieces? rest).map
            (Char.ofNat (0x10000 + (high - 0xd800) * 0x400 + (low - 0xdc00)) :: ·)
        else none
      else if isLowUnit high then none
      else (joinPieces? (.unit low :: rest)).map (Char.ofNat high :: ·)
  | .unit code :: rest =>
      if isHighUnit code || isLowUnit code then none
      else (joinPieces? rest).map (Char.ofNat code :: ·)

/-- A string after its opening quote; the text is absent if a surrogate stands alone. -/
def string? (cs : List Char) : Option (Option String × List Char) :=
  (pieces? cs).map fun (found, rest) => ((joinPieces? found).map String.ofList, rest)

def ofNumeral (n : Numeral) : Draft :=
  match n.value? with
  | some value => .number value
  | none => .hole

/-- An object whose keys all have a text. -/
def ofEntries (entries : List (Option String × Draft)) : Draft :=
  match entries.mapM fun (key, value) => key.map (·, value) with
  | some entries => .object entries
  | none => .hole

def within (depth : Nat) (draft : Draft) : Draft := if depth < nestingLimit then draft else .hole

/-- A key with the colon after it. -/
def entryKey? : List Char → Option (Option String × List Char)
  | '"' :: rest => do
      let (key, rest) ← string? rest
      match skipSpace rest with
      | ':' :: rest => some (key, rest)
      | _ => none
  | _ => none

mutual

/-- Reads a value that stands inside `depth` arrays and objects. -/
def value? : Nat → Nat → List Char → Option (Draft × List Char)
  | 0, _, _ => none
  | fuel + 1, depth, cs =>
      match skipSpace cs with
      | 'n' :: 'u' :: 'l' :: 'l' :: rest => some (.null, rest)
      | 't' :: 'r' :: 'u' :: 'e' :: rest => some (.bool true, rest)
      | 'f' :: 'a' :: 'l' :: 's' :: 'e' :: rest => some (.bool false, rest)
      | '"' :: rest =>
          (string? rest).map fun (text, rest) => ((text.map Draft.string).getD .hole, rest)
      | '[' :: rest =>
          match skipSpace rest with
          | ']' :: rest => some (within depth (.array []), rest)
          | rest =>
              (items? fuel (depth + 1) rest).map fun (found, rest) =>
                (within depth (.array found), rest)
      | '{' :: rest =>
          match skipSpace rest with
          | '}' :: rest => some (within depth (.object []), rest)
          | rest =>
              (entries? fuel (depth + 1) rest).map fun (found, rest) =>
                (within depth (ofEntries found), rest)
      | rest => (numeral? rest).map fun (found, rest) => (ofNumeral found, rest)

/-- Reads the items of an array that has one, and its closing bracket. -/
def items? : Nat → Nat → List Char → Option (List Draft × List Char)
  | 0, _, _ => none
  | fuel + 1, depth, cs => do
      let (item, rest) ← value? fuel depth cs
      match skipSpace rest with
      | ']' :: rest => some ([item], rest)
      | ',' :: rest =>
          let (items, rest) ← items? fuel depth rest
          some (item :: items, rest)
      | _ => none

/-- Reads the entries of an object that has one, and its closing brace. -/
def entries? : Nat → Nat → List Char → Option (List (Option String × Draft) × List Char)
  | 0, _, _ => none
  | fuel + 1, depth, cs => do
      let (key, rest) ← entryKey? (skipSpace cs)
      let (value, rest) ← value? fuel depth rest
      match skipSpace rest with
      | '}' :: rest => some ([(key, value)], rest)
      | ',' :: rest =>
          let (entries, rest) ← entries? fuel depth rest
          some ((key, value) :: entries, rest)
      | _ => none

end

/-- Every call but one per bracket consumes a character, so this much fuel is enough. -/
def enough (cs : List Char) : Nat := 2 * cs.length + 2

end Reader

def Draft.read? (text : String) : Option Draft :=
  let cs := text.toList
  match Reader.value? (Reader.enough cs) 0 cs with
  | some (draft, rest) => if (Reader.skipSpace rest).isEmpty then some draft else none
  | none => none

/-- The tree of a text of which every part has a value. -/
def read? (text : String) : Option Json :=
  (Draft.read? text).bind Draft.toJson?

end FieldDispatch.Json
