import FieldDispatch.Settings.Toml.Scalar

/-!
Reads TOML text into its statements: headings and assignments, in order. Whether the statements
fit together is for their reader to decide. Values that no setting can have are checked for their
form and then kept without content.
-/

namespace FieldDispatch.Toml

/-- Numbers, dates and times are all `other`. -/
inductive Value where
  | string (value : String)
  | boolean (value : Bool)
  | other
  | array (items : List Value)
  | table (entries : List (List String × Value))
  deriving Inhabited

inductive Statement where
  | heading (path : List String)
  | listHeading (path : List String)
  | assign (path : List String) (value : Value)
  deriving Inhabited

/-- No path leads to or through another one. -/
def areDistinct : List (List String) → Bool
  | [] => true
  | path :: rest =>
      rest.all (fun other => !path.isPrefixOf other && !other.isPrefixOf path) &&
        areDistinct rest

mutual

/-- A value, in which so many arrays and tables may still open inside each other. -/
def value? : Nat → Nat → List Char → Option (Value × List Char)
  | 0, _, _ => none
  | fuel + 1, room, cs =>
      match room, cs with
      | _, '"' :: _ => (string? fuel cs).map fun (text, rest) => (.string text, rest)
      | _, '\'' :: _ => (string? fuel cs).map fun (text, rest) => (.string text, rest)
      | _, 't' :: 'r' :: 'u' :: 'e' :: rest => some (.boolean true, rest)
      | _, 'f' :: 'a' :: 'l' :: 's' :: 'e' :: rest => some (.boolean false, rest)
      | 0, '[' :: _ => none
      | 0, '{' :: _ => none
      | room + 1, '[' :: rest =>
          (items? fuel room (skipGap false rest)).map fun (items, rest) => (.array items, rest)
      | room + 1, '{' :: rest =>
          match skipSpace rest with
          | '}' :: rest => some (.table [], rest)
          | rest => do
              let (entries, rest) ← entries? fuel room rest
              if areDistinct (entries.map Prod.fst) then some (.table entries, rest) else none
      | _, _ =>
          match afterMoment? cs with
          | some rest => some (.other, rest)
          | none => (afterNumber? cs).map (.other, ·)

/-- The items of an array and its closing bracket, which a comma may precede. -/
def items? : Nat → Nat → List Char → Option (List Value × List Char)
  | 0, _, _ => none
  | _ + 1, _, ']' :: rest => some ([], rest)
  | fuel + 1, room, cs => do
      let (item, rest) ← value? fuel room cs
      match skipGap false rest with
      | ']' :: rest => some ([item], rest)
      | ',' :: rest =>
          let (items, rest) ← items? fuel room (skipGap false rest)
          some (item :: items, rest)
      | _ => none

/-- The entries of a table in braces, all on one line, and the closing brace. -/
def entries? : Nat → Nat → List Char → Option ((List (List String × Value)) × List Char)
  | 0, _, _ => none
  | fuel + 1, room, cs => do
      let (entry, rest) ← assignment? fuel room cs
      match skipSpace rest with
      | '}' :: rest => some ([entry], rest)
      | ',' :: rest =>
          let (entries, rest) ← entries? fuel room rest
          some (entry :: entries, rest)
      | _ => none

def assignment? : Nat → Nat → List Char → Option ((List String × Value) × List Char)
  | 0, _, _ => none
  | fuel + 1, room, cs => do
      let (path, rest) ← path? fuel cs
      match rest with
      | '=' :: rest =>
          let (value, rest) ← value? fuel room (skipSpace rest)
          some ((path, value), rest)
      | _ => none

end

def statement? (fuel : Nat) : List Char → Option (Statement × List Char)
  | '[' :: '[' :: rest => do
      match ← path? fuel rest with
      | (path, ']' :: ']' :: rest) => some (.listHeading path, rest)
      | _ => none
  | '[' :: rest => do
      match ← path? fuel rest with
      | (path, ']' :: rest) => some (.heading path, rest)
      | _ => none
  | cs =>
      (assignment? fuel (nestingLimit - 1) cs).map fun ((path, value), rest) =>
        (.assign path value, rest)

/-- Statements and blank lines, to the end of the text. -/
def statements? : Nat → List Char → Option (List Statement)
  | 0, _ => none
  | fuel + 1, cs =>
      match skipSpace cs with
      | [] => some []
      | rest =>
          match lineEnd? rest with
          | some rest => statements? fuel rest
          | none => do
              let (statement, rest) ← statement? fuel rest
              let statements ← statements? fuel (← lineEnd? rest)
              some (statement :: statements)

/-- The statements of a text, which a byte order mark may precede. At most three calls in a row
consume no character, so this much fuel is enough. -/
def read? (text : String) : Option (List Statement) :=
  let cs := text.toList
  let body := if cs.head? = some '\ufeff' then cs.drop 1 else cs
  statements? (4 * body.length + 8) body

end FieldDispatch.Toml
