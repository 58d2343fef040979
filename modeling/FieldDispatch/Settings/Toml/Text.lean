/-!
The characters of TOML text: spaces and comments, the four forms of strings, and keys. A reader
takes what it reads from the front of the text and gives the rest.
-/

namespace FieldDispatch.Toml

def isSpace (c : Char) : Bool := c = ' ' || c = '\t'

def skipSpace (cs : List Char) : List Char := cs.dropWhile isSpace

/-- No control character but the tab. -/
def isTextChar (c : Char) : Bool := c = '\t' || (0x20 ≤ c.toNat && c.toNat ≠ 0x7f)

def afterNewline? : List Char → Option (List Char)
  | '\n' :: rest => some rest
  | '\r' :: '\n' :: rest => some rest
  | _ => none

/-- Spaces, a comment and the end of the line or of the text. -/
def lineEnd? (cs : List Char) : Option (List Char) :=
  let rest :=
    match skipSpace cs with
    | '#' :: comment => comment.dropWhile isTextChar
    | rest => rest
  if rest.isEmpty then some [] else afterNewline? rest

/-- Drops spaces, comments and line ends, as between the items of an array. -/
def skipGap (inComment : Bool) : List Char → List Char
  | [] => []
  | '\n' :: rest => skipGap false rest
  | '\r' :: '\n' :: rest => skipGap false rest
  | c :: rest =>
      if inComment then if isTextChar c then skipGap true rest else c :: rest
      else if isSpace c then skipGap false rest
      else if c = '#' then skipGap true rest
      else c :: rest

def hexValue? (c : Char) : Option Nat :=
  if c.isDigit then some (c.toNat - '0'.toNat)
  else if 'a' ≤ c ∧ c ≤ 'f' then some (c.toNat - 'a'.toNat + 10)
  else if 'A' ≤ c ∧ c ≤ 'F' then some (c.toNat - 'A'.toNat + 10)
  else none

/-- The character with a code of so many hexadecimal digits. -/
def codedChar? (digits : Nat) (cs : List Char) : Option (Char × List Char) := do
  let written := cs.take digits
  if written.length = digits then
    let code ← written.foldlM (fun code c => (hexValue? c).map (code * 16 + ·)) 0
    if code.isValidChar then some (Char.ofNat code, cs.drop digits) else none
  else none

/-- The character of an escape, after its backslash. -/
def escaped? : List Char → Option (Char × List Char)
  | 'b' :: rest => some ('\x08', rest)
  | 't' :: rest => some ('\t', rest)
  | 'n' :: rest => some ('\n', rest)
  | 'f' :: rest => some ('\x0c', rest)
  | 'r' :: rest => some ('\r', rest)
  | '"' :: rest => some ('"', rest)
  | '\\' :: rest => some ('\\', rest)
  | 'u' :: rest => codedChar? 4 rest
  | 'U' :: rest => codedChar? 8 rest
  | _ => none

/-- A quoted string on one line, after its opening quote. -/
def quoted? : Nat → List Char → Option (List Char × List Char)
  | 0, _ => none
  | _ + 1, [] => none
  | _ + 1, '"' :: rest => some ([], rest)
  | fuel + 1, '\\' :: rest => do
      let (c, rest) ← escaped? rest
      let (cs, rest) ← quoted? fuel rest
      some (c :: cs, rest)
  | fuel + 1, c :: rest =>
      if isTextChar c then (quoted? fuel rest).map fun (cs, rest) => (c :: cs, rest) else none

/-- The closing quotes of a string over several lines; up to two more belong to the string. -/
def closing? (quote : Char) (cs : List Char) : Option (List Char × List Char) :=
  let run := (cs.takeWhile (· = quote)).length
  if run < 3 then none
  else
    let inside := min (run - 3) 2
    some (List.replicate inside quote, cs.drop (inside + 3))

/-- Drops spaces and line ends. -/
def skipBlanks : List Char → List Char
  | [] => []
  | '\n' :: rest => skipBlanks rest
  | '\r' :: '\n' :: rest => skipBlanks rest
  | c :: rest => if isSpace c then skipBlanks rest else c :: rest

/-- What follows a backslash at the end of a line: the rest of the line and all blank lines. -/
def continued? (cs : List Char) : Option (List Char) :=
  (afterNewline? (skipSpace cs)).map skipBlanks

/-- A quoted string over several lines. -/
def longQuoted? : Nat → List Char → Option (List Char × List Char)
  | 0, _ => none
  | _ + 1, [] => none
  | fuel + 1, c :: rest => do
      match closing? '"' (c :: rest), afterNewline? (c :: rest) with
      | some closed, _ => some closed
      | none, some rest => (longQuoted? fuel rest).map fun (cs, rest) => ('\n' :: cs, rest)
      | none, none =>
          if c = '\\' then
            match continued? rest with
            | some rest => longQuoted? fuel rest
            | none =>
                let (c, rest) ← escaped? rest
                let (cs, rest) ← longQuoted? fuel rest
                some (c :: cs, rest)
          else if isTextChar c then
            (longQuoted? fuel rest).map fun (cs, rest) => (c :: cs, rest)
          else none

/-- A literal string, after its opening quote. -/
def literal? (cs : List Char) : Option (List Char × List Char) :=
  match cs.span fun c => isTextChar c && c ≠ '\'' with
  | (text, '\'' :: rest) => some (text, rest)
  | _ => none

/-- A literal string over several lines. -/
def longLiteral? : Nat → List Char → Option (List Char × List Char)
  | 0, _ => none
  | _ + 1, [] => none
  | fuel + 1, c :: rest =>
      match closing? '\'' (c :: rest), afterNewline? (c :: rest) with
      | some closed, _ => some closed
      | none, some rest => (longLiteral? fuel rest).map fun (cs, rest) => ('\n' :: cs, rest)
      | none, none =>
          if isTextChar c then
            (longLiteral? fuel rest).map fun (cs, rest) => (c :: cs, rest)
          else none

def asText (reading : Option (List Char × List Char)) : Option (String × List Char) :=
  reading.map fun (cs, rest) => (String.ofList cs, rest)

/-- A string over several lines does not begin with the line end after its quotes. -/
def afterOpening (cs : List Char) : List Char := (afterNewline? cs).getD cs

def string? (fuel : Nat) : List Char → Option (String × List Char)
  | '"' :: '"' :: '"' :: rest => asText (longQuoted? fuel (afterOpening rest))
  | '"' :: rest => asText (quoted? fuel rest)
  | '\'' :: '\'' :: '\'' :: rest => asText (longLiteral? fuel (afterOpening rest))
  | '\'' :: rest => asText (literal? rest)
  | _ => none

def isBareChar (c : Char) : Bool := c.isAlphanum || c = '-' || c = '_'

def key? (fuel : Nat) : List Char → Option (String × List Char)
  | '"' :: rest => asText (quoted? fuel rest)
  | '\'' :: rest => asText (literal? rest)
  | cs =>
      match cs.span isBareChar with
      | ([], _) => none
      | (name, rest) => some (String.ofList name, rest)

/-- Keys with points between them. -/
def keys? : Nat → List Char → Option (List String × List Char)
  | 0, _ => none
  | fuel + 1, cs => do
      let (key, rest) ← key? fuel (skipSpace cs)
      match skipSpace rest with
      | '.' :: rest =>
          let (keys, rest) ← keys? fuel rest
          some (key :: keys, rest)
      | rest => some ([key], rest)

/-- Nothing is nested as deep as this: neither the keys of a path nor arrays and inline tables in
each other. -/
def nestingLimit : Nat := 80

def path? (fuel : Nat) (cs : List Char) : Option (List String × List Char) :=
  (keys? fuel cs).filter fun (keys, _) => keys.length < nestingLimit

end FieldDispatch.Toml
