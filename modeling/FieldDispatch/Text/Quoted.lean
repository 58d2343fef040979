import FieldDispatch.Text.Invisible

/-!
Quoted texts: double quotes around, and an escape for the double quote, the backslash, four
control characters with a letter of their own, and by code for every other invisible character. A
single quote stands as it is.
-/

namespace FieldDispatch.Text

def escapeChar (c : Char) : List Char :=
  if c = '"' then ['\\', '"']
  else if c = '\\' then ['\\', '\\']
  else if c = '\n' then ['\\', 'n']
  else if c = '\r' then ['\\', 'r']
  else if c = '\t' then ['\\', 't']
  else if c = '\x00' then ['\\', '0']
  else if isInvisible c then ['\\', 'u', '{'] ++ Nat.toDigits 16 c.toNat ++ ['}']
  else [c]

def quote (text : String) : String :=
  String.ofList ('"' :: text.toList.flatMap escapeChar ++ ['"'])

end FieldDispatch.Text
