import FieldDispatch.CommandLine.Run

/-!
The command line program: the commands of `CommandLine` over the file system of the machine.
-/

namespace FieldDispatch

/-- The cause of a failed operation, for the causes that have a text of their own. The code of a
cause comes with either sign. -/
def FileFailure.ofError : IO.Error → FileFailure
  | .noFileOrDirectory _ _ _ => .missing
  | .inappropriateType path code details =>
      if code = 21 ∨ code = 0 - 21 then .isDirectory
      else if code = 20 ∨ code = 0 - 20 then .notDirectory
      else .other (toString (IO.Error.inappropriateType path code details))
  | .invalidArgument path code details =>
      if code = 36 ∨ code = 0 - 36 then .nameTooLong
      else .other (toString (IO.Error.invalidArgument path code details))
  | error => .other (toString error)

def readFileText (path : String) : IO (Except FileFailure String) := do
  try
    match String.fromUTF8? (← IO.FS.readBinFile path) with
    | some text => return .ok text
    | none => return .error .notText
  catch error => return .error (.ofError error)

def writeFileText (path text : String) : IO (Except FileFailure Unit) := do
  try
    IO.FS.writeBinFile path text.toUTF8
    return .ok ()
  catch error => return .error (.ofError error)

/-- Only a regular file can be read through. -/
def isReadableFile (path : String) : IO Bool := do
  try
    let _ ← IO.FS.readBinFile path
    return true
  catch _ => return false

def canonicalPath? (path : String) : IO (Option String) := do
  try return some (← IO.FS.realPath path).toString
  catch _ => return none

instance : FileSystem IO where
  readText path := readFileText path.text
  writeText path := writeFileText path.text
  isFile path := isReadableFile path.text
  canonical? path := do return (← canonicalPath? path.text).map Path.ofText

end FieldDispatch

def main (arguments : List String) : IO UInt32 := do
  let outcome ← FieldDispatch.CommandLine.run arguments
  (← IO.getStdout).putStr outcome.output
  (← IO.getStderr).putStr outcome.errors
  return outcome.exitCode
