import FieldDispatch.FileSystem.Path

/-!
What a program may ask of a file system, in any monad that can answer. A failure says what was
wrong and leaves everything as it was.
-/

namespace FieldDispatch

inductive FileFailure where
  | missing
  | notDirectory
  | isDirectory
  | notText
  | nameTooLong
  | zeroCharacter
  | other (message : String)
  deriving DecidableEq, Inhabited

def FileFailure.message : FileFailure → String
  | .missing => "No such file or directory (os error 2)"
  | .notDirectory => "Not a directory (os error 20)"
  | .isDirectory => "Is a directory (os error 21)"
  | .notText => "stream did not contain valid UTF-8"
  | .nameTooLong => "File name too long (os error 36)"
  | .zeroCharacter => "file name contained an unexpected NUL byte"
  | .other message => message

class FileSystem (m : Type → Type) where
  readText : Path → m (Except FileFailure String)
  writeText : Path → String → m (Except FileFailure Unit)
  /-- Whether a path leads to a regular file. -/
  isFile : Path → m Bool
  /-- The absolute path of what a path leads to, without dots in it. -/
  canonical? : Path → m (Option Path)

end FieldDispatch
