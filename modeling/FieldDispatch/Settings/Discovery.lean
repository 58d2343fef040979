import FieldDispatch.FileSystem.Basic
import FieldDispatch.Settings.Basic

/-!
Finding the settings of an input: the nearest settings file among the directory of the input and
the directories above it. Only a regular file counts, and the nearest one decides alone: if it
cannot be read or is malformed, that is the answer.
-/

namespace FieldDispatch.Settings

variable {m : Type → Type} [Monad m] [FileSystem m]

def fileName : String := "Fieldgen.toml"

/-- The first of some directories that holds a settings file. -/
def findIn? : List Path → m (Option Path)
  | [] => pure none
  | directory :: rest => do
      if ← FileSystem.isFile (directory.child fileName) then return some directory
      findIn? rest

/-- The nearest directory with a settings file. -/
def find? (directory : Path) : m (Option Path) := findIn? directory.ancestors

/-- The directory that holds what a path leads to; for a path without one, the current one. -/
def directoryOf (path : Path) : Path := path.parent?.getD ⟨false, ["."]⟩

/-- The settings of the file at a path, whatever its name. -/
def load (path : Path) : m (Except SettingsError Settings) := do
  match ← FileSystem.readText path with
  | .error failure => return .error (.unreadable failure.message)
  | .ok text => return parse text (some (directoryOf path).text)

/-- The settings for an input; without a settings file, the defaults. -/
def forInput (input : Path) : m (Except SettingsError Settings) := do
  match ← find? (directoryOf input) with
  | none => return .ok default
  | some directory => load (directory.child fileName)

end FieldDispatch.Settings
