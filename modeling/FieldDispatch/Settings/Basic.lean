import FieldDispatch.Extension.Policy
import FieldDispatch.Settings.Toml

/-!
The settings of a run and their text form. A settings file has two sections, each with one
setting; a section may also be an array of its settings or a table in braces. Nothing may be given
twice and nothing else may be given. A text that is wrong in form or in type is malformed,
whatever policy it names.
-/

namespace FieldDispatch

structure Settings where
  policy : Policy
  pretty : Bool
  /-- The directory of the file that the settings come from. -/
  root : Option String
  deriving DecidableEq, Inhabited

inductive SettingsError where
  | unreadable (reason : String)
  | malformed
  | unknownPolicy (name : String)
  deriving DecidableEq, Inhabited

/-- The text of an error; of a malformed file it gives no details. -/
def SettingsError.message : SettingsError → String
  | .unreadable reason => s!"failed to read Fieldgen.toml: {reason}"
  | .malformed => "invalid Fieldgen.toml:"
  | .unknownPolicy name =>
      s!"invalid Fieldgen.toml: unknown unsupported_members policy '{name}'"

namespace Settings

def default : Settings := ⟨.skip, true, none⟩

/-- How far a section is given: not at all, by some of its settings at the top, or as a whole. -/
inductive Presence where
  | absent
  | partly
  | wholly
  deriving DecidableEq

inductive Section where
  | top
  | compiler
  | output
  deriving DecidableEq

/-- What was read so far. -/
structure Reading where
  current : Section
  compiler : Presence
  output : Presence
  policy : Option String
  pretty : Option Bool

namespace Reading

def start : Reading := ⟨.top, .absent, .absent, none, none⟩

def setPolicy? (reading : Reading) : Toml.Value → Option Reading
  | .string name => if reading.policy.isNone then some { reading with policy := some name } else none
  | _ => none

def setPretty? (reading : Reading) : Toml.Value → Option Reading
  | .boolean value =>
      if reading.pretty.isNone then some { reading with pretty := some value } else none
  | _ => none

/-- A section as one value, its settings named or in order. -/
def setSection? (setting : String) (set? : Toml.Value → Option Reading) (reading : Reading) :
    Toml.Value → Option Reading
  | .array [] => some reading
  | .array (value :: _) => set? value
  | .table [] => some reading
  | .table [([name], value)] => if name = setting then set? value else none
  | _ => none

def step? (reading : Reading) : Toml.Statement → Option Reading
  | .heading ["compiler"] =>
      if reading.compiler = .absent then
        some { reading with current := .compiler, compiler := .wholly }
      else none
  | .heading ["output"] =>
      if reading.output = .absent then
        some { reading with current := .output, output := .wholly }
      else none
  | .heading _ => none
  | .listHeading _ => none
  | .assign path value =>
      match reading.current, path with
      | .top, ["compiler"] =>
          if reading.compiler = .absent then
            setSection? "unsupported_members" reading.setPolicy? reading value |>.map
              fun reading => { reading with compiler := .wholly }
          else none
      | .top, ["output"] =>
          if reading.output = .absent then
            setSection? "pretty" reading.setPretty? reading value |>.map
              fun reading => { reading with output := .wholly }
          else none
      | .top, ["compiler", "unsupported_members"] =>
          if reading.compiler = .wholly then none
          else { reading with compiler := .partly }.setPolicy? value
      | .top, ["output", "pretty"] =>
          if reading.output = .wholly then none
          else { reading with output := .partly }.setPretty? value
      | .compiler, ["unsupported_members"] => reading.setPolicy? value
      | .output, ["pretty"] => reading.setPretty? value
      | _, _ => none

/-- Settings that are not given have their default. -/
def finish (reading : Reading) (root : Option String) : Except SettingsError Settings :=
  let pretty := reading.pretty.getD default.pretty
  match reading.policy with
  | none => .ok ⟨default.policy, pretty, root⟩
  | some name =>
      match Policy.ofText? name with
      | some policy => .ok ⟨policy, pretty, root⟩
      | none => .error (.unknownPolicy name)

end Reading

/-- The settings of a text that was found in the directory `root`. -/
def parse (text : String) (root : Option String) : Except SettingsError Settings :=
  match (Toml.read? text).bind fun statements => statements.foldlM Reading.step? .start with
  | none => .error .malformed
  | some reading => reading.finish root

end Settings

end FieldDispatch
