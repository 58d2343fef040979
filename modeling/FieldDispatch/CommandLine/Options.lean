import FieldDispatch.Extension.Policy

/-!
The options of the command line. Arguments are taken from left to right and the first mistake
ends the reading; a request for the version or for help before any mistake ends it as well. After
two dashes every argument is an input. A missing input is noticed only at the end.
-/

namespace FieldDispatch.CommandLine

structure Options where
  input : Option String
  output : Option String
  check : Bool
  quiet : Bool
  emitManifest : Bool
  policy : Option Policy
  deriving DecidableEq, Inhabited

def Options.none : Options := ⟨.none, .none, false, false, false, .none⟩

inductive Command where
  | compile (input : String) (options : Options)
  | version
  | help
  deriving DecidableEq, Inhabited

/-- A flag stands alone, an option takes a value, a notice ends the reading. -/
inductive Name where
  | check
  | quiet
  | emitManifest
  | output
  | policy
  | version
  | help
  deriving DecidableEq

def longName? : String → Option Name
  | "check" => some .check
  | "quiet" => some .quiet
  | "emit-manifest" => some .emitManifest
  | "output" => some .output
  | "unsupported" => some .policy
  | "version" => some .version
  | "help" => some .help
  | _ => none

def shortName? : Char → Option Name
  | 'q' => some .quiet
  | 'o' => some .output
  | 'V' => some .version
  | 'h' => some .help
  | _ => none

/-- How reading goes on after an argument. -/
inductive Reading where
  | more (options : Options)
  | awaiting (name : Name) (options : Options)
  | done (command : Command)
  | mistake

def setFlag : Name → Options → Reading
  | .check, options => if options.check then .mistake else .more { options with check := true }
  | .quiet, options => if options.quiet then .mistake else .more { options with quiet := true }
  | .emitManifest, options =>
      if options.emitManifest then .mistake else .more { options with emitManifest := true }
  | .output, options => .awaiting .output options
  | .policy, options => .awaiting .policy options
  | .version, _ => .done .version
  | .help, _ => .done .help

/-- Gives an option its value. No option may be given twice, and only options take values. -/
def setValue (value : String) : Name → Options → Reading
  | .output, options =>
      if options.output.isSome ∨ value = "" then .mistake
      else .more { options with output := some value }
  | .policy, options =>
      match options.policy, Policy.ofText? value with
      | Option.none, some policy => .more { options with policy := some policy }
      | _, _ => .mistake
  | _, _ => .mistake

def setInput (value : String) (options : Options) : Reading :=
  if options.input.isSome ∨ value = "" then .mistake
  else .more { options with input := some value }

/-- An argument after two dashes, with or without a value. -/
def readLong (body : List Char) (options : Options) : Reading :=
  match body.span (· ≠ '=') with
  | (name, rest) =>
      match longName? (String.ofList name), rest with
      | Option.none, _ => .mistake
      | some name, [] => setFlag name options
      | some name, _ :: value => setValue (String.ofList value) name options

/-- Letters after a dash: flags, and at the end perhaps an option with its value. -/
def readShort : List Char → Options → Reading
  | [], options => .more options
  | letter :: rest, options =>
      match shortName? letter with
      | Option.none => .mistake
      | some .output =>
          match rest with
          | [] => .awaiting .output options
          | '=' :: value => setValue (String.ofList value) .output options
          | value => setValue (String.ofList value) .output options
      | some name =>
          match setFlag name options with
          | .more options => readShort rest options
          | ended => ended

def readArgument (argument : String) (options : Options) : Reading :=
  match argument.toList with
  | '-' :: '-' :: body => readLong body options
  | '-' :: letter :: rest => readShort (letter :: rest) options
  | _ => setInput argument options

/-- A value may not look like an option; a single dash does not. -/
def isValue (argument : String) : Bool :=
  match argument.toList with
  | '-' :: _ :: _ => false
  | _ => true

def finish (options : Options) : Option Command :=
  options.input.map fun input => .compile input options

def readInputs (options : Options) : List String → Option Command
  | [] => finish options
  | argument :: rest =>
      match setInput argument options with
      | .more options => readInputs options rest
      | _ => Option.none

/-- Reads the remaining arguments, the first of them perhaps the value of an option. -/
def readFrom (state : Reading) : List String → Option Command
  | [] =>
      match state with
      | .more options => finish options
      | .awaiting _ _ => Option.none
      | .done command => some command
      | .mistake => Option.none
  | argument :: rest =>
      match state with
      | .more options =>
          if argument = "--" then readInputs options rest
          else readFrom (readArgument argument options) rest
      | .awaiting name options =>
          if isValue argument then readFrom (setValue argument name options) rest
          else Option.none
      | .done command => some command
      | .mistake => Option.none

/-- The command of a list of arguments, if they are used as they may be. -/
def parse? (arguments : List String) : Option Command :=
  readFrom (.more Options.none) arguments

end FieldDispatch.CommandLine
