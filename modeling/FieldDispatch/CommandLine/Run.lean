import FieldDispatch.CommandLine.Options
import FieldDispatch.Extension.Plan
import FieldDispatch.Json.Printer
import FieldDispatch.Manifest.Codec
import FieldDispatch.Settings.Discovery

/-!
Running the command line: read the descriptions, find the settings, plan, and report or write the
manifest. Errors end a run before anything is written; the one file that a run may write is
written last.

Two assumptions bound what an outcome says. The log is turned off: a run that keeps a log writes its
lines to the error stream as well, among them one for each member that the policy warns about, and
being quiet does not keep these back. And only the program's own words are given: the layout of the
help, the notice of a misuse and the details of malformed settings or descriptions come from the
readers of arguments, settings and JSON, and the texts here end where those would begin.
-/

namespace FieldDispatch.CommandLine

/-- How a run ends and what it prints, its log turned off. -/
structure Outcome where
  exitCode : UInt32
  output : String
  errors : String
  deriving DecidableEq, Inhabited

namespace Outcome

def success (output errors : String) : Outcome := ⟨0, output, errors⟩

def failure (errors : String) : Outcome := ⟨1, "", errors⟩

/-- The end of a run whose arguments are misused, without the notice of it. -/
def misuse : Outcome := ⟨2, "", ""⟩

end Outcome

def versionText : String := "fieldgenc " ++ Manifest.currentVersion ++ "\n"

/-- The usage in one line, in the place of the help. -/
def helpText : String :=
  "Usage: fieldgenc [-o <OUTPUT>] [--check] [-q] [--emit-manifest] [--unsupported <POLICY>] <INPUT>\n"

/-- A diagnostic of a file, with its suggestion on a line of its own. -/
def diagnosticText (fileName : String) (diagnostic : Diagnostic) : String :=
  fileName ++ ": " ++ diagnostic.text ++ "\n" ++
    ((diagnostic.suggestion.map fun suggestion => "  = help: " ++ suggestion ++ "\n").getD "")

def diagnosticsText (fileName : String) (diagnostics : List Diagnostic) : String :=
  String.join (diagnostics.map (diagnosticText fileName))

def unreadableText (path : String) (failure : FileFailure) : String :=
  s!"error: could not read '{path}': {failure.message}\n"

def unwritableText (path : String) (failure : FileFailure) : String :=
  s!"error: could not write '{path}': {failure.message}\n"

/-- The details of a malformed file are left out, and the end of the line with them. -/
def settingsErrorText : SettingsError → String
  | .malformed => "error: " ++ SettingsError.malformed.message
  | error => "error: " ++ error.message ++ "\n"

/-- What is wrong with the descriptions is left out, and the end of the line with it. -/
def invalidText (fileName : String) : String := s!"error: invalid descriptors in '{fileName}':"

def renderManifest (settings : Settings) (manifest : Manifest) : String :=
  if settings.pretty then manifest.toJson.pretty else manifest.toJson.compact

/-- The manifest goes beside the input unless another path is given. -/
def outputPath (input : String) (options : Options) : Path :=
  (options.output.map Path.ofText).getD ((Path.ofText input).withExtension "manifest.json")

def writtenText (input path : String) (manifest : Manifest) (rendered : String) : String :=
  s!"Compiled {input} -> {path} ({manifest.resolverCount} resolvers, {rendered.utf8ByteSize} bytes)\n"

variable {m : Type → Type} [Monad m] [FileSystem m]

/-- What a run does with extensions under the settings that are in force. Being quiet keeps back the
diagnostics of a run without errors. -/
def emit (input fileName : String) (options : Options) (settings : Settings)
    (extensions : List Extension) : m Outcome := do
  let (manifest, diagnostics) := Manifest.ofExtensions settings.policy extensions
  let reported := diagnosticsText fileName diagnostics
  if Diagnostic.hasErrors diagnostics then return .failure reported
  let warnings := if options.quiet then "" else reported
  if options.check then return .success "No errors found.\n" warnings
  let rendered := renderManifest settings manifest
  if options.emitManifest then return .success (rendered ++ "\n") warnings
  let path := outputPath input options
  match ← FileSystem.writeText path rendered with
  | .ok () => return .success (writtenText input path.text manifest rendered) warnings
  | .error failure => return ⟨1, "", warnings ++ unwritableText path.text failure⟩

/-- A policy on the command line goes before that of the settings file. -/
def inForce (options : Options) (settings : Settings) : Settings :=
  { settings with policy := options.policy.getD settings.policy }

def compile (input : String) (options : Options) : m Outcome := do
  let path := Path.ofText input
  match ← FileSystem.readText path with
  | .error failure => return .failure (unreadableText input failure)
  | .ok source =>
      let fileName := path.fileName?.getD ""
      match ← Settings.forInput ((← FileSystem.canonical? path).getD path) with
      | .error error => return .failure (settingsErrorText error)
      | .ok settings =>
          match Extension.readFile? source with
          | none => return .failure (invalidText fileName)
          | some extensions =>
              emit input fileName options (inForce options settings) extensions

def run (arguments : List String) : m Outcome :=
  match parse? arguments with
  | none => pure .misuse
  | some .version => pure (.success versionText "")
  | some .help => pure (.success helpText "")
  | some (.compile input options) => compile input options

end FieldDispatch.CommandLine
