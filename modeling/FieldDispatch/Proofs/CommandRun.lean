import FieldDispatch.CommandLine.Run
import FieldDispatch.Proofs.FileView

/-!
One run of the command line over a file view. Everything is read first, in the same way whatever
output is asked for; then the descriptions are planned, and then the run ends in one of five ways.
Only the last of them writes, and it writes one file.
-/

namespace FieldDispatch

namespace FileView

/-- The settings file for an input: the nearest one among the directories above it. -/
def settingsFile? (view : FileView) (input : Path) : Option Path :=
  ((Settings.directoryOf input).ancestors.find? fun directory =>
    view.isFile (directory.child Settings.fileName)).map fun directory =>
      directory.child Settings.fileName

def loadSettings (view : FileView) (path : Path) : Except SettingsError Settings :=
  match view.readText path with
  | .error failure => .error (.unreadable failure.message)
  | .ok text => Settings.parse text (some (Settings.directoryOf path).text)

/-- The settings for an input; without a settings file, the defaults. -/
def settingsFor (view : FileView) (input : Path) : Except SettingsError Settings :=
  match view.settingsFile? input with
  | none => .ok .default
  | some path => view.loadSettings path

/-- The absolute path of what a path leads to, or the path itself if it leads nowhere. -/
def realPath (view : FileView) (path : Path) : Path := (view.canonical? path).getD path

theorem SameShape.realPath_eq {first second : FileView} (shape : SameShape first second)
    (path : Path) : first.realPath path = second.realPath path := by
  rw [realPath, realPath, shape.canonical?_eq]

theorem SameShape.settingsFile?_eq {first second : FileView} (shape : SameShape first second)
    (input : Path) : first.settingsFile? input = second.settingsFile? input := by
  simp only [settingsFile?, shape.isFile_eq]

section

variable (view : FileView) (path : Path)

@[simp]
theorem run_readText :
    (FileSystem.readText path : StateM FileView _).run view = pure (view.readText path, view) := rfl

@[simp]
theorem run_isFile :
    (FileSystem.isFile path : StateM FileView _).run view = pure (view.isFile path, view) := rfl

@[simp]
theorem run_canonical? :
    (FileSystem.canonical? path : StateM FileView _).run view =
      pure (view.canonical? path, view) := rfl

theorem run_writeText (text : String) :
    (FileSystem.writeText path text : StateM FileView _).run view =
      match view.target path with
      | .ok location => pure (.ok (), view.withText location text)
      | .error failure => pure (.error failure, view) := by
  have written := view.writeText_eq path text
  cases place : view.target path with
  | ok location =>
      rw [place] at written
      simp [FileSystem.writeText, written, Except.map]
  | error failure =>
      rw [place] at written
      simp [FileSystem.writeText, written, Except.map]

end

theorem run_findIn? (view : FileView) (directories : List Path) :
    (Settings.findIn? directories : StateM FileView (Option Path)).run view =
      pure (directories.find? fun directory => view.isFile (directory.child Settings.fileName),
        view) := by
  induction directories with
  | nil => rfl
  | cons directory rest induction =>
      cases present : view.isFile (directory.child Settings.fileName) with
      | true => simp [Settings.findIn?, present]
      | false => simp [Settings.findIn?, present, induction]

theorem run_load (view : FileView) (path : Path) :
    (Settings.load path : StateM FileView (Except SettingsError Settings)).run view =
      pure (view.loadSettings path, view) := by
  unfold Settings.load loadSettings
  cases read : view.readText path <;> simp [read]

theorem run_forInput (view : FileView) (input : Path) :
    (Settings.forInput input : StateM FileView (Except SettingsError Settings)).run view =
      pure (view.settingsFor input, view) := by
  unfold Settings.forInput Settings.find? settingsFor settingsFile?
  cases found : (Settings.directoryOf input).ancestors.find? fun directory =>
      view.isFile (directory.child Settings.fileName) with
  | none => simp [run_findIn?, found]
  | some directory => simp [run_findIn?, run_load, found]

end FileView

namespace CommandLine

/-- How a run over a view ends, and the view that it leaves. -/
def runOn (view : FileView) (arguments : List String) : Outcome × FileView :=
  ((run arguments : StateM FileView Outcome).run view).run

/-- The name that diagnostics are reported under. -/
def reportedName (input : String) : String := (Path.ofText input).fileName?.getD ""

/-- The settings and the extensions that a run finds, or the text of what stops it. -/
def prepare (view : FileView) (input : String) : Except String (Settings × List Extension) :=
  match view.readText (Path.ofText input) with
  | .error failure => .error (unreadableText input failure)
  | .ok source =>
      match view.settingsFor (view.realPath (Path.ofText input)) with
      | .error error => .error (settingsErrorText error)
      | .ok settings =>
          match Extension.readFile? source with
          | none => .error (invalidText (reportedName input))
          | some extensions => .ok (settings, extensions)

theorem prepare_eq {view : FileView} {input source : String} {settings : Settings}
    {extensions : List Extension} (readable : view.readText (Path.ofText input) = .ok source)
    (loaded : view.settingsFor (view.realPath (Path.ofText input)) = .ok settings)
    (decoded : Extension.readFile? source = some extensions) :
    prepare view input = .ok (settings, extensions) := by
  simp [prepare, readable, loaded, decoded]

theorem locate_of_prepare {view : FileView} {input : String}
    {ready : Settings × List Extension} (prepared : prepare view input = .ok ready) :
    ∃ own content, view.locate (Path.ofText input) = .ok (.file own content) := by
  unfold prepare at prepared
  split at prepared
  · contradiction
  · next source read =>
      obtain ⟨own, found⟩ := FileView.readText_eq_ok_iff.mp read
      exact ⟨own, _, found⟩

/-- What a run does once it is prepared. -/
def emitOn (view : FileView) (input : String) (options : Options) (settings : Settings)
    (extensions : List Extension) : Outcome × FileView :=
  ((emit input (reportedName input) options settings extensions : StateM FileView Outcome).run
    view).run

theorem runOn_compile {view : FileView} {arguments : List String} {input : String}
    {options : Options} (parsed : parse? arguments = some (.compile input options)) :
    runOn view arguments =
      match prepare view input with
      | .error text => (.failure text, view)
      | .ok (settings, extensions) =>
          emitOn view input options (inForce options settings) extensions := by
  unfold runOn run
  rw [parsed]
  unfold compile prepare FileView.realPath
  cases read : view.readText (Path.ofText input) with
  | error failure =>
      simp [read]
  | ok source =>
      cases loaded : view.settingsFor ((view.canonical? (Path.ofText input)).getD
          (Path.ofText input)) with
      | error error =>
          simp [read, FileView.run_forInput, loaded]
      | ok settings =>
          cases decoded : Extension.readFile? source with
          | none =>
              simp [reportedName, read, FileView.run_forInput, loaded, decoded]
          | some extensions =>
              simp [emitOn, reportedName, read, FileView.run_forInput, loaded, decoded]

theorem runOn_prepared {view : FileView} {arguments : List String} {input : String}
    {options : Options} (parsed : parse? arguments = some (.compile input options))
    {settings : Settings} {extensions : List Extension}
    (prepared : prepare view input = .ok (settings, extensions)) :
    runOn view arguments = emitOn view input options (inForce options settings) extensions := by
  rw [runOn_compile parsed, prepared]

/-- The diagnostics that a run without errors prints. -/
def warningsText (input : String) (options : Options) (diagnostics : List Diagnostic) : String :=
  if options.quiet then "" else diagnosticsText (reportedName input) diagnostics

/-! What is printed of diagnostics. -/

/-- The text of a part that may be missing. -/
inductive Part {α : Type} (write : α → String) : Option α → String → Prop where
  | missing : Part write none ""
  | given (value : α) : Part write (some value) (write value)

/-- A text that reports diagnostics in their order. Each begins with the name of the file and says
how severe it is and what is wrong; then come, as far as they are known, the member, the location
and what may help. -/
inductive Reports (fileName : String) : List Diagnostic → String → Prop where
  | nil : Reports fileName [] ""
  | cons {diagnostic : Diagnostic} {rest : List Diagnostic} {subject place help text : String}
      (about : Part (fun subject => " [" ++ subject.typeName ++ "." ++ subject.memberName ++ "]")
        diagnostic.subject subject)
      (stands : Part (fun location => "\n  --> " ++ location.text) diagnostic.location place)
      (helped : Part (fun suggestion => "  = help: " ++ suggestion ++ "\n")
        diagnostic.suggestion help)
      (later : Reports fileName rest text) :
      Reports fileName (diagnostic :: rest)
        (fileName ++ ": " ++ diagnostic.severity.text ++ ": " ++ diagnostic.message ++ subject ++
          place ++ "\n" ++ help ++ text)

theorem part_iff {α : Type} (write : α → String) (part : Option α) (text : String) :
    Part write part text ↔ text = (part.map write).getD "" := by
  constructor
  · intro told
    cases told <;> rfl
  · rintro rfl
    cases part with
    | none => exact .missing
    | some value => exact .given value

theorem reports_cons_iff (fileName : String) (diagnostic : Diagnostic) (rest : List Diagnostic)
    (text : String) :
    Reports fileName (diagnostic :: rest) text ↔
      ∃ later, Reports fileName rest later ∧
        text = diagnosticText fileName diagnostic ++ later := by
  have written (subject place help later : String)
      (about : subject = (diagnostic.subject.map Diagnostic.subjectText).getD "")
      (stands : place = (diagnostic.location.map fun location =>
        "\n  --> " ++ location.text).getD "")
      (helped : help = (diagnostic.suggestion.map fun suggestion =>
        "  = help: " ++ suggestion ++ "\n").getD "") :
      fileName ++ ": " ++ diagnostic.severity.text ++ ": " ++ diagnostic.message ++ subject ++
          place ++ "\n" ++ help ++ later = diagnosticText fileName diagnostic ++ later := by
    simp only [diagnosticText, Diagnostic.text, about, stands, helped, String.append_assoc]
  constructor
  · rintro (_ | ⟨about, stands, helped, later⟩)
    exact ⟨_, later, written _ _ _ _ ((part_iff _ _ _).mp about) ((part_iff _ _ _).mp stands)
      ((part_iff _ _ _).mp helped)⟩
  · rintro ⟨later, reports, rfl⟩
    rw [← written _ _ _ later rfl rfl rfl]
    exact .cons ((part_iff _ _ _).mpr rfl) ((part_iff _ _ _).mpr rfl) ((part_iff _ _ _).mpr rfl)
      reports

/-- Diagnostics are reported by the text that a run prints of them, and by no other. -/
theorem reports_iff (fileName : String) (diagnostics : List Diagnostic) (text : String) :
    Reports fileName diagnostics text ↔ text = diagnosticsText fileName diagnostics := by
  induction diagnostics generalizing text with
  | nil =>
      constructor
      · rintro ⟨⟩
        rfl
      · rintro rfl
        exact .nil
  | cons diagnostic rest induction =>
      rw [reports_cons_iff, diagnosticsText, List.map_cons, String.join_cons]
      simp only [induction, exists_eq_left]
      rfl

/-! The five ways in which a prepared run ends. -/

section

variable {view : FileView} {input : String} {options : Options} {settings : Settings}
  {extensions : List Extension} {manifest : Manifest} {diagnostics : List Diagnostic}
  (planned : Manifest.ofExtensions settings.policy extensions = (manifest, diagnostics))

include planned

theorem emitOn_of_errors (faulty : Diagnostic.hasErrors diagnostics = true) :
    emitOn view input options settings extensions =
      (.failure (diagnosticsText (reportedName input) diagnostics), view) := by
  unfold emitOn emit
  simp [planned, faulty]

variable (clean : Diagnostic.hasErrors diagnostics = false)

include clean

theorem emitOn_of_check (check : options.check = true) :
    emitOn view input options settings extensions =
      (.success "No errors found.\n" (warningsText input options diagnostics), view) := by
  unfold emitOn emit
  simp [warningsText, planned, clean, check]

variable (unchecked : options.check = false)

include unchecked

theorem emitOn_of_emitManifest (asked : options.emitManifest = true) :
    emitOn view input options settings extensions =
      (.success (renderManifest settings manifest ++ "\n")
        (warningsText input options diagnostics), view) := by
  unfold emitOn emit
  simp [warningsText, planned, clean, unchecked, asked]

variable (unasked : options.emitManifest = false)

include unasked

theorem emitOn_of_target {location : List String}
    (writable : view.target (outputPath input options) = .ok location) :
    emitOn view input options settings extensions =
      (.success
        (writtenText input (outputPath input options).text manifest
          (renderManifest settings manifest))
        (warningsText input options diagnostics),
        view.withText location (renderManifest settings manifest)) := by
  unfold emitOn emit
  simp [warningsText, planned, clean, unchecked, unasked, FileView.run_writeText, writable]

theorem emitOn_of_refusal {failure : FileFailure}
    (refused : view.target (outputPath input options) = .error failure) :
    emitOn view input options settings extensions =
      (⟨1, "", warningsText input options diagnostics ++
        unwritableText (outputPath input options).text failure⟩, view) := by
  unfold emitOn emit
  simp [warningsText, planned, clean, unchecked, unasked, FileView.run_writeText, refused]

end

/-- How a prepared run ends, with what decides it. -/
inductive Emits (view : FileView) (input : String) (options : Options) (settings : Settings)
    (manifest : Manifest) (diagnostics : List Diagnostic) : Outcome × FileView → Prop where
  | faulty (errors : Diagnostic.hasErrors diagnostics = true) :
      Emits view input options settings manifest diagnostics
        (.failure (diagnosticsText (reportedName input) diagnostics), view)
  | checked (clean : Diagnostic.hasErrors diagnostics = false) (check : options.check = true) :
      Emits view input options settings manifest diagnostics
        (.success "No errors found.\n" (warningsText input options diagnostics), view)
  | emitted (clean : Diagnostic.hasErrors diagnostics = false) (unchecked : options.check = false)
      (asked : options.emitManifest = true) :
      Emits view input options settings manifest diagnostics
        (.success (renderManifest settings manifest ++ "\n")
          (warningsText input options diagnostics), view)
  | written (clean : Diagnostic.hasErrors diagnostics = false) (unchecked : options.check = false)
      (unasked : options.emitManifest = false) {location : List String}
      (writable : view.target (outputPath input options) = .ok location) :
      Emits view input options settings manifest diagnostics
        (.success
          (writtenText input (outputPath input options).text manifest
            (renderManifest settings manifest))
          (warningsText input options diagnostics),
          view.withText location (renderManifest settings manifest))
  | refused (clean : Diagnostic.hasErrors diagnostics = false) (unchecked : options.check = false)
      (unasked : options.emitManifest = false) {failure : FileFailure}
      (refusal : view.target (outputPath input options) = .error failure) :
      Emits view input options settings manifest diagnostics
        (⟨1, "", warningsText input options diagnostics ++
          unwritableText (outputPath input options).text failure⟩, view)

theorem emits_emitOn (view : FileView) (input : String) (options : Options) {settings : Settings}
    {extensions : List Extension} {manifest : Manifest} {diagnostics : List Diagnostic}
    (planned : Manifest.ofExtensions settings.policy extensions = (manifest, diagnostics)) :
    Emits view input options settings manifest diagnostics
      (emitOn view input options settings extensions) := by
  cases errors : Diagnostic.hasErrors diagnostics with
  | true =>
      rw [emitOn_of_errors planned errors]
      exact .faulty errors
  | false =>
      cases check : options.check with
      | true =>
          rw [emitOn_of_check planned errors check]
          exact .checked errors check
      | false =>
          cases asked : options.emitManifest with
          | true =>
              rw [emitOn_of_emitManifest planned errors check asked]
              exact .emitted errors check asked
          | false =>
              cases writable : view.target (outputPath input options) with
              | ok location =>
                  rw [emitOn_of_target planned errors check asked writable]
                  exact .written errors check asked writable
              | error failure =>
                  rw [emitOn_of_refusal planned errors check asked writable]
                  exact .refused errors check asked writable

end CommandLine

end FieldDispatch
