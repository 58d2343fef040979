import FieldDispatch.Proofs.CommandRun
import FieldDispatch.Proofs.Compilation
import FieldDispatch.Proofs.ManifestText

/-!
Which settings a run works under and what it computes from them. The policy is that of the command
line, or else that of the nearest settings file, or else the default; whether the text is indented
is up to the settings file. Under a policy from the command line the one in the file has no effect.
-/

namespace FieldDispatch

namespace Settings

/-- What a text gives for the settings. -/
def reading? (text : String) : Option Reading :=
  (Toml.read? text).bind fun statements => statements.foldlM Reading.step? .start

def policyIn? (text : String) : Option Policy :=
  ((reading? text).bind Reading.policy).bind Policy.ofText?

def prettyIn? (text : String) : Option Bool := (reading? text).bind Reading.pretty

/-- Settings that a text does not give are skipping and indenting. -/
theorem eq_of_parse {text : String} {root : Option String} {settings : Settings}
    (parsed : parse text root = .ok settings) :
    settings = ⟨(policyIn? text).getD .skip, (prettyIn? text).getD true, root⟩ := by
  unfold parse at parsed
  unfold policyIn? prettyIn? reading?
  cases read : (Toml.read? text).bind fun statements => statements.foldlM Reading.step? .start with
  | none => simp [read] at parsed
  | some reading =>
      rw [read] at parsed
      simp only [Reading.finish] at parsed
      split at parsed
      · next given =>
          cases parsed
          simp [given, Settings.default]
      · next name given =>
          split at parsed
          · next policy known =>
              cases parsed
              simp [given, known, Settings.default]
          · contradiction

end Settings

namespace FileView

/-- The text of the settings file for an input. -/
def settingsText? (view : FileView) (input : Path) : Option String :=
  (view.settingsFile? input).bind fun file => (view.readText file).toOption

theorem policy_pretty_of_settingsFor {view : FileView} {input : Path} {settings : Settings}
    (loaded : view.settingsFor input = .ok settings) :
    settings.policy = ((view.settingsText? input).bind Settings.policyIn?).getD .skip ∧
      settings.pretty = ((view.settingsText? input).bind Settings.prettyIn?).getD true := by
  unfold settingsFor at loaded
  unfold settingsText?
  cases nearest : view.settingsFile? input with
  | none =>
      rw [nearest] at loaded
      cases loaded
      exact ⟨rfl, rfl⟩
  | some file =>
      rw [nearest] at loaded
      simp only [loadSettings] at loaded
      cases read : view.readText file with
      | error failure => simp [read] at loaded
      | ok text =>
          rw [read] at loaded
          have given := Settings.eq_of_parse loaded
          simp [given, read, Except.toOption]

end FileView

namespace CommandLine

/-- The policy of the command line, else that of the settings file, else skipping. -/
def effectivePolicy (view : FileView) (input : String) (options : Options) : Policy :=
  (options.policy.or
    ((view.settingsText? (view.realPath (Path.ofText input))).bind Settings.policyIn?)).getD .skip

/-- Whether the settings file asks for indented text, which is the default. -/
def effectivePretty (view : FileView) (input : String) : Bool :=
  ((view.settingsText? (view.realPath (Path.ofText input))).bind Settings.prettyIn?).getD true

theorem inForce_of_settingsFor {view : FileView} {input : String} {settings : Settings}
    (loaded : view.settingsFor (view.realPath (Path.ofText input)) = .ok settings)
    (options : Options) :
    (inForce options settings).policy = effectivePolicy view input options ∧
      (inForce options settings).pretty = effectivePretty view input := by
  obtain ⟨policy, pretty⟩ := FileView.policy_pretty_of_settingsFor loaded
  constructor
  · unfold inForce effectivePolicy
    cases options.policy with
    | none => simpa using policy
    | some given => rfl
  · exact pretty

/-- The manifest and the diagnostics of some extensions under the effective policy. -/
def effectivePlan (view : FileView) (input : String) (options : Options)
    (extensions : List Extension) : Manifest × List Diagnostic :=
  Manifest.ofExtensions (effectivePolicy view input options) extensions

/-- The text of a manifest, indented or not as the settings file says. -/
def effectiveText (view : FileView) (input : String) (manifest : Manifest) : String :=
  if effectivePretty view input then manifest.toJson.pretty else manifest.toJson.compact

/-- The manifest is not to be written, or can be written where it is to go. -/
def CanFinish (view : FileView) (input : String) (options : Options) : Prop :=
  options.check = true ∨ options.emitManifest = true ∨
    ∃ text after, view.writeText (outputPath input options) text = .ok after

/-- A run computes a manifest with diagnostics. Without errors it succeeds, and what it prints or
stores is a text of the manifest; with errors, the diagnostics are all that it prints. Of a run that
succeeds they are printed as well, unless it is quiet. -/
structure Computes (view : FileView) (input : String) (options : Options) (manifest : Manifest)
    (diagnostics : List Diagnostic) (text : String) (ended : Outcome × FileView) : Prop where
  succeeds : CanFinish view input options →
    (ended.1.exitCode = 0 ↔ Diagnostic.hasErrors diagnostics = false)
  faulty : Diagnostic.hasErrors diagnostics = true →
    ended = (⟨1, "", diagnosticsText (reportedName input) diagnostics⟩, view)
  reported : Diagnostic.hasErrors diagnostics = true ∨
    ended.1.exitCode = 0 ∧ options.quiet = false →
      Reports (reportedName input) diagnostics ended.1.errors
  printed : Diagnostic.hasErrors diagnostics = false →
    options.check = false → options.emitManifest = true → ended.1.output = text ++ "\n"
  stored : ended.1.exitCode = 0 → options.check = false → options.emitManifest = false →
    ended.2.readText (outputPath input options) = .ok text
  decodes : Manifest.read? text = some manifest

variable {view : FileView} {input : String} {options : Options} {settings : Settings}
  {extensions : List Extension}

theorem target_of_canFinish (finishes : CanFinish view input options)
    (unchecked : options.check = false) (unasked : options.emitManifest = false) :
    ∃ location, view.target (outputPath input options) = .ok location := by
  obtain check | asked | ⟨text, after, written⟩ := finishes
  · simp [unchecked] at check
  · simp [unasked] at asked
  · rw [FileView.writeText_eq] at written
    cases writable : view.target (outputPath input options) with
    | error failure =>
        rw [writable] at written
        cases written
    | ok location => exact ⟨location, rfl⟩

variable {manifest : Manifest} {diagnostics : List Diagnostic}

theorem Emits.computes {ended : Outcome × FileView}
    (emits : Emits view input options settings manifest diagnostics ended) :
    Computes view input options manifest diagnostics (renderManifest settings manifest) ended where
  succeeds finishes := by
    cases emits with
    | faulty errors => simp [errors, Outcome.failure]
    | checked clean | emitted clean | written clean => simp [clean, Outcome.success]
    | refused _ unchecked unasked refusal =>
        obtain ⟨location, writable⟩ := target_of_canFinish finishes unchecked unasked
        rw [refusal] at writable
        cases writable
  faulty errors := by
    cases emits with
    | faulty => rfl
    | checked clean | emitted clean | written clean | refused clean => simp [clean] at errors
  reported loud := by
    rw [reports_iff]
    cases emits with
    | faulty => rfl
    | checked clean | emitted clean | written clean =>
        simp only [clean, Bool.false_eq_true, false_or] at loud
        simp [Outcome.success, warningsText, loud.2]
    | refused clean => simp [clean] at loud
  printed clean unchecked asked := by
    cases emits with
    | faulty errors => simp [clean] at errors
    | checked _ check => simp [unchecked] at check
    | emitted => rfl
    | written _ _ unasked | refused _ _ unasked => simp [asked] at unasked
  stored success unchecked unasked := by
    cases emits with
    | faulty => simp [Outcome.failure] at success
    | checked _ check => simp [unchecked] at check
    | emitted _ _ asked => simp [unasked] at asked
    | written _ _ _ writable => exact FileView.readText_withText_target writable _
    | refused => simp at success
  decodes := read?_renderManifest settings manifest

/-- Two views that are alike to a run but for the policy of the settings file. -/
structure DifferInPolicy (first second : FileView) (input : String) : Prop where
  shape : first.SameShape second
  source : first.readText (Path.ofText input) = second.readText (Path.ofText input)
  settings : ∃ settings policy,
    first.settingsFor (first.realPath (Path.ofText input)) = .ok settings ∧
      second.settingsFor (second.realPath (Path.ofText input)) = .ok { settings with policy }

/-- Two runs that end alike and write the same text at the same location, if they write. -/
structure EndAlike (first second : FileView) (ended ended' : Outcome × FileView) : Prop where
  outcome : ended.1 = ended'.1
  files : ended.2 = first ∧ ended'.2 = second ∨
    ∃ location text, ended.2 = first.withText location text ∧
      ended'.2 = second.withText location text

theorem emitOn_endAlike {first second : FileView} (shape : first.SameShape second)
    (input : String) (options : Options) (settings : Settings) (extensions : List Extension) :
    EndAlike first second (emitOn first input options settings extensions)
      (emitOn second input options settings extensions) := by
  have planned : Manifest.ofExtensions settings.policy extensions = (_, _) := rfl
  have emits := emits_emitOn first input options planned
  generalize ran : emitOn first input options settings extensions = ended at emits
  cases emits with
  | faulty errors =>
      rw [emitOn_of_errors planned errors]
      exact ⟨rfl, .inl ⟨rfl, rfl⟩⟩
  | checked clean check =>
      rw [emitOn_of_check planned clean check]
      exact ⟨rfl, .inl ⟨rfl, rfl⟩⟩
  | emitted clean unchecked asked =>
      rw [emitOn_of_emitManifest planned clean unchecked asked]
      exact ⟨rfl, .inl ⟨rfl, rfl⟩⟩
  | written clean unchecked unasked writable =>
      have writable' := (shape.target_eq _).symm.trans writable
      rw [emitOn_of_target planned clean unchecked unasked writable']
      exact ⟨rfl, .inr ⟨_, _, rfl, rfl⟩⟩
  | refused clean unchecked unasked refusal =>
      have refusal' := (shape.target_eq _).symm.trans refusal
      rw [emitOn_of_refusal planned clean unchecked unasked refusal']
      exact ⟨rfl, .inl ⟨rfl, rfl⟩⟩

theorem runOn_endAlike {first second : FileView} {arguments : List String}
    (parsed : parse? arguments = some (.compile input options)) (given : options.policy.isSome)
    (differ : DifferInPolicy first second input) :
    EndAlike first second (runOn first arguments) (runOn second arguments) := by
  obtain ⟨shape, source, settings, policy, loaded, loaded'⟩ := differ
  have stopped (text : String) (first' : prepare first input = .error text)
      (second' : prepare second input = .error text) :
      EndAlike first second (runOn first arguments) (runOn second arguments) := by
    rw [runOn_compile parsed, runOn_compile parsed, first', second']
    exact ⟨rfl, .inl ⟨rfl, rfl⟩⟩
  cases read : first.readText (Path.ofText input) with
  | error failure =>
      have read' := source.symm.trans read
      exact stopped (unreadableText input failure) (by simp only [prepare, read])
        (by simp only [prepare, read'])
  | ok text =>
      have read' := source.symm.trans read
      cases decoded : Extension.readFile? text with
      | none =>
          exact stopped (invalidText (reportedName input))
            (by simp only [prepare, read, loaded, decoded])
            (by simp only [prepare, read', loaded', decoded])
      | some extensions =>
          rw [runOn_prepared parsed (prepare_eq read loaded decoded),
            runOn_prepared parsed (prepare_eq read' loaded' decoded)]
          have same : inForce options { settings with policy } = inForce options settings := by
            obtain ⟨flag, given⟩ := Option.isSome_iff_exists.mp given
            simp [inForce, given]
          rw [same]
          exact emitOn_endAlike shape input options _ extensions

/-- A settings file that is replaced by one with another policy makes such a difference. -/
theorem differInPolicy_withText {file : Path} {location own : List String} {text : String}
    {content kept : FileContent} {policy : Policy}
    (readable : view.locate (Path.ofText input) = .ok (.file own content))
    (nearest : view.settingsFile? (view.realPath (Path.ofText input)) = some file)
    (located : view.locate file = .ok (.file location kept)) (apart : own ≠ location)
    (loaded : view.loadSettings file = .ok settings)
    (replaced : Settings.parse text (some (Settings.directoryOf file).text) =
      .ok { settings with policy }) :
    DifferInPolicy view (view.withText location text) input := by
  have shape := FileView.sameShape_withText located text
  constructor
  · exact shape
  · exact (FileView.readText_withText_of_ne readable apart text).symm
  · have first : view.settingsFor (view.realPath (Path.ofText input)) = .ok settings := by
      rw [FileView.settingsFor, nearest]
      exact loaded
    have nearest' := nearest
    rw [shape.settingsFile?_eq, shape.realPath_eq] at nearest'
    have second : (view.withText location text).settingsFor
        ((view.withText location text).realPath (Path.ofText input)) =
          .ok { settings with policy } := by
      rw [FileView.settingsFor, nearest']
      simp only [FileView.loadSettings, FileView.readText_withText_of_locate located text]
      exact replaced
    exact ⟨settings, policy, first, second⟩

/-- A run computes the manifest of its extensions under the effective settings; the policy of the
settings file has no effect where another one is given. -/
theorem runOn_computes {arguments : List String} {source : String}
    (parsed : parse? arguments = some (.compile input options))
    (readable : view.readText (Path.ofText input) = .ok source)
    (loaded : view.settingsFor (view.realPath (Path.ofText input)) = .ok settings)
    (decoded : Extension.readFile? source = some extensions) :
    Computes view input options (effectivePlan view input options extensions).1
        (effectivePlan view input options extensions).2
        (effectiveText view input (effectivePlan view input options extensions).1)
        (runOn view arguments) ∧
      (options.policy.isSome → ∀ other, DifferInPolicy view other input →
        EndAlike view other (runOn view arguments) (runOn other arguments)) := by
  obtain ⟨policy, pretty⟩ := inForce_of_settingsFor loaded options
  have planned : Manifest.ofExtensions (inForce options settings).policy extensions =
      ((effectivePlan view input options extensions).1,
        (effectivePlan view input options extensions).2) := by
    rw [policy]
    rfl
  have rendered (manifest : Manifest) :
      renderManifest (inForce options settings) manifest =
        effectiveText view input manifest := by
    rw [renderManifest, effectiveText, pretty]
  have computes := (emits_emitOn view input options planned).computes
  rw [← runOn_prepared parsed (prepare_eq readable loaded decoded), rendered] at computes
  exact ⟨computes, fun given other differ => runOn_endAlike parsed given differ⟩

namespace Sample

/-- A property and a method that no resolver can be made for. -/
def halfSupported : String :=
  "\x7b\"runtime_type\":\"P\",\"extension_type\":\"Q\",\"members\":[" ++
    "\x7b\"name\":\"v\",\"kind\":\"method\",\"returns\":\"void\"," ++
      "\"location\":[\"q\",3,5]\x7d," ++
    "\x7b\"name\":\"w\",\"kind\":\"property\",\"type\":\"Int\"\x7d]\x7d"

/-- A property that is declared twice. -/
def repeated : String :=
  "\x7b\"runtime_type\":\"P\",\"extension_type\":\"P\",\"members\":[" ++
    "\x7b\"name\":\"w\",\"kind\":\"property\",\"type\":\"Int\"\x7d," ++
    "\x7b\"name\":\"w\",\"kind\":\"property\",\"type\":\"Int\"\x7d]\x7d"

def strictSettings : String := "compiler.unsupported_members = \"error\""

/-- Inputs in a directory below one with settings. -/
def strict : FileView :=
  ⟨⟨[(["in", "a.json"], .text halfSupported), (["in", "b.json"], .text repeated),
      (["Fieldgen.toml"], .text strictSettings)],
    [["in"]]⟩, ["in"]⟩

theorem settingsFor_strict : ∀ input ∈ ["a.json", "b.json"],
    strict.settingsFor (strict.realPath (Path.ofText input)) = .ok ⟨.error, true, some "/"⟩ := by
  decide +kernel

theorem differInPolicy_strict :
    DifferInPolicy strict (strict.withText ["Fieldgen.toml"] "[compiler]") "a.json" := by
  have own : strict.locate (Path.ofText "a.json") =
      .ok (.file ["in", "a.json"] (.text halfSupported)) := by rfl
  have nearest : strict.settingsFile? (strict.realPath (Path.ofText "a.json")) =
      some (Path.ofText "/Fieldgen.toml") := by
    decide +kernel
  have located : strict.locate (Path.ofText "/Fieldgen.toml") =
      .ok (.file ["Fieldgen.toml"] (.text strictSettings)) := by rfl
  have first : strict.loadSettings (Path.ofText "/Fieldgen.toml") =
      .ok ⟨.error, true, some "/"⟩ := (toOption_eq_some_iff _ _).mp (by decide +kernel)
  have second : Settings.parse "[compiler]"
      (some (Settings.directoryOf (Path.ofText "/Fieldgen.toml")).text) =
        .ok ⟨.skip, true, some "/"⟩ := (toOption_eq_some_iff _ _).mp (by decide +kernel)
  exact differInPolicy_withText own nearest located (by decide) first second

end Sample

theorem runOn_computes_strict :
    let arguments := ["a.json", "--emit-manifest", "--unsupported=warn"]
    (runOn Sample.strict ["a.json"]).1 = ⟨1, "",
        "a.json: error: member 'v' returns no value and is not exposed as a field [P.v]\n" ++
          "  --> q:3:5\n"⟩ ∧
      (runOn Sample.strict ["b.json"]).1 = ⟨1, "",
        "b.json: error: duplicate member 'w' [P.w]\n" ++
          "  = help: the first declaration is used; rename or remove this one\n"⟩ ∧
      (runOn Sample.strict arguments).1.exitCode = 0 ∧
      (runOn Sample.strict arguments).1.errors =
        "a.json: warning: member 'v' returns no value and is not exposed as a field [P.v]\n" ++
          "  --> q:3:5\n" ∧
      (∃ text manifest, (runOn Sample.strict arguments).1.output = text ++ "\n" ∧
        Manifest.read? text = some manifest ∧ manifest.resolverCount = 1) ∧
      EndAlike Sample.strict (Sample.strict.withText ["Fieldgen.toml"] "[compiler]")
        (runOn Sample.strict arguments)
        (runOn (Sample.strict.withText ["Fieldgen.toml"] "[compiler]") arguments) := by
  intro arguments
  let plain (input : String) : Options := { Options.none with input := some input }
  let flagged : Options := { plain "a.json" with emitManifest := true, policy := some .warn }
  have parsedA : parse? ["a.json"] = some (.compile "a.json" (plain "a.json")) := by
    decide +kernel
  have parsedB : parse? ["b.json"] = some (.compile "b.json" (plain "b.json")) := by
    decide +kernel
  have parsed : parse? arguments = some (.compile "a.json" flagged) := by decide +kernel
  have readA : Sample.strict.readText (Path.ofText "a.json") = .ok Sample.halfSupported := by
    rfl
  have readB : Sample.strict.readText (Path.ofText "b.json") = .ok Sample.repeated := by rfl
  have loadedA := Sample.settingsFor_strict "a.json" (by decide)
  have loadedB := Sample.settingsFor_strict "b.json" (by decide)
  have plansA : (Extension.readFile? Sample.halfSupported).map (fun extensions =>
      let strict := (effectivePlan Sample.strict "a.json" (plain "a.json") extensions).2
      let warned := effectivePlan Sample.strict "a.json" flagged extensions
      ((Diagnostic.hasErrors strict, diagnosticsText "a.json" strict),
        (Diagnostic.hasErrors warned.2, diagnosticsText "a.json" warned.2),
        warned.1.resolverCount)) =
      some
        ((true,
          "a.json: error: member 'v' returns no value and is not exposed as a field [P.v]\n" ++
            "  --> q:3:5\n"),
        (false,
          "a.json: warning: member 'v' returns no value and is not exposed as a field [P.v]\n" ++
            "  --> q:3:5\n"),
        1) := by decide +kernel
  have plansB : (Extension.readFile? Sample.repeated).map (fun extensions =>
      let strict := (effectivePlan Sample.strict "b.json" (plain "b.json") extensions).2
      (Diagnostic.hasErrors strict, diagnosticsText "b.json" strict)) =
      some (true, "b.json: error: duplicate member 'w' [P.w]\n" ++
        "  = help: the first declaration is used; rename or remove this one\n") := by decide +kernel
  obtain ⟨extensions, decodedA, sameA⟩ := Option.map_eq_some_iff.mp plansA
  obtain ⟨others, decodedB, sameB⟩ := Option.map_eq_some_iff.mp plansB
  simp only [Prod.mk.injEq] at sameA sameB
  obtain ⟨⟨faultyA, textA⟩, ⟨clean, warnings⟩, count⟩ := sameA
  have stoppedA := (runOn_computes parsedA readA loadedA decodedA).1.faulty faultyA
  have stoppedB := (runOn_computes parsedB readB loadedB decodedB).1.faulty sameB.1
  obtain ⟨computes, alike⟩ := runOn_computes parsed readA loadedA decodedA
  have success := (computes.succeeds (.inr (.inl rfl))).mpr clean
  have reported := (reports_iff _ _ _).mp (computes.reported (.inr ⟨success, rfl⟩))
  have text := computes.printed clean rfl rfl
  refine ⟨?_, ?_, success, reported.trans warnings, ⟨_, _, text, computes.decodes, count⟩,
    alike rfl _ Sample.differInPolicy_strict⟩
  · rw [stoppedA, ← textA]
    rfl
  · rw [stoppedB, ← sameB.2]
    rfl

end CommandLine

end FieldDispatch
