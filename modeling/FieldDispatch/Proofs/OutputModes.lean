import FieldDispatch.Proofs.CommandRun

/-!
Runs for one input under one policy that ask for different outputs. They fail alike, before the
output is looked at, or succeed with one manifest, which is checked, printed or written. Being
quiet takes away the diagnostics of a run without errors and nothing else.
-/

namespace FieldDispatch.CommandLine

/-- Arguments that ask to compile an input under a policy, to whatever output. -/
structure Call (input : String) (policy : Option Policy) where
  arguments : List String
  options : Options
  parsed : parse? arguments = some (.compile input options)
  policy_eq : options.policy = policy

namespace Call

variable {input : String} {policy : Option Policy}

def run (call : Call input policy) (view : FileView) : Outcome × FileView :=
  runOn view call.arguments

def Checks (call : Call input policy) : Prop := call.options.check = true

def Prints (call : Call input policy) : Prop :=
  call.options.check = false ∧ call.options.emitManifest = true

def Writes (call : Call input policy) : Prop :=
  call.options.check = false ∧ call.options.emitManifest = false

end Call

variable {view : FileView} {input : String} {policy : Option Policy}

/-- The diagnostics of an input under a policy, if a run comes to them. -/
def diagnosticsOn (view : FileView) (input : String) (policy : Option Policy) :
    List Diagnostic :=
  match prepare view input with
  | .error _ => []
  | .ok (settings, extensions) =>
      (Manifest.ofExtensions (policy.getD settings.policy) extensions).2

/-- What all runs for an input under a policy have in common. -/
inductive Verdict (view : FileView) (input : String) (policy : Option Policy) : Prop where
  | failed (text : String)
      (reason : Diagnostic.hasErrors (diagnosticsOn view input policy) = true ∨
        diagnosticsOn view input policy = [])
      (alike : ∀ call : Call input policy, call.run view = (.failure text, view))
  | passed {settings : Settings} {extensions : List Extension} {manifest : Manifest}
      (planned : Manifest.ofExtensions settings.policy extensions =
        (manifest, diagnosticsOn view input policy))
      (clean : Diagnostic.hasErrors (diagnosticsOn view input policy) = false)
      (alike : ∀ call : Call input policy,
        call.run view = emitOn view input call.options settings extensions)

theorem verdict (view : FileView) (input : String) (policy : Option Policy) :
    Verdict view input policy := by
  cases prepared : prepare view input with
  | error text =>
      have none : diagnosticsOn view input policy = [] := by rw [diagnosticsOn, prepared]
      have alike (call : Call input policy) : call.run view = (.failure text, view) := by
        rw [Call.run, runOn_compile call.parsed, prepared]
      exact .failed text (.inr none) alike
  | ok ready =>
      obtain ⟨settings, extensions⟩ := ready
      let effective : Settings := { settings with policy := policy.getD settings.policy }
      have found : diagnosticsOn view input policy =
          (Manifest.ofExtensions effective.policy extensions).2 := by
        rw [diagnosticsOn, prepared]
      have planned : Manifest.ofExtensions effective.policy extensions =
          ((Manifest.ofExtensions effective.policy extensions).1,
            diagnosticsOn view input policy) := by rw [found]
      have emits (call : Call input policy) :
          call.run view = emitOn view input call.options effective extensions := by
        have same : inForce call.options settings = effective := by
          rw [inForce, call.policy_eq]
        rw [Call.run, runOn_prepared call.parsed prepared, same]
      cases errors : Diagnostic.hasErrors (diagnosticsOn view input policy) with
      | true =>
          have alike (call : Call input policy) : call.run view =
              (.failure (diagnosticsText (reportedName input)
                (diagnosticsOn view input policy)), view) := by
            rw [emits call, emitOn_of_errors planned errors]
          exact .failed _ (.inl errors) alike
      | false => exact .passed planned errors emits

/-- Two runs that differ in a text that one of them does not print. -/
structure Silences (text : String) (loud hushed : Outcome × FileView) : Prop where
  exitCode : hushed.1.exitCode = loud.1.exitCode
  output : hushed.1.output = loud.1.output
  errors : loud.1.errors = text ++ hushed.1.errors
  files : hushed.2 = loud.2

/-- What being quiet takes away: the diagnostics, unless there are errors among them. -/
def silencedText (view : FileView) (input : String) (policy : Option Policy) : String :=
  if Diagnostic.hasErrors (diagnosticsOn view input policy) then ""
  else diagnosticsText (reportedName input) (diagnosticsOn view input policy)

/-- What runs for an input under a policy owe to each other. -/
structure ModesAgree (view : FileView) (input : String) (policy : Option Policy) : Prop where
  codes : ∀ check print : Call input policy, check.Checks → print.Prints →
    (check.run view).1.exitCode = (print.run view).1.exitCode
  /-- The text that is printed is the one that is written, wherever that is. -/
  manifest : ∀ check print : Call input policy, check.Checks → print.Prints →
    (check.run view).1.exitCode = 0 →
      ∃ text, (print.run view).1.output = text ++ "\n" ∧
        ∀ write : Call input policy, write.Writes → ∀ after,
          view.writeText (outputPath input write.options) text = .ok after →
            (write.run view).1.exitCode = 0 ∧ (write.run view).2 = after ∧
              after.readText (outputPath input write.options) = .ok text
  failures : ∀ check call : Call input policy, check.Checks →
    (check.run view).1.exitCode ≠ 0 →
      call.run view = check.run view ∧ (call.run view).1.output = ""
  checks : ∀ check call : Call input policy, check.Checks → call.Checks →
    call.options.quiet = check.options.quiet → call.run view = check.run view
  quiet : ∀ loud hushed : Call input policy, loud.options.quiet = false →
    hushed.options = { loud.options with quiet := true } →
      Silences (silencedText view input policy) (loud.run view) (hushed.run view)

theorem modesAgree_of_failed {text : String}
    (reason : Diagnostic.hasErrors (diagnosticsOn view input policy) = true ∨
      diagnosticsOn view input policy = [])
    (alike : ∀ call : Call input policy, call.run view = (.failure text, view)) :
    ModesAgree view input policy where
  codes check print _ _ := by rw [alike check, alike print]
  manifest check _ _ _ success := by simp [alike check, Outcome.failure] at success
  failures check call _ _ := by simp [alike check, alike call, Outcome.failure]
  checks check call _ _ _ := by rw [alike check, alike call]
  quiet loud hushed _ _ := by
    have nothing : silencedText view input policy = "" := by
      unfold silencedText
      obtain errors | none := reason
      · rw [if_pos errors]
      · rw [none]
        rfl
    rw [alike loud, alike hushed, nothing]
    exact ⟨rfl, rfl, by simp, rfl⟩

theorem emitOn_silences {loud hushed : Options} (isLoud : loud.quiet = false)
    (same : hushed = { loud with quiet := true }) {settings : Settings}
    {extensions : List Extension} {manifest : Manifest} {diagnostics : List Diagnostic}
    (planned : Manifest.ofExtensions settings.policy extensions = (manifest, diagnostics))
    (clean : Diagnostic.hasErrors diagnostics = false) :
    Silences (diagnosticsText (reportedName input) diagnostics)
      (emitOn view input loud settings extensions)
      (emitOn view input hushed settings extensions) := by
  have checks : hushed.check = loud.check := by rw [same]
  have asks : hushed.emitManifest = loud.emitManifest := by rw [same]
  have path : outputPath input hushed = outputPath input loud := by rw [same]; rfl
  have printed : warningsText input loud diagnostics =
      diagnosticsText (reportedName input) diagnostics := by simp [warningsText, isLoud]
  have silent : warningsText input hushed diagnostics = "" := by simp [warningsText, same]
  have emits := emits_emitOn view input loud planned
  generalize emitOn view input loud settings extensions = ended at emits ⊢
  cases emits with
  | faulty errors => simp [clean] at errors
  | checked _ check =>
      rw [emitOn_of_check planned clean (checks.trans check), printed, silent]
      exact ⟨rfl, rfl, by simp [Outcome.success], rfl⟩
  | emitted _ unchecked asked =>
      rw [emitOn_of_emitManifest planned clean (checks.trans unchecked) (asks.trans asked),
        printed, silent]
      exact ⟨rfl, rfl, by simp [Outcome.success], rfl⟩
  | written _ unchecked unasked writable =>
      rw [← path] at writable ⊢
      rw [emitOn_of_target planned clean (checks.trans unchecked) (asks.trans unasked) writable,
        printed, silent]
      exact ⟨rfl, rfl, by simp [Outcome.success], rfl⟩
  | refused _ unchecked unasked refusal =>
      rw [← path] at refusal ⊢
      rw [emitOn_of_refusal planned clean (checks.trans unchecked) (asks.trans unasked) refusal,
        printed, silent]
      exact ⟨rfl, rfl, by simp, rfl⟩

section

variable {settings : Settings} {extensions : List Extension} {manifest : Manifest}
  (planned : Manifest.ofExtensions settings.policy extensions =
    (manifest, diagnosticsOn view input policy))
  (clean : Diagnostic.hasErrors (diagnosticsOn view input policy) = false)
  (alike : ∀ call : Call input policy,
    call.run view = emitOn view input call.options settings extensions)

include planned clean alike

theorem run_of_checks (call : Call input policy) (checks : call.Checks) :
    call.run view = (.success "No errors found.\n"
      (warningsText input call.options (diagnosticsOn view input policy)), view) := by
  rw [alike call, emitOn_of_check planned clean checks]

theorem run_of_prints (call : Call input policy) (prints : call.Prints) :
    call.run view = (.success (renderManifest settings manifest ++ "\n")
      (warningsText input call.options (diagnosticsOn view input policy)), view) := by
  rw [alike call, emitOn_of_emitManifest planned clean prints.1 prints.2]

theorem modesAgree_of_passed : ModesAgree view input policy where
  codes check print checks prints := by
    rw [run_of_checks planned clean alike check checks,
      run_of_prints planned clean alike print prints]
    rfl
  manifest check print checks prints _ := by
    rw [run_of_prints planned clean alike print prints]
    apply Exists.intro (renderManifest settings manifest)
    apply And.intro rfl
    intro write writes after written
    rw [FileView.writeText_eq] at written
    cases writable : view.target (outputPath input write.options) with
    | error failure =>
        rw [writable] at written
        cases written
    | ok location =>
        rw [writable] at written
        cases written
        rw [alike write, emitOn_of_target planned clean writes.1 writes.2 writable]
        exact ⟨rfl, rfl, FileView.readText_withText_target writable _⟩
  failures check call checks failed := by
    rw [run_of_checks planned clean alike check checks] at failed
    exact absurd rfl failed
  checks check call checks checks' same := by
    rw [run_of_checks planned clean alike check checks,
      run_of_checks planned clean alike call checks', warningsText, warningsText, same]
  quiet loud hushed isLoud same := by
    have silenced : silencedText view input policy =
        diagnosticsText (reportedName input) (diagnosticsOn view input policy) := by
      simp [silencedText, clean]
    rw [alike loud, alike hushed, silenced]
    exact emitOn_silences isLoud same planned clean

end

theorem modes_agree (view : FileView) (input : String) (policy : Option Policy) :
    ModesAgree view input policy := by
  cases verdict view input policy with
  | failed text reason alike => exact modesAgree_of_failed reason alike
  | passed planned clean alike => exact modesAgree_of_passed planned clean alike

namespace Sample

/-- An input with a method that no resolver can be made for, and settings for short output. -/
def unsupported : FileView :=
  ⟨⟨[(["a.json"], .text ("\x7b\"runtime_type\":\"P\",\"extension_type\":\"P\",\"members\":" ++
    "[\x7b\"name\":\"v\",\"kind\":\"method\",\"returns\":\"void\"\x7d]\x7d")),
    (["Fieldgen.toml"], .text "output = [false]")], []⟩, []⟩

/-- The manifest of that input. -/
def unsupportedText : String :=
  "\x7b\"version\":\"0.1.0\",\"extensions\":" ++
    "[\x7b\"runtime_type\":\"P\",\"extension_type\":\"P\"," ++
    "\"skipped\":[\x7b\"member\":\"v\",\"reason\":\"returns no value\"\x7d]," ++
    "\"initialize\":[\x7b\"op\":\"configure\"\x7d]\x7d]\x7d"

end Sample

/-- What is printed is what is written, and a warning is printed beside it unless that is to be
quiet. -/
theorem modes_agree_unsupported :
    (runOn Sample.unsupported ["a.json", "--unsupported=warn", "--emit-manifest"]).1 =
        ⟨0, Sample.unsupportedText ++ "\n",
          "a.json: warning: member 'v' returns no value and is not exposed as a field [P.v]\n"⟩ ∧
      (runOn Sample.unsupported ["a.json", "--unsupported=warn", "--emit-manifest", "-q"]).1 =
        ⟨0, Sample.unsupportedText ++ "\n", ""⟩ ∧
      (runOn Sample.unsupported ["a.json", "--unsupported=warn"]).2.readText
        (Path.ofText "a.manifest.json") = .ok Sample.unsupportedText := by
  let options : Options :=
    { Options.none with input := some "a.json", policy := some .warn }
  let check : Call "a.json" (some .warn) :=
    ⟨["a.json", "--unsupported=warn", "--check"], { options with check := true },
      by decide +kernel, rfl⟩
  let print : Call "a.json" (some .warn) :=
    ⟨["a.json", "--unsupported=warn", "--emit-manifest"], { options with emitManifest := true },
      by decide +kernel, rfl⟩
  let hushed : Call "a.json" (some .warn) :=
    ⟨["a.json", "--unsupported=warn", "--emit-manifest", "-q"],
      { options with emitManifest := true, quiet := true }, by decide +kernel, rfl⟩
  let write : Call "a.json" (some .warn) :=
    ⟨["a.json", "--unsupported=warn"], options, by decide +kernel, rfl⟩
  have loud : (print.run Sample.unsupported).1 = ⟨0, Sample.unsupportedText ++ "\n",
      "a.json: warning: member 'v' returns no value and is not exposed as a field [P.v]\n"⟩ := by
    decide +kernel
  have agree := modes_agree Sample.unsupported "a.json" (some .warn)
  have success : (check.run Sample.unsupported).1.exitCode = 0 := by
    rw [agree.codes check print rfl ⟨rfl, rfl⟩, loud]
  refine ⟨loud, ?_, ?_⟩
  · have silences := agree.quiet print hushed rfl rfl
    have silenced : silencedText Sample.unsupported "a.json" (some .warn) =
        (print.run Sample.unsupported).1.errors := by decide +kernel
    have errors := String.append_empty.trans silences.errors
    rw [silenced, String.append_right_inj] at errors
    have code := silences.exitCode
    have output := silences.output
    rw [loud] at code output
    change (hushed.run Sample.unsupported).1 = _
    generalize (hushed.run Sample.unsupported).1 = ended at code output errors
    cases ended
    cases code
    cases output
    cases errors
    rfl
  · obtain ⟨text, printed, writes⟩ := agree.manifest check print rfl ⟨rfl, rfl⟩ success
    rw [loud] at printed
    obtain rfl : Sample.unsupportedText = text := (String.append_left_inj "\n").mp printed
    have path : outputPath "a.json" write.options = Path.ofText "a.manifest.json" := by
      decide +kernel
    have written : Sample.unsupported.writeText (outputPath "a.json" write.options)
        Sample.unsupportedText =
          .ok (Sample.unsupported.withText ["a.manifest.json"] Sample.unsupportedText) := by
      rw [FileView.writeText_eq, path]
      rfl
    obtain ⟨-, after, reads⟩ := writes write ⟨rfl, rfl⟩ _ written
    rw [path, ← after] at reads
    exact reads

end FieldDispatch.CommandLine
