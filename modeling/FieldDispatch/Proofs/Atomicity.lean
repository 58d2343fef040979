import FieldDispatch.Proofs.CommandRun
import FieldDispatch.Proofs.Compilation
import FieldDispatch.Proofs.OutputPath

/-!
What a run does to files. A run that fails, or that was not asked to write a manifest, leaves them
as they were; any other one changes the file that its output path leads to and nothing else. At
the default path that is neither the input nor a settings file.
-/

namespace FieldDispatch.CommandLine

/-- The text of the manifest that a prepared run compiles. -/
def manifestText (options : Options) (settings : Settings) (extensions : List Extension) :
    String :=
  renderManifest (inForce options settings)
    (Manifest.ofExtensions (inForce options settings).policy extensions).1

/-- How a compilation ends: it fails, it reports without writing, or it writes. -/
inductive Ends (view : FileView) (input : String) (options : Options) :
    Outcome × FileView → Prop where
  | failed {outcome : Outcome} (code : outcome.exitCode = 1) :
      Ends view input options (outcome, view)
  | reported {outcome : Outcome} (dry : options.check = true ∨ options.emitManifest = true) :
      Ends view input options (outcome, view)
  | written {outcome : Outcome} {settings : Settings} {extensions : List Extension}
      {location : List String} (code : outcome.exitCode = 0)
      (unchecked : options.check = false) (unasked : options.emitManifest = false)
      (prepared : prepare view input = .ok (settings, extensions))
      (writable : view.target (outputPath input options) = .ok location) :
      Ends view input options
        (outcome, view.withText location (manifestText options settings extensions))

theorem ends_runOn {view : FileView} {arguments : List String} {input : String}
    {options : Options} (parsed : parse? arguments = some (.compile input options)) :
    Ends view input options (runOn view arguments) := by
  cases prepared : prepare view input with
  | error text =>
      rw [runOn_compile parsed, prepared]
      exact .failed rfl
  | ok ready =>
      obtain ⟨settings, extensions⟩ := ready
      rw [runOn_prepared parsed prepared]
      have planned : Manifest.ofExtensions (inForce options settings).policy extensions =
          (_, _) := rfl
      have emits := emits_emitOn view input options planned
      generalize emitOn view input options (inForce options settings) extensions = ended at emits ⊢
      cases emits with
      | faulty => exact .failed rfl
      | checked clean check => exact .reported (.inl check)
      | emitted clean unchecked asked => exact .reported (.inr asked)
      | written clean unchecked unasked writable =>
          exact .written rfl unchecked unasked prepared writable
      | refused => exact .failed rfl

/-- What a compilation may do to files. The last two fields are about the default path: where it
is not beside the input, nothing can be written to it. -/
structure IsAtomic (view : FileView) (input : String) (options : Options)
    (ended : Outcome × FileView) : Prop where
  dry : options.check = true ∨ options.emitManifest = true → ended.2 = view
  written : ended.1.exitCode = 0 → options.check = false → options.emitManifest = false →
    ∃ settings extensions, prepare view input = .ok (settings, extensions) ∧
      view.IsWritten ended.2 (outputPath input options) (manifestText options settings extensions)
  keepsInput : options.output = none →
    ended.2.readText (Path.ofText input) = view.readText (Path.ofText input)
  keepsSettings : options.output = none →
    ∀ file, view.settingsFile? (view.realPath (Path.ofText input)) = some file →
      ended.2.readText file = view.readText file
  beside : options.output = none → ∀ source name,
    view.readText (Path.ofText input) = .ok source → (Path.ofText input).fileName? = some name →
      ((outputPath input options).IsBeside (Path.ofText input) ↔ Path.stem name ≠ ".")
  stuck : options.output = none → options.check = false → options.emitManifest = false →
    ∀ name, (Path.ofText input).fileName? = some name → Path.stem name = "." →
      ended.1.exitCode ≠ 0

variable {view : FileView} {input : String} {options : Options} {ended : Outcome × FileView}

theorem outputPath_of_none (unset : options.output = none) :
    outputPath input options = (Path.ofText input).withExtension "manifest.json" := by
  rw [outputPath, unset]
  rfl

theorem Ends.unchanged_of_failure (ends : Ends view input options ended)
    (code : ended.1.exitCode ≠ 0) : ended.2 = view := by
  cases ends with
  | failed | reported => rfl
  | written success => exact absurd success code

theorem Ends.isAtomic (ends : Ends view input options ended) :
    IsAtomic view input options ended where
  dry asked := by
    cases ends with
    | failed | reported => rfl
    | written _ unchecked unasked => simp [unchecked, unasked] at asked
  written success unchecked unasked := by
    cases ends with
    | failed code => simp [code] at success
    | reported dry => simp [unchecked, unasked] at dry
    | written _ _ _ prepared writable =>
        exact ⟨_, _, prepared, FileView.isWritten_withText writable _⟩
  keepsInput unset := by
    cases ends with
    | failed | reported => rfl
    | written _ _ _ prepared writable =>
        obtain ⟨own, content, found⟩ := locate_of_prepare prepared
        rw [outputPath_of_none unset] at writable
        exact FileView.readText_input_of_default found writable _
  keepsSettings unset file nearest := by
    cases ends with
    | failed | reported => rfl
    | written _ _ _ prepared writable =>
        obtain ⟨own, content, found⟩ := locate_of_prepare prepared
        rw [outputPath_of_none unset] at writable
        obtain ⟨directory, holds, rfl⟩ := Option.map_eq_some_iff.mp nearest
        have present := List.find?_some holds
        exact FileView.readText_settings_of_default found writable present _
  beside unset source name read named := by
    obtain ⟨own, found⟩ := FileView.readText_eq_ok_iff.mp read
    obtain ⟨above, last, -, ends, isName, -, -⟩ := FileView.exists_name_of_locate found (by simp)
    have same := Path.fileName?_of_parts ends isName.notIdle
    rw [named, if_neg isName.notUp] at same
    obtain rfl := Option.some.inj same
    rw [outputPath_of_none unset]
    exact Path.isBeside_manifest_iff ends isName.notIdle isName.notUp
  stuck unset unchecked unasked name named dot success := by
    cases ends with
    | failed code => simp [code] at success
    | reported dry => simp [unchecked, unasked] at dry
    | written _ _ _ prepared writable =>
        obtain ⟨own, content, found⟩ := locate_of_prepare prepared
        rw [outputPath_of_none unset] at writable
        obtain ⟨-, last, spelled, notDot, -⟩ := FileView.location_of_default found writable
        rw [named] at spelled
        obtain rfl := Option.some.inj spelled
        exact notDot dot

/-- A run that fails or compiles nothing leaves the files as they are. A compilation changes at most
the file that its output path leads to, which is neither its input nor its settings file unless the
path was given. -/
theorem runOn_atomic (view : FileView) (arguments : List String) :
    ((runOn view arguments).1.exitCode ≠ 0 → (runOn view arguments).2 = view) ∧
      ((∀ input options, parse? arguments ≠ some (.compile input options)) →
        (runOn view arguments).2 = view) ∧
      ∀ input options, parse? arguments = some (.compile input options) →
        IsAtomic view input options (runOn view arguments) := by
  have uncompiled (other : ∀ input options, parse? arguments ≠ some (.compile input options)) :
      (runOn view arguments).2 = view := by
    unfold runOn run
    rcases command : parse? arguments with _ | (⟨input, options⟩ | _ | _)
    · rfl
    · exact absurd command (other input options)
    · rfl
    · rfl
  have compiled (input : String) (options : Options)
      (parsed : parse? arguments = some (.compile input options)) :
      IsAtomic view input options (runOn view arguments) := (ends_runOn parsed).isAtomic
  have failed (code : (runOn view arguments).1.exitCode ≠ 0) :
      (runOn view arguments).2 = view := by
    by_cases compiles : ∃ input options, parse? arguments = some (.compile input options)
    · obtain ⟨input, options, parsed⟩ := compiles
      exact (ends_runOn parsed).unchanged_of_failure code
    · exact uncompiled fun input options parsed => compiles ⟨input, options, parsed⟩
  exact ⟨failed, uncompiled, compiled⟩

namespace Sample

/-- An input beside settings for output on one line. -/
def configured : FileView :=
  ⟨⟨[(["a.json"], .text "[]"), (["Fieldgen.toml"], .text "output.pretty = false")], []⟩, []⟩

end Sample

theorem runOn_atomic_configured :
    Sample.configured.IsWritten (runOn Sample.configured ["a.json"]).2
        (Path.ofText "a.manifest.json") "\x7b\"version\":\"0.1.0\"\x7d" ∧
      (runOn Sample.configured ["a.json"]).2.readText (Path.ofText "a.json") = .ok "[]" := by
  have parsed : parse? ["a.json"] =
      some (.compile "a.json" { Options.none with input := some "a.json" }) := by decide +kernel
  have atomic := (runOn_atomic Sample.configured ["a.json"]).2.2 _ _ parsed
  have path : outputPath "a.json" { Options.none with input := some "a.json" } =
      Path.ofText "a.manifest.json" := by decide +kernel
  have found : prepare Sample.configured "a.json" = .ok (⟨.skip, false, some "/"⟩, []) :=
    (toOption_eq_some_iff _ _).mp (by decide +kernel)
  have written : Sample.configured.IsWritten (runOn Sample.configured ["a.json"]).2
      (Path.ofText "a.manifest.json") "\x7b\"version\":\"0.1.0\"\x7d" := by
    obtain ⟨settings, extensions, prepared, written⟩ :=
      atomic.written (by decide +kernel) rfl rfl
    rw [found] at prepared
    cases prepared
    rw [path] at written
    have text : manifestText { Options.none with input := some "a.json" }
        ⟨.skip, false, some "/"⟩ [] = "\x7b\"version\":\"0.1.0\"\x7d" := by decide +kernel
    rwa [text] at written
  exact ⟨written, atomic.keepsInput rfl⟩

namespace Sample

/-- A directory with one file, whose name has nothing but a dot before its last dot. -/
def dotted : FileView := ⟨⟨[(["..x"], .text "[]")], []⟩, []⟩

end Sample

/-- The default path of a file can be the directory above it. -/
theorem default_not_beside :
    parse? ["..x"] = some (.compile "..x" { Options.none with input := some "..x" }) ∧
      Sample.dotted.readText (Path.ofText "..x") = .ok "[]" ∧
      ¬(outputPath "..x" { Options.none with input := some "..x" }).IsBeside
        (Path.ofText "..x") ∧
      (runOn Sample.dotted ["..x"]).1 =
        ⟨1, "", "error: could not write '..': Is a directory (os error 21)\n"⟩ := by
  have above : ¬(outputPath "..x" { Options.none with input := some "..x" }).fileName?.isSome := by
    decide +kernel
  exact ⟨by decide +kernel, by rfl, fun beside => above beside.named, by decide +kernel⟩

end FieldDispatch.CommandLine
