import FieldDispatch.Proofs.EffectiveSettings
import FieldDispatch.Proofs.PathNames
import Mathlib.Data.Nat.Find

/-!
The search for a settings file, from an absolute input upwards. The directory of the input comes
first and the root last. The first directory with a regular file of the right name decides alone:
what that file holds is the answer, be it an error, and no other file has a say. Only where there is
none are the settings the defaults.
-/

namespace FieldDispatch

/-- The first hit in a search downwards is the largest one. -/
theorem find?_descending {α : Type} (f : Nat → α) (p : α → Bool) {count depth : Nat}
    (inside : depth < count) (holds : p (f depth) = true)
    (larger : ∀ other, depth < other → other < count → p (f other) = false) :
    ((List.range count).reverse.map f).find? p = some (f depth) := by
  induction count with
  | zero => omega
  | succ count induction =>
      rw [range_succ_reverse, List.map_cons]
      by_cases last : depth = count
      · subst last
        rw [List.find?_cons_of_pos holds]
      · have misses := larger count (by omega) (by omega)
        rw [List.find?_cons_of_neg (by simp [misses])]
        exact induction (by omega) fun other after within => larger other after (by omega)

namespace Settings

/-- What is wrong with a text does not depend on where it was found. -/
theorem parse_eq_error {text : String} {root : Option String} {error : SettingsError}
    (wrong : parse text root = .error error) (other : Option String) :
    parse text other = .error error := by
  unfold parse at wrong ⊢
  cases read : (Toml.read? text).bind fun statements => statements.foldlM Reading.step? .start with
  | none =>
      rw [read] at wrong
      exact wrong
  | some reading =>
      rw [read] at wrong
      simp only [Reading.finish] at wrong ⊢
      split at wrong
      · contradiction
      · next name given =>
          split at wrong
          · contradiction
          · exact wrong

/-- The settings that a file in a directory gives by itself. -/
def inFile (directory : Path) : FileContent → Except SettingsError Settings
  | .text text => parse text (some directory.text)
  | .undecodable => .error (.unreadable FileFailure.notText.message)

/-- A result that is settled by a file in a directory: settings of that directory, or what is wrong
with the file. -/
structure SettledBy (result : Except SettingsError Settings) (directory : Path)
    (content : FileContent) : Prop where
  parsed : ∀ text, content = .text text → result = parse text (some directory.text)
  root : ∀ settings, result = .ok settings → settings.root = some directory.text
  wrong : ∀ text error, content = .text text → parse text none = .error error →
    result = .error error
  unreadable : content = .undecodable → result = .error (.unreadable FileFailure.notText.message)

theorem settledBy_inFile (directory : Path) (content : FileContent) :
    SettledBy (inFile directory content) directory content := by
  constructor
  · rintro text rfl
    rfl
  · intro settings success
    cases content with
    | text text => rw [eq_of_parse success]
    | undecodable => cases success
  · rintro text error rfl wrong
    exact parse_eq_error wrong _
  · rintro rfl
    rfl

end Settings

namespace FileView

/-- A regular file of some name in the directory after some names of an input. A directory of that
name is none, and a path that is refused as a whole leads to none. -/
structure HasFile (view : FileView) (input : Path) (depth : Nat) (name : String)
    (content : FileContent) : Prop where
  accepted : refusal? ((input.upTo depth).child name) = none
  descends : view.tree.Descends [] (input.names.take depth)
  regular : view.tree.isDirectory (input.names.take depth ++ [name]) = false
  held : view.tree.content? (input.names.take depth ++ [name]) = some content

/-- The directory after some names of an input is the nearest one with a settings file. -/
structure IsNearest (view : FileView) (input : Path) (depth : Nat) (content : FileContent) :
    Prop where
  above : depth < input.names.length
  holds : view.HasFile input depth Settings.fileName content
  nearest : ∀ deeper, depth < deeper → deeper < input.names.length →
    ∀ other, ¬view.HasFile input deeper Settings.fileName other

theorem isName_fileName : FileTree.IsName Settings.fileName :=
  ⟨by decide, by decide, by decide⟩

section Search

variable {view : FileView} {input : Path} {depth : Nat} (absolute : input.absolute = true)
  (noUp : ".." ∉ input.parts)

include absolute noUp

theorem locate_child_eq_file_iff (inside : depth ≤ input.names.length) {name : String}
    (named : FileTree.IsName name) {location : List String} {content : FileContent} :
    view.locate ((input.upTo depth).child name) = .ok (.file location content) ↔
      location = input.names.take depth ++ [name] ∧
        view.HasFile input depth name content := by
  have noUp' : ".." ∉ Path.firstNames depth input.parts :=
    fun up => noUp ((Path.firstNames_sublist depth input.parts).subset up)
  have start : view.start ((input.upTo depth).child name) = [] := by
    rw [FileView.start, Path.child_upTo inside, if_pos absolute]
  have leads (directory : List String) :
      view.tree.follow [] (Path.firstNames depth input.parts) = .ok (.directory directory) ↔
        directory = input.names.take depth ∧ view.tree.Descends [] (input.names.take depth) := by
    rw [FileTree.follow_eq_directory_iff noUp', Path.busyParts_firstNames, List.nil_append,
      Path.names]
  rw [locate_eq_ok_iff, start, Path.child_upTo inside, FileTree.follow_concat_eq_file_iff named,
    ← Path.child_upTo inside]
  constructor
  · rintro ⟨accepted, directory, led, rfl, placed⟩
    obtain ⟨rfl, descends⟩ := (leads directory).mp led
    obtain ⟨regular, held⟩ := FileTree.placeAt_eq_file_iff.mp placed
    exact ⟨rfl, accepted, descends, regular, held⟩
  · rintro ⟨rfl, file⟩
    exact ⟨file.accepted, _, (leads _).mpr ⟨rfl, file.descends⟩, rfl,
      FileTree.placeAt_eq_file_iff.mpr ⟨file.regular, file.held⟩⟩

theorem isFile_child_iff (inside : depth ≤ input.names.length) {name : String}
    (named : FileTree.IsName name) :
    view.isFile ((input.upTo depth).child name) = true ↔
      ∃ content, view.HasFile input depth name content := by
  rw [isFile]
  constructor
  · intro found
    split at found
    · next location content led =>
        exact ⟨content, ((locate_child_eq_file_iff absolute noUp inside named).mp led).2⟩
    · contradiction
  · rintro ⟨content, file⟩
    rw [(locate_child_eq_file_iff absolute noUp inside named).mpr ⟨rfl, file⟩]

theorem loadSettings_child (inside : depth ≤ input.names.length) {content : FileContent}
    (file : view.HasFile input depth Settings.fileName content) :
    view.loadSettings ((input.upTo depth).child Settings.fileName) =
      Settings.inFile (input.upTo depth) content := by
  have located := (locate_child_eq_file_iff absolute noUp inside isName_fileName).mpr ⟨rfl, file⟩
  rw [loadSettings, readText, located,
    Path.directoryOf_child_upTo absolute inside isName_fileName.notIdle]
  cases content <;> rfl

variable (below : input.names ≠ [])

include below

omit noUp in
theorem settingsFile?_eq :
    view.settingsFile? input =
      (((List.range input.names.length).reverse.map input.upTo).find? fun directory =>
        view.isFile (directory.child Settings.fileName)).map fun directory =>
          directory.child Settings.fileName := by
  obtain ⟨last, count⟩ := Nat.exists_eq_add_one.mpr (List.length_pos_iff.mpr below)
  rw [settingsFile?, Settings.directoryOf, Path.parent?_eq_upTo absolute count, Option.getD_some,
    Path.ancestors_upTo absolute (by omega), ← count]

theorem settingsFor_of_isNearest {content : FileContent}
    (nearest : view.IsNearest input depth content) :
    view.settingsFor input = Settings.inFile (input.upTo depth) content := by
  have inside := nearest.above.le
  have found : ((List.range input.names.length).reverse.map input.upTo).find? (fun directory =>
      view.isFile (directory.child Settings.fileName)) = some (input.upTo depth) := by
    apply find?_descending _ _ nearest.above
    · exact (isFile_child_iff absolute noUp inside isName_fileName).mpr ⟨_, nearest.holds⟩
    · intro deeper after within
      apply Bool.eq_false_iff.mpr
      intro file
      obtain ⟨other, holds⟩ :=
        (isFile_child_iff absolute noUp within.le isName_fileName).mp file
      exact nearest.nearest deeper after within other holds
  rw [settingsFor, settingsFile?_eq absolute below, found]
  exact loadSettings_child absolute noUp inside nearest.holds

theorem settingsFor_of_none
    (none : ∀ depth < input.names.length, ∀ content,
      ¬view.HasFile input depth Settings.fileName content) :
    view.settingsFor input = .ok .default := by
  have found : ((List.range input.names.length).reverse.map input.upTo).find? (fun directory =>
      view.isFile (directory.child Settings.fileName)) = .none := by
    apply List.find?_eq_none.mpr
    intro directory listed file
    obtain ⟨depth, searched, rfl⟩ := List.mem_map.mp listed
    have within := List.mem_range.mp (List.mem_reverse.mp searched)
    obtain ⟨content, holds⟩ := (isFile_child_iff absolute noUp within.le isName_fileName).mp file
    exact none depth within content holds
  rw [settingsFor, settingsFile?_eq absolute below, found]
  rfl

omit absolute noUp below in
/-- Where there is a file at all, there is a nearest one. -/
theorem exists_isNearest {content : FileContent} (above : depth < input.names.length)
    (holds : view.HasFile input depth Settings.fileName content) :
    ∃ deepest last, view.IsNearest input deepest last := by
  classical
  let searched (depth : Nat) : Prop := depth < input.names.length ∧
    ∃ content, view.HasFile input depth Settings.fileName content
  obtain ⟨within, last, found⟩ : searched (Nat.findGreatest searched input.names.length) :=
    Nat.findGreatest_spec above.le ⟨above, content, holds⟩
  refine ⟨_, last, within, found, ?_⟩
  intro deeper after inside other file
  exact Nat.findGreatest_is_greatest after inside.le ⟨inside, other, file⟩

end Search

/-- The nearest settings file of an input decides what its settings are. Only where there is none
are they the defaults. -/
theorem forInput_nearest (view : FileView) (input : Path) (absolute : input.absolute = true)
    (noUp : ".." ∉ input.parts) (below : input.names ≠ []) :
    ∃ result : Except SettingsError Settings,
      (Settings.forInput input : StateM FileView _).run view = pure (result, view) ∧
      (∀ depth content, view.IsNearest input depth content →
        Settings.SettledBy result (input.upTo depth) content ∧
          ∀ other : FileView, other.IsNearest input depth content →
            (Settings.forInput input : StateM FileView _).run other = pure (result, other)) ∧
      (result = .ok .default ↔ ∀ depth < input.names.length, ∀ content,
        ¬view.HasFile input depth Settings.fileName content) := by
  refine ⟨view.settingsFor input, run_forInput view input, ?_, ?_, ?_⟩
  · intro depth content nearest
    rw [settingsFor_of_isNearest absolute noUp below nearest]
    refine ⟨Settings.settledBy_inFile _ _, ?_⟩
    intro other nearestThere
    rw [run_forInput, settingsFor_of_isNearest absolute noUp below nearestThere]
  · intro default depth above content holds
    obtain ⟨deepest, last, nearest⟩ := exists_isNearest above holds
    rw [settingsFor_of_isNearest absolute noUp below nearest] at default
    have root := (Settings.settledBy_inFile _ _).root _ default
    cases root
  · exact settingsFor_of_none absolute noUp below

end FileView

namespace Sample

/-- Settings at the root, a settings file of some text below, and below that a directory of the same
name. -/
def nested (text : String) : FileView :=
  ⟨⟨[(["Fieldgen.toml"], .text "[output]\npretty = false"), (["a", "Fieldgen.toml"], .text text),
      (["a", "b", "types.json"], .text "[]")],
    [["a"], ["a", "b"], ["a", "b", "Fieldgen.toml"]]⟩, []⟩

def nestedInput : Path := ⟨true, ["", "a", "b", "types.json"]⟩

theorem isNearest_nested (text : String) : (nested text).IsNearest nestedInput 1 (.text text) := by
  constructor
  · decide
  · have descends : (nested text).tree.Descends [] (nestedInput.names.take 1) := by
      refine ⟨by decide, ?_⟩
      intro depth inside
      obtain rfl : depth = 0 := Nat.lt_one_iff.mp inside
      rfl
    exact ⟨by decide +kernel, descends, rfl, rfl⟩
  · intro deeper after inside other file
    have count : nestedInput.names.length = 3 := rfl
    obtain rfl : deeper = 2 := by omega
    have directory : (nested text).tree.isDirectory
        (nestedInput.names.take 2 ++ [Settings.fileName]) = true := rfl
    rw [file.regular] at directory
    contradiction

/-- The directory is passed over. The settings at the root do not stand in for a file that is
malformed or names an unknown policy, nor do they add to one that is empty or gives other
settings. -/
theorem forInput_nearest_nested :
    (Settings.forInput nestedInput : StateM FileView _).run (nested "pretty") =
        pure (.error .malformed, nested "pretty") ∧
      (Settings.forInput nestedInput : StateM FileView _).run (nested "compiler = ['often']") =
        pure (.error (.unknownPolicy "often"), nested "compiler = ['often']") ∧
      (Settings.forInput nestedInput : StateM FileView _).run (nested "") =
        pure (.ok ⟨.skip, true, some "//a"⟩, nested "") ∧
      (Settings.forInput nestedInput : StateM FileView _).run (nested "compiler = ['warn']") =
        pure (.ok ⟨.warn, true, some "//a"⟩, nested "compiler = ['warn']") := by
  have named : nestedInput.names ≠ [] := by decide
  have decides (text : String) :=
    FileView.forInput_nearest (nested text) nestedInput rfl (by decide) named
  have refuses {text : String} {error : SettingsError}
      (wrong : Settings.parse text none = .error error) :
      (Settings.forInput nestedInput : StateM FileView _).run (nested text) =
        pure (.error error, nested text) := by
    obtain ⟨result, run, decided, -⟩ := decides text
    rw [run, (decided 1 _ (isNearest_nested _)).1.wrong _ _ rfl wrong]
  have loads {text : String} {settings : Settings}
      (given : Settings.parse text (some (nestedInput.upTo 1).text) = .ok settings) :
      (Settings.forInput nestedInput : StateM FileView _).run (nested text) =
        pure (.ok settings, nested text) := by
    obtain ⟨result, run, decided, -⟩ := decides text
    rw [run, (decided 1 _ (isNearest_nested _)).1.parsed _ rfl, given]
  exact ⟨refuses (by decide +kernel), refuses (by decide +kernel), loads (by decide +kernel),
    loads (by decide +kernel)⟩

end Sample

end FieldDispatch
