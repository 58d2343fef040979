import FieldDispatch.CommandLine.Run
import FieldDispatch.Proofs.FileView

/-!
Where a manifest goes when no path is given: beside the input, under the name of the input with
another extension. That name is never the one of the input or of a settings file. The exception is
a name whose part before the last dot is a dot itself: there is no name to put an extension to,
and the path leads to the directory above.
-/

namespace FieldDispatch

namespace Path

theorem withoutIdleEnd_concat (above : List String) {name : String} (busy : isIdle name = false) :
    withoutIdleEnd (above ++ [name]) = above ++ [name] := by
  simp [withoutIdleEnd, busy]

theorem cut_concat (absolute : Bool) (above : List String) {name : String}
    (busy : isIdle name = false) : cut absolute (above ++ [name]) = above ++ [name] := by
  unfold cut
  split
  · next parts starts =>
      have kept := withoutIdleEnd_concat above busy
      cases above with
      | nil =>
          cases starts
          simp [isIdle] at busy
      | cons first rest =>
          obtain ⟨rfl, rfl⟩ := List.cons.inj starts
          have later := withoutIdleEnd_concat rest busy
          simp only [List.cons_append, List.append_eq] at kept later ⊢
          rw [kept, later, ite_self]
  · exact withoutIdleEnd_concat above busy

variable {path : Path} {above : List String} {name : String}

theorem fileName?_of_parts (ends : path.parts = above ++ [name]) (busy : isIdle name = false) :
    path.fileName? = if name = ".." then none else some name := by
  have notDot : name ≠ "." := by
    intro dot
    simp [isIdle, dot] at busy
  unfold fileName?
  rw [ends, cut_concat _ above busy, List.getLast?_concat]
  by_cases up : name = ".." <;> simp [Option.filter, up, notDot]

theorem parent?_of_cut (ends : cut path.absolute path.parts = above ++ [name]) :
    path.parent? = some ⟨path.absolute, cut path.absolute above⟩ := by
  unfold parent?
  rw [ends]
  split
  · next empty => simp at empty
  · next part parts remain => rw [← remain, List.dropLast_concat]

theorem parent?_of_parts (ends : path.parts = above ++ [name]) (busy : isIdle name = false) :
    path.parent? = some ⟨path.absolute, cut path.absolute above⟩ := by
  apply parent?_of_cut
  rw [ends, cut_concat _ above busy]

theorem withExtension_of_parts (ends : path.parts = above ++ [name])
    (busy : isIdle name = false) (notUp : name ≠ "..") (extension : String) :
    path.withExtension extension = ⟨path.absolute, above ++ [renamed name extension]⟩ := by
  have named := fileName?_of_parts ends busy
  rw [if_neg notUp] at named
  unfold withExtension
  rw [named, ends, cut_concat _ above busy, List.dropLast_concat]

theorem stem_of_dot {before last : List Char} (nonempty : before ≠ []) (undotted : '.' ∉ last) :
    stem (String.ofList (before ++ '.' :: last)) = String.ofList before := by
  have skipped : (before ++ '.' :: last).reverse.dropWhile (· ≠ '.') = '.' :: before.reverse := by
    have passes : ∀ c ∈ last.reverse, decide (c ≠ '.') = true := by
      intro c listed
      have present : c ∈ last := List.mem_reverse.mp listed
      have different : c ≠ '.' := ne_of_mem_of_not_mem present undotted
      simpa using different
    rw [List.reverse_append, List.reverse_cons, List.append_assoc,
      List.dropWhile_append_of_pos passes]
    simp
  unfold stem
  rw [String.toList_ofList, skipped, List.drop_one, List.tail_cons]
  split
  · next empty => simp at empty; contradiction
  · rw [List.reverse_reverse]

/-- An extension that holds a dot itself is never the one that a name has. -/
theorem renamed_ne {name : String} (notUp : name ≠ "..") (first : List Char) {last : List Char}
    (undotted : '.' ∉ last) : renamed name (String.ofList (first ++ '.' :: last)) ≠ name := by
  intro same
  by_cases dot : stem name = "."
  · rw [renamed, if_pos dot] at same
    exact notUp same.symm
  · rw [renamed, if_neg dot] at same
    -- The stem would be longer than itself by the first part of the extension.
    have joined : stem name ++ "." ++ String.ofList (first ++ '.' :: last) =
        String.ofList (((stem name).toList ++ '.' :: first) ++ '.' :: last) := by
      apply String.toList_inj.mp
      simp
    have nonempty : (stem name).toList ++ '.' :: first ≠ [] := by simp
    have read := stem_of_dot nonempty undotted
    rw [← joined, same] at read
    have longer := congrArg String.length read
    simp at longer

theorem getLast?_renamed {name : String} (named : stem name ≠ ".") {extension : String}
    (nonempty : extension ≠ "") :
    (renamed name extension).toList.getLast? = extension.toList.getLast? := by
  have lasts : extension.toList ≠ [] := by simpa using nonempty
  rw [renamed, if_neg named, String.toList_append, List.getLast?_append]
  cases held : extension.toList.getLast? with
  | none => exact absurd (List.getLast?_eq_none_iff.mp held) lasts
  | some last => rfl

/-- The extension of a manifest in two parts. -/
theorem manifestExtension_eq :
    "manifest.json" = String.ofList ("manifest".toList ++ '.' :: "json".toList) := by decide

theorem renamed_manifest_ne {name : String} (notUp : name ≠ "..") :
    renamed name "manifest.json" ≠ name := by
  rw [manifestExtension_eq]
  exact renamed_ne notUp _ (by decide)

theorem getLast?_renamed_manifest {name : String} (named : stem name ≠ ".") :
    (renamed name "manifest.json").toList.getLast? = some 'n' := by
  rw [getLast?_renamed named (by decide)]
  decide

theorem renamed_manifest_ne_settings (name : String) :
    renamed name "manifest.json" ≠ Settings.fileName := by
  intro same
  by_cases dot : stem name = "."
  · rw [renamed, if_pos dot] at same
    exact absurd same (by decide)
  · have last := getLast?_renamed_manifest dot
    rw [same] at last
    exact absurd last (by decide)

theorem renamed_manifest_eq_up_iff (name : String) :
    renamed name "manifest.json" = ".." ↔ stem name = "." := by
  constructor
  · intro up
    by_cases dot : stem name = "."
    · exact dot
    · have last := getLast?_renamed_manifest dot
      rw [up] at last
      exact absurd last (by decide)
  · intro dot
    rw [renamed, if_pos dot]

theorem isIdle_renamed_manifest (name : String) :
    isIdle (renamed name "manifest.json") = false := by
  by_cases dot : stem name = "."
  · rw [renamed, if_pos dot]
    decide
  · have last := getLast?_renamed_manifest dot
    simp only [isIdle, Bool.or_eq_false_iff, decide_eq_false_iff_not]
    constructor
    · intro empty
      rw [empty] at last
      exact absurd last (by decide)
    · intro single
      rw [single] at last
      exact absurd last (by decide)

theorem getLast?_child (directory : Path) (name : String) :
    (directory.child name).parts.getLast? = some name := by
  unfold child join
  split
  · rfl
  · split <;> simp

/-- One path beside another: in the same directory under another name. -/
structure IsBeside (path other : Path) : Prop where
  directory : path.parent? = other.parent?
  named : path.fileName?.isSome
  apart : path.fileName? ≠ other.fileName?

theorem isBeside_manifest_iff (ends : path.parts = above ++ [name]) (busy : isIdle name = false)
    (notUp : name ≠ "..") :
    (path.withExtension "manifest.json").IsBeside path ↔ stem name ≠ "." := by
  have default := withExtension_of_parts ends busy notUp "manifest.json"
  have otherEnds : (path.withExtension "manifest.json").parts =
      above ++ [renamed name "manifest.json"] := by rw [default]
  have otherNamed := fileName?_of_parts otherEnds (isIdle_renamed_manifest name)
  have named := fileName?_of_parts ends busy
  rw [if_neg notUp] at named
  simp only [renamed_manifest_eq_up_iff] at otherNamed
  constructor
  · intro beside dot
    have some := beside.named
    rw [otherNamed, if_pos dot] at some
    exact absurd some (by decide)
  · intro notDot
    rw [if_neg notDot] at otherNamed
    have apart := renamed_manifest_ne notUp
    constructor
    · rw [parent?_of_parts otherEnds (isIdle_renamed_manifest name), parent?_of_parts ends busy,
        default]
    · rw [otherNamed]
      rfl
    · rw [otherNamed, named]
      simpa using apart

end Path

namespace FileView

variable {view : FileView} {input : Path} {own : List String} {content : FileContent}

/-- The default place of a manifest is in the directory of its input, under another name. -/
theorem location_of_default (readable : view.locate input = .ok (.file own content))
    {location : List String}
    (writable : view.target (input.withExtension "manifest.json") = .ok location) :
    ∃ directory name, input.fileName? = some name ∧ Path.stem name ≠ "." ∧
      own = directory ++ [name] ∧ location = directory ++ [Path.renamed name "manifest.json"] := by
  obtain ⟨above, name, directory, ends, named, led, located⟩ :=
    exists_name_of_locate readable (by simp)
  have default := Path.withExtension_of_parts ends named.notIdle named.notUp "manifest.json"
  have placed : ∃ place, view.locate (input.withExtension "manifest.json") = .ok place ∧
      (∀ other, place ≠ .directory other) ∧ place.location = location := by
    obtain ⟨kept, found⟩ | found := locate_of_target writable
    · exact ⟨_, found, by simp, rfl⟩
    · exact ⟨_, found, by simp, rfl⟩
  obtain ⟨place, found, outside, rfl⟩ := placed
  obtain ⟨above', name', directory', ends', named', led', located'⟩ :=
    exists_name_of_locate found outside
  -- Both paths go through the same parts up to the last one, so they reach the same directory.
  rw [default] at ends' led'
  obtain ⟨rfl, sameName⟩ := List.append_inj' ends' rfl
  obtain rfl := List.singleton_inj.mp sameName
  have sameDirectory : directory = directory' := by
    have led'' := led.symm.trans led'
    simpa using led''
  have notDot : Path.stem name ≠ "." := by
    intro dot
    exact named'.notUp ((Path.renamed_manifest_eq_up_iff name).mpr dot)
  have spelled := Path.fileName?_of_parts ends named.notIdle
  rw [if_neg named.notUp] at spelled
  exact ⟨directory, name, spelled, notDot, located, by rw [located', sameDirectory]⟩

/-- Writing a manifest at its default place leaves its input as it is. -/
theorem readText_input_of_default (readable : view.locate input = .ok (.file own content))
    {location : List String}
    (writable : view.target (input.withExtension "manifest.json") = .ok location)
    (text : String) : (view.withText location text).readText input = view.readText input := by
  apply readText_withText_of_ne readable
  intro same
  obtain ⟨directory, name, -, notDot, rfl, rfl⟩ := location_of_default readable writable
  have notUp : name ≠ ".." := by
    intro up
    rw [up] at notDot
    exact notDot (by decide)
  have names : [name] = [Path.renamed name "manifest.json"] := List.append_cancel_left same
  exact Path.renamed_manifest_ne notUp (List.singleton_inj.mp names).symm

/-- Writing a manifest at its default place leaves settings files as they are. -/
theorem readText_settings_of_default (readable : view.locate input = .ok (.file own content))
    {location : List String}
    (writable : view.target (input.withExtension "manifest.json") = .ok location)
    {directory : Path} (present : view.isFile (directory.child Settings.fileName))
    (text : String) :
    (view.withText location text).readText (directory.child Settings.fileName) =
      view.readText (directory.child Settings.fileName) := by
  obtain ⟨place, kept, found⟩ :
      ∃ place kept, view.locate (directory.child Settings.fileName) = .ok (.file place kept) := by
    unfold isFile at present
    split at present
    · next place kept found => exact ⟨place, kept, found⟩
    · contradiction
  apply readText_withText_of_ne found
  rintro rfl
  obtain ⟨above, last, holder, ends, -, -, located⟩ := exists_name_of_locate found (by simp)
  have named := Path.getLast?_child directory Settings.fileName
  rw [ends, List.getLast?_concat] at named
  obtain rfl := Option.some.inj named
  obtain ⟨_, name, -, -, -, same⟩ := location_of_default readable writable
  have same' : holder ++ [Settings.fileName] = _ := located.symm.trans same
  have names := (List.append_inj' same' rfl).2
  exact Path.renamed_manifest_ne_settings name (List.singleton_inj.mp names).symm

end FileView

end FieldDispatch
