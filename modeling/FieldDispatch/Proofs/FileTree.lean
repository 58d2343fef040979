import FieldDispatch.FileSystem.Tree

/-!
Following paths through a tree in which one file is written. Directories stay, so a path leads
where it led before; what it finds there differs only at the place that was written. A path to a
file, or to a place where one can be made, ends in the name of that place.
-/

namespace FieldDispatch

namespace FileTree

theorem content?_writeFile (location other : List String) (content : FileContent)
    (files : List (List String × FileContent)) :
    ((writeFile location content files).find? fun file => file.1 = other).map Prod.snd =
      if other = location then some content
      else (files.find? fun file => file.1 = other).map Prod.snd := by
  induction files with
  | nil =>
      by_cases same : location = other
      · simp [writeFile, same]
      · have different : other ≠ location := fun equal => same equal.symm
        simp [writeFile, same, different]
  | cons file rest induction =>
      obtain ⟨place, kept⟩ := file
      rw [writeFile]
      by_cases here : place = location
      · rw [if_pos here]
        by_cases same : location = other
        · simp [same]
        · have different : other ≠ location := fun equal => same equal.symm
          simp [here, same, different]
      · rw [if_neg here]
        by_cases found : place = other
        · have different : other ≠ location := fun equal => here (found.trans equal)
          simp [found, different]
        · simp [found, induction]

@[simp]
theorem content?_withFile (tree : FileTree) (location other : List String)
    (content : FileContent) :
    (tree.withFile location content).content? other =
      if other = location then some content else tree.content? other :=
  content?_writeFile location other content tree.files

@[simp]
theorem isDirectory_withFile (tree : FileTree) (location other : List String)
    (content : FileContent) :
    (tree.withFile location content).isDirectory other = tree.isDirectory other := rfl

/-- A part that names something in a directory. -/
structure IsName (part : String) : Prop where
  notIdle : Path.isIdle part = false
  notUp : part ≠ ".."
  short : part.utf8ByteSize ≤ longestName

/-- What is at a location. -/
def placeAt (tree : FileTree) (location : List String) : Place :=
  if tree.isDirectory location then .directory location
  else
    match tree.content? location with
    | some content => .file location content
    | none => .absent location

def Place.location : Place → List String
  | .directory location => location
  | .file location _ => location
  | .absent location => location

@[simp]
theorem location_placeAt (tree : FileTree) (location : List String) :
    (tree.placeAt location).location = location := by
  unfold placeAt
  split
  · rfl
  · cases tree.content? location <;> rfl

theorem follow_name (tree : FileTree) (location : List String) {name : String}
    (named : IsName name) :
    tree.follow location [name] = .ok (tree.placeAt (location ++ [name])) := by
  have short : ¬longestName < name.utf8ByteSize := Nat.not_lt.mpr named.short
  have notIdle := named.notIdle
  unfold follow placeAt
  simp only [notIdle, Bool.false_eq_true, if_false, if_neg named.notUp, if_neg short]
  split
  · rfl
  · cases tree.content? (location ++ [name]) <;> rfl

/-- A part that is no name leads to the same directory in every tree, or nowhere. -/
theorem isName_or_follow (start : List String) (part : String) :
    IsName part ∨ (∃ next, ∀ tree : FileTree, tree.follow start [part] = .ok (.directory next)) ∨
      ∃ failure, ∀ tree : FileTree, tree.follow start [part] = .error failure := by
  by_cases idle : Path.isIdle part
  · exact .inr (.inl ⟨start, fun tree => by simp only [follow, if_pos idle]⟩)
  by_cases up : part = ".."
  · exact .inr (.inl ⟨start.dropLast, fun tree => by simp only [follow, if_neg idle, if_pos up]⟩)
  by_cases long : longestName < part.utf8ByteSize
  · have refused (tree : FileTree) : tree.follow start [part] = .error .nameTooLong := by
      simp only [follow, if_neg idle, if_neg up, if_pos long]
    exact .inr (.inr ⟨_, refused⟩)
  · exact .inl ⟨by simpa using idle, up, Nat.le_of_not_lt long⟩

/-- Why a path does not go on at a place that is no directory. -/
def Place.obstacle : Place → FileFailure
  | .directory _ => .notDirectory
  | .file _ _ => .notDirectory
  | .absent _ => .missing

/-- Following a path is following its first part, and from a directory the others. -/
theorem follow_cons (tree : FileTree) (location : List String) (part : String)
    (rest : List String) :
    tree.follow location (part :: rest) =
      match tree.follow location [part] with
      | .ok (.directory next) => tree.follow next rest
      | .ok place => if rest.isEmpty then .ok place else .error place.obstacle
      | .error failure => .error failure := by
  by_cases idle : Path.isIdle part
  · simp only [follow, if_pos idle]
  by_cases up : part = ".."
  · simp only [follow, if_neg idle, if_pos up]
  by_cases long : longestName < part.utf8ByteSize
  · simp only [follow, if_neg idle, if_neg up, if_pos long]
  · have named : IsName part := ⟨by simpa using idle, up, Nat.le_of_not_lt long⟩
    rw [follow_name tree location named]
    simp only [follow, if_neg idle, if_neg up, if_neg long, placeAt]
    by_cases directory : tree.isDirectory (location ++ [part])
    · simp only [if_pos directory]
    · simp only [if_neg directory]
      cases tree.content? (location ++ [part]) <;> rfl

theorem follow_append {tree : FileTree} {start reached : List String} {parts : List String}
    (found : tree.follow start parts = .ok (.directory reached)) (more : List String) :
    tree.follow start (parts ++ more) = tree.follow reached more := by
  induction parts generalizing start with
  | nil =>
      cases found
      rfl
  | cons part rest induction =>
      rw [follow_cons] at found
      rw [List.cons_append, follow_cons]
      cases entered : tree.follow start [part] with
      | error failure => simp [entered] at found
      | ok place =>
          rw [entered] at found
          cases place with
          | directory next => exact induction found
          | file location content => cases rest <;> simp at found
          | absent location => cases rest <;> simp at found

/-- Only a name leads from a directory to something that is no directory. -/
theorem isName_of_follow {tree : FileTree} {start : List String} {part : String} {place : Place}
    (entered : tree.follow start [part] = .ok place)
    (outside : ∀ location, place ≠ .directory location) : IsName part := by
  obtain named | ⟨next, led⟩ | ⟨failure, refused⟩ := isName_or_follow start part
  · exact named
  · have same : place = .directory next := Except.ok.inj (entered.symm.trans (led tree))
    exact absurd same (outside next)
  · rw [refused] at entered
    cases entered

/-- What is no directory stands under the last part of the path that leads there. -/
theorem exists_name_of_follow {tree : FileTree} {start parts : List String} {place : Place}
    (found : tree.follow start parts = .ok place)
    (outside : ∀ location, place ≠ .directory location) :
    ∃ above name directory, parts = above ++ [name] ∧ IsName name ∧
      tree.follow start above = .ok (.directory directory) ∧
      place.location = directory ++ [name] := by
  induction parts generalizing start with
  | nil =>
      cases found
      exact absurd rfl (outside start)
  | cons part rest induction =>
      cases rest with
      | nil =>
          have named := isName_of_follow found outside
          have placed := Except.ok.inj (found.symm.trans (follow_name tree start named))
          have located : place.location = start ++ [part] := by
            rw [placed, location_placeAt]
          exact ⟨[], part, start, rfl, named, rfl, located⟩
      | cons next more =>
          rw [follow_cons] at found
          cases entered : tree.follow start [part] with
          | error failure => simp [entered] at found
          | ok first =>
              rw [entered] at found
              cases first with
              | directory reached =>
                  obtain ⟨above, name, directory, same, named, led, placed⟩ := induction found
                  rw [same]
                  have leads : tree.follow start (part :: above) = .ok (.directory directory) := by
                    rw [follow_cons, entered]
                    exact led
                  exact ⟨part :: above, name, directory, rfl, named, leads, placed⟩
              | file => simp at found
              | absent => simp at found

theorem content?_of_file {tree : FileTree} {start parts location : List String}
    {content : FileContent} (found : tree.follow start parts = .ok (.file location content)) :
    tree.content? location = some content := by
  obtain ⟨above, name, directory, rfl, named, led, located⟩ := exists_name_of_follow found (by simp)
  have ends := follow_append led [name]
  rw [found, follow_name tree directory named, ← located] at ends
  have placed := Except.ok.inj ends
  unfold placeAt at placed
  split at placed
  · contradiction
  · split at placed
    · next kept held =>
        cases placed
        exact held
    · contradiction

/-- A place after a file was written. -/
def Place.withFile (location : List String) (content : FileContent) : Place → Place
  | .directory other => .directory other
  | .file other kept => .file other (if other = location then content else kept)
  | .absent other => if other = location then .file other content else .absent other

theorem placeAt_withFile (tree : FileTree) (location other : List String)
    (content : FileContent) :
    (tree.withFile location content).placeAt other =
      (tree.placeAt other).withFile location content := by
  unfold placeAt
  rw [isDirectory_withFile, content?_withFile]
  split
  · rfl
  · by_cases same : other = location
    · cases tree.content? other <;> simp [Place.withFile, same]
    · cases tree.content? other <;> simp [Place.withFile, same]

theorem follow_single_withFile (tree : FileTree) (start : List String) (part : String)
    (location : List String) (content : FileContent) :
    (tree.withFile location content).follow start [part] =
      (tree.follow start [part]).map (Place.withFile location content) := by
  obtain named | ⟨next, led⟩ | ⟨failure, refused⟩ := isName_or_follow start part
  · rw [follow_name _ start named, follow_name _ start named, placeAt_withFile]
    rfl
  · rw [led, led]
    rfl
  · rw [refused, refused]
    rfl

/-- A path that led somewhere leads there after a file was written. -/
theorem follow_withFile {tree : FileTree} {start parts : List String} {place : Place}
    (found : tree.follow start parts = .ok place) (location : List String)
    (content : FileContent) :
    (tree.withFile location content).follow start parts =
      .ok (place.withFile location content) := by
  induction parts generalizing start with
  | nil =>
      cases found
      rfl
  | cons part rest induction =>
      cases rest with
      | nil =>
          rw [follow_single_withFile, found]
          rfl
      | cons next more =>
          rw [follow_cons] at found ⊢
          rw [follow_single_withFile]
          cases entered : tree.follow start [part] with
          | error failure => simp [entered] at found
          | ok first =>
              rw [entered] at found
              cases first with
              | directory reached => exact induction found
              | file => simp at found
              | absent => simp at found

/-- What kind of place a path leads to, and where it is. -/
inductive Kind where
  | directory (location : List String)
  | file (location : List String)
  | absent (location : List String)

def Place.kind : Place → Kind
  | .directory location => .directory location
  | .file location _ => .file location
  | .absent location => .absent location

/-- Two trees with the same directories and files, whatever the files hold. -/
structure SameShape (first second : FileTree) : Prop where
  directories : ∀ location, first.isDirectory location = second.isDirectory location
  files : ∀ location, (first.content? location).isSome = (second.content? location).isSome

namespace SameShape

variable {first second : FileTree}

theorem kind_placeAt (shape : SameShape first second) (location : List String) :
    (first.placeAt location).kind = (second.placeAt location).kind := by
  have files := shape.files location
  unfold placeAt
  rw [shape.directories]
  split
  · rfl
  · cases held : first.content? location <;> cases other : second.content? location <;>
      simp [held, other] at files <;> rfl

theorem kind_follow_single (shape : SameShape first second) (start : List String)
    (part : String) :
    (first.follow start [part]).map Place.kind = (second.follow start [part]).map Place.kind := by
  obtain named | ⟨next, led⟩ | ⟨failure, refused⟩ := isName_or_follow start part
  · rw [follow_name _ start named, follow_name _ start named]
    exact congrArg Except.ok (shape.kind_placeAt _)
  · rw [led, led]
  · rw [refused, refused]

/-- Where a path leads, and what is in its way, does not depend on what files hold. -/
theorem kind_follow (shape : SameShape first second) (start parts : List String) :
    (first.follow start parts).map Place.kind = (second.follow start parts).map Place.kind := by
  induction parts generalizing start with
  | nil => rfl
  | cons part rest induction =>
      have step := shape.kind_follow_single start part
      rw [follow_cons, follow_cons second start part rest]
      cases entered : first.follow start [part] with
      | error failure =>
          cases other : second.follow start [part] with
          | error failure' =>
              rw [entered, other] at step
              exact step
          | ok place => simp [entered, other, Except.map] at step
      | ok place =>
          cases other : second.follow start [part] with
          | error failure => simp [entered, other, Except.map] at step
          | ok place' =>
              rw [entered, other] at step
              have kinds : place.kind = place'.kind := Except.ok.inj step
              cases place <;> cases place' <;> cases kinds
              case directory.directory.refl next => exact induction next
              all_goals cases rest <;> rfl

end SameShape

end FileTree

end FieldDispatch
