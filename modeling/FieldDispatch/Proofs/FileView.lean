import FieldDispatch.Proofs.FileTree

/-!
Writing through paths. A successful write makes one location hold the text and leaves the rest as
it was; the path reads the text back. Where that is does not depend on what any file holds.
-/

namespace FieldDispatch

open FileTree

namespace FileView

/-- What is wrong with a path by itself. -/
def refusal? (path : Path) : Option FileFailure :=
  if path.text = "" then some .missing
  else if path.text.toList.contains '\x00' then some .zeroCharacter
  else if pathLimit ≤ path.text.utf8ByteSize then some .nameTooLong
  else none

/-- Where a path starts. -/
def start (view : FileView) (path : Path) : List String :=
  if path.absolute then [] else view.current

theorem follow_eq (view : FileView) (path : Path) (parts : List String) :
    view.follow path parts =
      match refusal? path with
      | some failure => .error failure
      | none => view.tree.follow (view.start path) parts := by
  unfold follow refusal? start
  repeat (split; · simp)
  rfl

theorem locate_eq_ok_iff {view : FileView} {path : Path} {place : Place} :
    view.locate path = .ok place ↔
      refusal? path = none ∧ view.tree.follow (view.start path) path.parts = .ok place := by
  rw [locate, follow_eq]
  cases refusal? path <;> simp

/-- A path to what is no directory ends in a name. -/
theorem exists_name_of_locate {view : FileView} {path : Path} {place : Place}
    (found : view.locate path = .ok place) (outside : ∀ location, place ≠ .directory location) :
    ∃ above name directory, path.parts = above ++ [name] ∧ IsName name ∧
      view.tree.follow (view.start path) above = .ok (.directory directory) ∧
      place.location = directory ++ [name] := by
  obtain ⟨-, led⟩ := locate_eq_ok_iff.mp found
  exact exists_name_of_follow led outside

theorem readText_eq_ok_iff {view : FileView} {path : Path} {text : String} :
    view.readText path = .ok text ↔
      ∃ location, view.locate path = .ok (.file location (.text text)) := by
  unfold readText
  rcases view.locate path with failure | (_ | ⟨location, _ | _⟩ | _) <;> simp

/-- A view after a file was written. -/
def withText (view : FileView) (location : List String) (text : String) : FileView :=
  { view with tree := view.tree.withFile location (.text text) }

/-- The location that a path is written at. -/
def target (view : FileView) (path : Path) : Except FileFailure (List String) :=
  if path.parts.getLast? = some "" then .error (view.writeToDirectory path)
  else
    match view.locate path with
    | .error failure => .error failure
    | .ok (.file location _) => .ok location
    | .ok (.absent location) => .ok location
    | .ok (.directory _) => .error .isDirectory

theorem writeText_eq (view : FileView) (path : Path) (text : String) :
    view.writeText path text =
      (view.target path).map fun location => view.withText location text := by
  unfold writeText target withText
  split
  · rfl
  · rcases view.locate path with failure | (_ | _ | _) <;> rfl

theorem locate_of_target {view : FileView} {path : Path} {location : List String}
    (writable : view.target path = .ok location) :
    (∃ content, view.locate path = .ok (.file location content)) ∨
      view.locate path = .ok (.absent location) := by
  unfold target at writable
  split at writable
  · contradiction
  · rcases found : view.locate path with failure | (_ | ⟨other, content⟩ | other) <;>
      rw [found] at writable <;> cases writable
    · exact .inl ⟨content, rfl⟩
    · exact .inr rfl

theorem locate_withText {view : FileView} {path : Path} {place : Place}
    (found : view.locate path = .ok place) (location : List String) (text : String) :
    (view.withText location text).locate path = .ok (place.withFile location (.text text)) := by
  obtain ⟨inOrder, led⟩ := locate_eq_ok_iff.mp found
  exact locate_eq_ok_iff.mpr ⟨inOrder, follow_withFile led location _⟩

theorem readText_withText_of_locate {view : FileView} {path : Path} {location : List String}
    {content : FileContent} (found : view.locate path = .ok (.file location content))
    (text : String) : (view.withText location text).readText path = .ok text := by
  unfold readText
  rw [locate_withText found location text]
  simp [Place.withFile]

/-- A path reads back what was written through it. -/
theorem readText_withText_target {view : FileView} {path : Path} {location : List String}
    (writable : view.target path = .ok location) (text : String) :
    (view.withText location text).readText path = .ok text := by
  obtain ⟨content, found⟩ | found := locate_of_target writable
  · exact readText_withText_of_locate found text
  · unfold readText
    rw [locate_withText found location text]
    simp [Place.withFile]

/-- A file reads as before when another one was written. -/
theorem readText_withText_of_ne {view : FileView} {path : Path} {other : List String}
    {content : FileContent} (found : view.locate path = .ok (.file other content))
    {location : List String} (apart : other ≠ location) (text : String) :
    (view.withText location text).readText path = view.readText path := by
  unfold readText
  rw [locate_withText found location text, found]
  simp [Place.withFile, apart]

/-- After a write through a path, only the file that it leads to is another. -/
structure IsWritten (before after : FileView) (path : Path) (text : String) : Prop where
  reads : after.readText path = .ok text
  elsewhere : ∀ location, before.target path ≠ .ok location →
    after.tree.content? location = before.tree.content? location
  directories : after.tree.directories = before.tree.directories
  current : after.current = before.current

theorem isWritten_withText {view : FileView} {path : Path} {location : List String}
    (writable : view.target path = .ok location) (text : String) :
    IsWritten view (view.withText location text) path text where
  reads := readText_withText_target writable text
  elsewhere other apart := by
    have different : other ≠ location := by
      intro same
      rw [same] at apart
      exact apart writable
    simp [withText, different]
  directories := rfl
  current := rfl

/-- Two views with the same directories and files from the same directory. -/
structure SameShape (first second : FileView) : Prop where
  tree : FileTree.SameShape first.tree second.tree
  current : first.current = second.current

namespace SameShape

variable {first second : FileView}

theorem kind_follow (shape : SameShape first second) (path : Path) (parts : List String) :
    (first.follow path parts).map Place.kind = (second.follow path parts).map Place.kind := by
  have starts : first.start path = second.start path := by rw [start, start, shape.current]
  rw [follow_eq, follow_eq, starts]
  cases refusal? path with
  | some failure => rfl
  | none => exact shape.tree.kind_follow _ _

/-- A path leads to the same place in both views, or to files that hold different things. -/
theorem follow_eq_or (shape : SameShape first second) (path : Path) (parts : List String) :
    first.follow path parts = second.follow path parts ∨
      ∃ location content content', first.follow path parts = .ok (.file location content) ∧
        second.follow path parts = .ok (.file location content') := by
  have kinds := shape.kind_follow path parts
  cases led : first.follow path parts with
  | error failure =>
      cases other : second.follow path parts <;> rw [led, other] at kinds <;> cases kinds
      exact .inl rfl
  | ok place =>
      cases other : second.follow path parts with
      | error failure =>
          rw [led, other] at kinds
          cases kinds
      | ok place' =>
          rw [led, other] at kinds
          have same : place.kind = place'.kind := Except.ok.inj kinds
          cases place <;> cases place' <;> cases same
          case file.file.refl location content content' =>
            exact .inr ⟨location, content, content', rfl, rfl⟩
          all_goals exact .inl rfl

theorem target_eq (shape : SameShape first second) (path : Path) :
    first.target path = second.target path := by
  have refusals : first.writeToDirectory path = second.writeToDirectory path := by
    obtain same | ⟨_, _, _, led, other⟩ :=
      shape.follow_eq_or path (path.parts.reverse.dropWhile (· = "")).reverse.dropLast
    · simp only [writeToDirectory, same]
    · simp only [writeToDirectory, led, other]
  unfold target locate
  rw [refusals]
  obtain same | ⟨_, _, _, led, other⟩ := shape.follow_eq_or path path.parts
  · rw [same]
  · rw [led, other]

theorem isFile_eq (shape : SameShape first second) (path : Path) :
    first.isFile path = second.isFile path := by
  unfold isFile locate
  obtain same | ⟨_, _, _, led, other⟩ := shape.follow_eq_or path path.parts
  · rw [same]
  · rw [led, other]

theorem canonical?_eq (shape : SameShape first second) (path : Path) :
    first.canonical? path = second.canonical? path := by
  unfold canonical? locate
  obtain same | ⟨_, _, _, led, other⟩ := shape.follow_eq_or path path.parts
  · rw [same]
  · rw [led, other]

end SameShape

theorem sameShape_withText {view : FileView} {path : Path} {location : List String}
    {content : FileContent} (found : view.locate path = .ok (.file location content))
    (text : String) : SameShape view (view.withText location text) where
  tree := by
    obtain ⟨-, led⟩ := locate_eq_ok_iff.mp found
    have held := content?_of_file led
    constructor
    · intro other
      rfl
    · intro other
      by_cases same : other = location
      · simp [withText, same, held]
      · simp [withText, same]
  current := rfl

end FileView

end FieldDispatch
