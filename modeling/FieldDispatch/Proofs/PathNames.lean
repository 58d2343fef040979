import FieldDispatch.Proofs.OutputPath

/-!
Absolute paths by their names. The directories above a path are the path cut short after each of its
names, with what stands idly between them. A path without steps upwards leads to a directory if its
names do, one below the other.
-/

namespace FieldDispatch

theorem range_succ_reverse (count : Nat) :
    (List.range (count + 1)).reverse = count :: (List.range count).reverse := by
  rw [List.range_succ, List.reverse_append]
  rfl

namespace Path

/-- The parts that lead somewhere. -/
def busyParts (parts : List String) : List String := parts.filter fun part => !isIdle part

def names (path : Path) : List String := busyParts path.parts

/-- Parts up to one of their names, with the idle parts before it. -/
def firstNames : Nat → List String → List String
  | 0, _ => []
  | _ + 1, [] => []
  | count + 1, part :: rest =>
      part :: if isIdle part then firstNames (count + 1) rest else firstNames count rest

/-- The directory that the first names of a path lead to. -/
def upTo (path : Path) (depth : Nat) : Path := ⟨path.absolute, firstNames depth path.parts⟩

section Cons

variable {part : String} {rest : List String}

theorem busyParts_cons_of_idle (idle : isIdle part = true) :
    busyParts (part :: rest) = busyParts rest := by
  rw [busyParts, List.filter_cons_of_neg (by simp [idle]), busyParts]

theorem busyParts_cons_of_busy (busy : isIdle part = false) :
    busyParts (part :: rest) = part :: busyParts rest := by
  rw [busyParts, List.filter_cons_of_pos (by simp [busy]), busyParts]

theorem firstNames_cons_of_idle (idle : isIdle part = true) (count : Nat) :
    firstNames (count + 1) (part :: rest) = part :: firstNames (count + 1) rest := by
  rw [firstNames, if_pos idle]

theorem firstNames_cons_of_busy (busy : isIdle part = false) (count : Nat) :
    firstNames (count + 1) (part :: rest) = part :: firstNames count rest := by
  rw [firstNames, if_neg (by simp [busy])]

theorem withoutIdleEnd_cons_of_nil (idle : isIdle part = true) (ends : withoutIdleEnd rest = []) :
    withoutIdleEnd (part :: rest) = [] := by
  have dropped : rest.reverse.dropWhile isIdle = [] := List.reverse_eq_nil_iff.mp ends
  simp [withoutIdleEnd, List.dropWhile_append, dropped, idle]

theorem withoutIdleEnd_cons (kept : isIdle part = false ∨ withoutIdleEnd rest ≠ []) :
    withoutIdleEnd (part :: rest) = part :: withoutIdleEnd rest := by
  unfold withoutIdleEnd at kept ⊢
  rw [List.reverse_cons, List.dropWhile_append]
  cases remain : rest.reverse.dropWhile isIdle with
  | nil =>
      have busy : isIdle part = false := by simpa [remain] using kept
      simp [busy]
  | cons last more => simp

end Cons

theorem firstNames_zero (parts : List String) : firstNames 0 parts = [] := by
  cases parts <;> rfl

theorem firstNames_succ_ne_nil (count : Nat) {parts : List String} (some : busyParts parts ≠ []) :
    firstNames (count + 1) parts ≠ [] := by
  cases parts with
  | nil => exact absurd rfl some
  | cons part rest => simp [firstNames]

theorem busyParts_firstNames (count : Nat) (parts : List String) :
    busyParts (firstNames count parts) = (busyParts parts).take count := by
  induction parts generalizing count with
  | nil => cases count <;> rfl
  | cons part rest induction =>
      cases count with
      | zero => rfl
      | succ count =>
          cases idle : isIdle part with
          | true =>
              rw [firstNames_cons_of_idle idle, busyParts_cons_of_idle idle,
                busyParts_cons_of_idle idle, induction]
          | false =>
              rw [firstNames_cons_of_busy idle, busyParts_cons_of_busy idle,
                busyParts_cons_of_busy idle, induction, List.take_succ_cons]

theorem firstNames_sublist (count : Nat) (parts : List String) :
    (firstNames count parts).Sublist parts := by
  induction parts generalizing count with
  | nil => cases count <;> exact .slnil
  | cons part rest induction =>
      cases count with
      | zero => exact List.nil_sublist _
      | succ count =>
          rw [firstNames]
          split
          · exact (induction (count + 1)).cons_cons part
          · exact (induction count).cons_cons part

/-- Parts up to a name end in it, and what stands before it is the parts up to the name before, but
for idle ones. -/
theorem firstNames_succ {count : Nat} {parts : List String}
    (more : count < (busyParts parts).length) :
    ∃ above name, firstNames (count + 1) parts = above ++ [name] ∧ isIdle name = false ∧
      withoutIdleEnd above = firstNames count parts := by
  induction parts generalizing count with
  | nil => contradiction
  | cons part rest induction =>
      cases idle : isIdle part with
      | true =>
          rw [busyParts_cons_of_idle idle] at more
          obtain ⟨above, name, ends, busy, before⟩ := induction more
          refine ⟨part :: above, name, ?_, busy, ?_⟩
          · rw [firstNames_cons_of_idle idle, ends, List.cons_append]
          · cases count with
            | zero => exact withoutIdleEnd_cons_of_nil idle (before.trans (firstNames_zero rest))
            | succ count =>
                have some : busyParts rest ≠ [] := List.ne_nil_of_length_pos (by omega)
                have kept := firstNames_succ_ne_nil count some
                rw [← before] at kept
                rw [withoutIdleEnd_cons (.inr kept), before, firstNames_cons_of_idle idle]
      | false =>
          rw [busyParts_cons_of_busy idle, List.length_cons] at more
          cases count with
          | zero =>
              refine ⟨[], part, ?_, idle, rfl⟩
              rw [firstNames_cons_of_busy idle, firstNames_zero, List.nil_append]
          | succ count =>
              obtain ⟨above, name, ends, busy, before⟩ := induction (Nat.lt_of_succ_lt_succ more)
              refine ⟨part :: above, name, ?_, busy, ?_⟩
              · rw [firstNames_cons_of_busy idle, ends, List.cons_append]
              · rw [withoutIdleEnd_cons (.inl idle), before, firstNames_cons_of_busy idle]

/-- With all the names, only the idle parts at the end are missing. -/
theorem firstNames_length (parts : List String) :
    firstNames (busyParts parts).length parts = withoutIdleEnd parts := by
  induction parts with
  | nil => rfl
  | cons part rest induction =>
      cases idle : isIdle part with
      | true =>
          rw [busyParts_cons_of_idle idle]
          cases length : (busyParts rest).length with
          | zero =>
              rw [length, firstNames_zero] at induction
              rw [firstNames_zero, withoutIdleEnd_cons_of_nil idle induction.symm]
          | succ count =>
              have some : busyParts rest ≠ [] := List.ne_nil_of_length_pos (by omega)
              have kept := firstNames_succ_ne_nil count some
              rw [length] at induction
              rw [induction] at kept
              rw [firstNames_cons_of_idle idle, induction, withoutIdleEnd_cons (.inr kept)]
      | false =>
          rw [busyParts_cons_of_busy idle, List.length_cons, firstNames_cons_of_busy idle,
            induction, withoutIdleEnd_cons (.inl idle)]

/-! ## The directories above -/

section Ancestors

theorem ancestors_of_parent? {path above : Path} (found : path.parent? = some above) :
    path.ancestors = path :: above.ancestors := by
  rw [ancestors]
  split
  · next none =>
      rw [none] at found
      contradiction
  · next other some =>
      rw [some] at found
      cases found
      rfl

theorem ancestors_of_top {path : Path} (top : path.parent? = none) : path.ancestors = [path] := by
  rw [ancestors]
  split
  · rfl
  · next above some =>
      rw [some] at top
      contradiction

theorem cut_true (parts : List String) : cut true parts = withoutIdleEnd parts := by
  unfold cut
  split <;> rfl

variable {path : Path} (absolute : path.absolute = true)

include absolute

theorem parent?_upTo {depth : Nat} (inside : depth < path.names.length) :
    (path.upTo (depth + 1)).parent? = some (path.upTo depth) := by
  obtain ⟨above, name, ends, busy, before⟩ := firstNames_succ inside
  have parts : (path.upTo (depth + 1)).parts = above ++ [name] := ends
  rw [parent?_of_parts parts busy, upTo, upTo, absolute, cut_true, before]

/-- The directories above come one name after the other, down to no names at all. -/
theorem ancestors_upTo {depth : Nat} (inside : depth ≤ path.names.length) :
    (path.upTo depth).ancestors = (List.range (depth + 1)).reverse.map path.upTo := by
  induction depth with
  | zero =>
      have root : path.upTo 0 = ⟨true, []⟩ := by rw [upTo, absolute, firstNames_zero]
      rw [ancestors_of_top (by rw [root]; rfl)]
      rfl
  | succ depth induction =>
      rw [ancestors_of_parent? (parent?_upTo absolute inside), induction (Nat.le_of_succ_le inside),
        range_succ_reverse (depth + 1), List.map_cons]

theorem parent?_eq_upTo {depth : Nat} (count : path.names.length = depth + 1) :
    path.parent? = some (path.upTo depth) := by
  have last : depth < path.names.length := by omega
  obtain ⟨above, name, ends, busy, before⟩ := firstNames_succ last
  have whole := firstNames_length path.parts
  rw [← names, count, ends] at whole
  rw [parent?_of_cut (by rw [absolute, cut_true, ← whole]), absolute, cut_true, before, upTo,
    absolute]

end Ancestors

theorem getLast?_upTo_ne {path : Path} {depth : Nat} (inside : depth ≤ path.names.length) :
    (path.upTo depth).parts.getLast? ≠ some "" := by
  cases depth with
  | zero => simp [upTo, firstNames_zero]
  | succ depth =>
      obtain ⟨above, name, ends, busy, -⟩ := firstNames_succ inside
      rw [upTo, ends, List.getLast?_concat]
      rintro ⟨rfl⟩
      simp [isIdle] at busy

theorem child_upTo {path : Path} {depth : Nat} (inside : depth ≤ path.names.length)
    (name : String) :
    (path.upTo depth).child name = ⟨path.absolute, firstNames depth path.parts ++ [name]⟩ := by
  rw [child, join, if_neg Bool.false_ne_true, if_neg (getLast?_upTo_ne inside)]
  rfl

theorem directoryOf_child_upTo {path : Path} (absolute : path.absolute = true) {depth : Nat}
    (inside : depth ≤ path.names.length) {name : String} (busy : isIdle name = false) :
    Settings.directoryOf ((path.upTo depth).child name) = path.upTo depth := by
  have kept : cut true (firstNames depth path.parts) = firstNames depth path.parts := by
    rw [cut_true]
    cases depth with
    | zero => rw [firstNames_zero]; rfl
    | succ depth =>
        obtain ⟨above, last, ends, lastBusy, -⟩ := firstNames_succ inside
        rw [ends, withoutIdleEnd_concat above lastBusy]
  have ends : ((path.upTo depth).child name).parts = firstNames depth path.parts ++ [name] := by
    rw [child_upTo inside]
  rw [Settings.directoryOf, parent?_of_parts ends busy, child_upTo inside, absolute, kept, upTo,
    absolute]
  rfl

end Path

namespace FileTree

/-- Names that lead down from a directory through directories. -/
structure Descends (tree : FileTree) (start names : List String) : Prop where
  short : ∀ name ∈ names, name.utf8ByteSize ≤ longestName
  directories : ∀ depth < names.length, tree.isDirectory (start ++ names.take (depth + 1)) = true

theorem descends_nil (tree : FileTree) (start : List String) : tree.Descends start [] :=
  ⟨by simp, by simp⟩

theorem descends_cons {tree : FileTree} {start rest : List String} {name : String} :
    tree.Descends start (name :: rest) ↔
      name.utf8ByteSize ≤ longestName ∧ tree.isDirectory (start ++ [name]) = true ∧
        tree.Descends (start ++ [name]) rest := by
  constructor
  · rintro ⟨short, directories⟩
    refine ⟨short name List.mem_cons_self, by simpa using directories 0, ?_, ?_⟩
    · intro other later
      exact short other (List.mem_cons_of_mem _ later)
    · intro depth inside
      simpa using directories (depth + 1) (by simpa using inside)
  · rintro ⟨short, directory, later⟩
    constructor
    · intro other listed
      cases listed with
      | head => exact short
      | tail _ listed => exact later.short other listed
    · intro depth inside
      cases depth with
      | zero => simpa using directory
      | succ depth => simpa using later.directories depth (by simpa using inside)

variable {tree : FileTree} {start reached parts : List String}

/-- Without steps upwards a path leads to a directory by its names alone. -/
theorem follow_eq_directory_iff (noUp : ".." ∉ parts) :
    tree.follow start parts = .ok (.directory reached) ↔
      reached = start ++ Path.busyParts parts ∧ tree.Descends start (Path.busyParts parts) := by
  induction parts generalizing start with
  | nil => simp [follow, Path.busyParts, descends_nil, eq_comm]
  | cons part rest induction =>
      have notUp : part ≠ ".." := fun same => noUp (same ▸ List.mem_cons_self)
      have later : ".." ∉ rest := fun listed => noUp (List.mem_cons_of_mem _ listed)
      cases idle : Path.isIdle part with
      | true =>
          rw [follow, if_pos idle, Path.busyParts_cons_of_idle idle]
          exact induction later
      | false =>
          rw [Path.busyParts_cons_of_busy idle, descends_cons, List.append_cons]
          by_cases short : part.utf8ByteSize ≤ longestName
          · rw [follow_cons, follow_name tree start ⟨idle, notUp, short⟩, placeAt]
            cases directory : tree.isDirectory (start ++ [part]) with
            | true => simp [induction later, short]
            | false =>
                -- What stands there ends the path, or is in its way.
                cases tree.content? (start ++ [part]) <;> cases rest <;> simp
          · rw [follow, if_neg (by simp [idle]), if_neg notUp, if_pos (Nat.lt_of_not_le short)]
            simp [short]

theorem placeAt_eq_file_iff {location : List String} {content : FileContent} :
    tree.placeAt location = .file location content ↔
      tree.isDirectory location = false ∧ tree.content? location = some content := by
  unfold placeAt
  cases tree.isDirectory location with
  | true => simp
  | false => cases tree.content? location <;> simp

theorem follow_concat_eq_file_iff {name : String} (named : IsName name) {location : List String}
    {content : FileContent} :
    tree.follow start (parts ++ [name]) = .ok (.file location content) ↔
      ∃ directory, tree.follow start parts = .ok (.directory directory) ∧
        location = directory ++ [name] ∧ tree.placeAt location = .file location content := by
  constructor
  · intro found
    obtain ⟨above, other, directory, same, -, led, located⟩ := exists_name_of_follow found (by simp)
    obtain ⟨rfl, last⟩ := List.append_inj' same rfl
    cases last
    refine ⟨directory, led, located, ?_⟩
    have ends := follow_append led [name]
    rw [found, follow_name tree directory named, ← located] at ends
    exact (Except.ok.inj ends).symm
  · rintro ⟨directory, led, rfl, placed⟩
    rw [follow_append led, follow_name tree directory named, placed]

end FileTree

end FieldDispatch
