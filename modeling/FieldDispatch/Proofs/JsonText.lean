import FieldDispatch.Proofs.JsonToken

/-!
Trees are read back from their text, on one line or indented, if they nest no deeper than a reader
goes and hold integers only. Both texts are one writing with blanks at the same places, so the
reading is followed once, for any blanks there.
-/

namespace FieldDispatch.Json

/-- What is written before the items and brackets of each level, and after a colon. -/
structure Blanks where
  line : Nat → List Char
  colon : List Char
  line_isSpace : ∀ depth, ∀ c ∈ line depth, Reader.isSpace c
  colon_isSpace : ∀ c ∈ colon, Reader.isSpace c

namespace Blanks

def none : Blanks where
  line _ := []
  colon := []
  line_isSpace := by simp
  colon_isSpace := by simp

def indented : Blanks where
  line := Printer.newLine
  colon := [' ']
  line_isSpace := by
    intro depth c present
    rcases List.mem_cons.mp present with rfl | blank
    · rfl
    · rw [List.eq_of_mem_replicate blank]
      rfl
  colon_isSpace := by simp [Reader.isSpace]

end Blanks

namespace Printer

variable (blanks : Blanks)

mutual

/-- The text of a tree, with given blanks. -/
def spaced (depth : Nat) : Json → List Char
  | .null => "null".toList
  | .bool value => bool value
  | .number value => number value
  | .string value => quote value
  | .array [] => ['[', ']']
  | .array (item :: rest) =>
      '[' :: (blanks.line (depth + 1) ++ (spaced (depth + 1) item ++ spacedItems depth rest))
  | .object [] => ['{', '}']
  | .object ((key, value) :: rest) =>
      '{' :: (blanks.line (depth + 1) ++ (quote key ++ ':' ::
        (blanks.colon ++ (spaced (depth + 1) value ++ spacedEntries depth rest))))

def spacedItems (depth : Nat) : List Json → List Char
  | [] => blanks.line depth ++ [']']
  | item :: rest =>
      ',' :: (blanks.line (depth + 1) ++ (spaced (depth + 1) item ++ spacedItems depth rest))

def spacedEntries (depth : Nat) : List (String × Json) → List Char
  | [] => blanks.line depth ++ ['}']
  | (key, value) :: rest =>
      ',' :: (blanks.line (depth + 1) ++ (quote key ++ ':' ::
        (blanks.colon ++ (spaced (depth + 1) value ++ spacedEntries depth rest))))

end

mutual

theorem compact_eq_spaced (depth : Nat) (tree : Json) : compact tree = spaced .none depth tree := by
  match tree with
  | .null | .bool _ | .number _ | .string _ | .array [] | .object [] => rfl
  | .array (item :: rest) =>
      rw [compact, spaced, compact_eq_spaced (depth + 1) item, compactItems_eq_spaced depth rest]
      rfl
  | .object ((key, value) :: rest) =>
      rw [compact, spaced, compact_eq_spaced (depth + 1) value,
        compactEntries_eq_spaced depth rest]
      rfl

theorem compactItems_eq_spaced (depth : Nat) (items : List Json) :
    compactItems items = spacedItems .none depth items := by
  match items with
  | [] => rfl
  | item :: rest =>
      rw [compactItems, spacedItems, compact_eq_spaced (depth + 1) item,
        compactItems_eq_spaced depth rest]
      rfl

theorem compactEntries_eq_spaced (depth : Nat) (entries : List (String × Json)) :
    compactEntries entries = spacedEntries .none depth entries := by
  match entries with
  | [] => rfl
  | (key, value) :: rest =>
      rw [compactEntries, spacedEntries, compact_eq_spaced (depth + 1) value,
        compactEntries_eq_spaced depth rest]
      rfl

end

mutual

theorem pretty_eq_spaced (depth : Nat) (tree : Json) :
    pretty depth tree = spaced .indented depth tree := by
  match tree with
  | .null | .bool _ | .number _ | .string _ | .array [] | .object [] => rfl
  | .array (item :: rest) =>
      rw [pretty, spaced, pretty_eq_spaced (depth + 1) item, prettyItems_eq_spaced depth rest]
      rfl
  | .object ((key, value) :: rest) =>
      rw [pretty, spaced, pretty_eq_spaced (depth + 1) value, prettyEntries_eq_spaced depth rest]
      rfl

theorem prettyItems_eq_spaced (depth : Nat) (items : List Json) :
    prettyItems depth items = spacedItems .indented depth items := by
  match items with
  | [] => rfl
  | item :: rest =>
      rw [prettyItems, spacedItems, pretty_eq_spaced (depth + 1) item,
        prettyItems_eq_spaced depth rest]
      rfl

theorem prettyEntries_eq_spaced (depth : Nat) (entries : List (String × Json)) :
    prettyEntries depth entries = spacedEntries .indented depth entries := by
  match entries with
  | [] => rfl
  | (key, value) :: rest =>
      rw [prettyEntries, spacedEntries, pretty_eq_spaced (depth + 1) value,
        prettyEntries_eq_spaced depth rest]
      rfl

end

end Printer

mutual

/-- A tree that nests at most so deep, with every number held as an integer. -/
def Fits (room : Nat) : Json → Prop
  | .null => True
  | .bool _ => True
  | .number value => value.IsHeld
  | .string _ => True
  | .array items => 0 < room ∧ FitItems (room - 1) items
  | .object entries => 0 < room ∧ FitEntries (room - 1) entries

def FitItems (room : Nat) : List Json → Prop
  | [] => True
  | item :: rest => Fits room item ∧ FitItems room rest

def FitEntries (room : Nat) : List (String × Json) → Prop
  | [] => True
  | (_, value) :: rest => Fits room value ∧ FitEntries room rest

end

namespace Reader

open Printer (spaced spacedItems spacedEntries)

theorem skipSpace_append {blank : List Char} (spaces : ∀ c ∈ blank, isSpace c) (rest : List Char) :
    skipSpace (blank ++ rest) = skipSpace rest :=
  List.dropWhile_append_of_pos spaces

theorem value?_append {blank : List Char} (spaces : ∀ c ∈ blank, isSpace c) (fuel depth : Nat)
    (rest : List Char) : value? fuel depth (blank ++ rest) = value? fuel depth rest := by
  cases fuel with
  | zero => rw [value?, value?]
  | succ fuel => rw [value?, value?, skipSpace_append spaces]

theorem endsNumber_cons {c : Char} {rest : List Char}
    (ended : c.isDigit = false ∧ c ≠ '.' ∧ c ≠ 'e' ∧ c ≠ 'E') : EndsNumber (c :: rest) := by
  intro other first
  rw [← Option.some.inj first]
  exact ended

theorem endsNumber_append {blank rest : List Char} (spaces : ∀ c ∈ blank, isSpace c)
    (ends : EndsNumber rest) : EndsNumber (blank ++ rest) := by
  cases blank with
  | nil => exact ends
  | cons c more =>
      have space := spaces c List.mem_cons_self
      apply endsNumber_cons
      simp only [isSpace, Bool.or_eq_true, decide_eq_true_eq] at space
      rcases space with ((rfl | rfl) | rfl) | rfl <;> decide

variable (blanks : Blanks)

theorem endsNumber_spacedItems (level : Nat) (items : List Json) (rest : List Char) :
    EndsNumber (spacedItems blanks level items ++ rest) := by
  cases items with
  | nil =>
      rw [spacedItems, List.append_assoc]
      exact endsNumber_append (blanks.line_isSpace level) (endsNumber_cons (by decide))
  | cons item items => exact endsNumber_cons (by decide)

theorem endsNumber_spacedEntries (level : Nat) (entries : List (String × Json))
    (rest : List Char) : EndsNumber (spacedEntries blanks level entries ++ rest) := by
  cases entries with
  | nil =>
      rw [spacedEntries, List.append_assoc]
      exact endsNumber_append (blanks.line_isSpace level) (endsNumber_cons (by decide))
  | cons entry entries => exact endsNumber_cons (by decide)

/-- A value opens with a character that is no blank and closes nothing. -/
def Opens (cs : List Char) : Prop :=
  ∃ c rest, cs = c :: rest ∧ isSpace c = false ∧ c ≠ ']'

theorem opens_number {value : Number} (held : value.IsHeld) : Opens (Printer.number value) := by
  obtain ⟨c, cs, written, opening⟩ := head?_number held
  refine ⟨c, cs, written, ?_⟩
  rcases opening with digital | rfl
  · have code := Char.isDigit_iff_toNat.mp digital
    have apart : ∀ other : Char, other.toNat < '0'.toNat ∨ '9'.toNat < other.toNat →
        c ≠ other := by
      rintro other outside rfl
      omega
    constructor
    · simp [isSpace, apart]
    · exact apart ']' (by decide)
  · decide

theorem opens_spaced (level : Nat) {room : Nat} {tree : Json} (fits : tree.Fits room) :
    Opens (spaced blanks level tree) := by
  match tree with
  | .null => exact ⟨'n', _, rfl, by decide⟩
  | .bool true => exact ⟨'t', _, rfl, by decide⟩
  | .bool false => exact ⟨'f', _, rfl, by decide⟩
  | .string value => exact ⟨'"', _, rfl, by decide⟩
  | .array [] => exact ⟨'[', _, rfl, by decide⟩
  | .array (item :: rest) => exact ⟨'[', _, rfl, by decide⟩
  | .object [] => exact ⟨'{', _, rfl, by decide⟩
  | .object ((key, value) :: rest) => exact ⟨'{', _, rfl, by decide⟩
  | .number value => exact opens_number fits

theorem Opens.append {cs : List Char} (opens : Opens cs) (rest : List Char) :
    Opens (cs ++ rest) := by
  obtain ⟨c, more, rfl, opening⟩ := opens
  exact ⟨c, more ++ rest, rfl, opening⟩

theorem skipSpace_of_opens {cs : List Char} (opens : Opens cs) : skipSpace cs = cs := by
  obtain ⟨c, more, rfl, visible, -⟩ := opens
  simp [skipSpace, visible]

theorem value?_number {value : Number} (held : value.IsHeld) (fuel depth : Nat)
    {rest : List Char} (ends : EndsNumber rest) :
    value? (fuel + 1) depth (Printer.number value ++ rest) = some (.number value, rest) := by
  obtain ⟨written, read, means⟩ := numeral?_number held ends
  obtain ⟨c, cs, shown, opening⟩ := head?_number held
  have other : c ≠ 'n' ∧ c ≠ 't' ∧ c ≠ 'f' ∧ c ≠ '"' ∧ c ≠ '[' ∧ c ≠ '{' := by
    rcases opening with digital | rfl
    · refine ⟨?_, ?_, ?_, ?_, ?_, ?_⟩ <;> rintro rfl <;> exact absurd digital (by decide)
    · decide
  obtain ⟨notNull, notTrue, notFalse, notText, notArray, notObject⟩ := other
  rw [value?, skipSpace_of_opens ((opens_number held).append rest)]
  rw [shown, List.cons_append] at read ⊢
  split
  · next same => exact absurd (List.cons.inj same).1 notNull
  · next same => exact absurd (List.cons.inj same).1 notTrue
  · next same => exact absurd (List.cons.inj same).1 notFalse
  · next same => exact absurd (List.cons.inj same).1 notText
  · next same => exact absurd (List.cons.inj same).1 notArray
  · next same => exact absurd (List.cons.inj same).1 notObject
  · rw [read, Option.map_some]
    simp only [ofNumeral, means]

theorem value?_array (fuel depth : Nat) {cs start : List Char} (skipped : skipSpace cs = start)
    (opens : Opens start) :
    value? (fuel + 1) depth ('[' :: cs) =
      (items? fuel (depth + 1) start).map fun found =>
        (within depth (.array found.1), found.2) := by
  obtain ⟨c, rest, rfl, -, other⟩ := opens
  have bracket : skipSpace ('[' :: cs) = '[' :: cs := rfl
  rw [value?, bracket]
  simp only [skipped]
  split
  · next same => exact absurd (List.cons.inj same).1 other
  · rfl

theorem value?_object (fuel depth : Nat) {cs rest : List Char} (skipped : skipSpace cs = '"' :: rest) :
    value? (fuel + 1) depth ('{' :: cs) =
      (entries? fuel (depth + 1) ('"' :: rest)).map fun found =>
        (within depth (ofEntries found.1), found.2) := by
  have brace : skipSpace ('{' :: cs) = '{' :: cs := rfl
  rw [value?, brace]
  simp only [skipped]
  rfl

theorem items?_append {blank : List Char} (spaces : ∀ c ∈ blank, isSpace c) (fuel depth : Nat)
    (rest : List Char) : items? fuel depth (blank ++ rest) = items? fuel depth rest := by
  cases fuel with
  | zero => rw [items?, items?]
  | succ fuel => rw [items?, items?, value?_append spaces]

theorem entries?_append {blank : List Char} (spaces : ∀ c ∈ blank, isSpace c) (fuel depth : Nat)
    (rest : List Char) : entries? fuel depth (blank ++ rest) = entries? fuel depth rest := by
  cases fuel with
  | zero => rw [entries?, entries?]
  | succ fuel => rw [entries?, entries?, skipSpace_append spaces]

theorem entryKey?_quote (key : String) (rest : List Char) :
    entryKey? (skipSpace (Printer.quote key ++ ':' :: rest)) = some (some key, rest) := by
  rw [quote_append]
  change entryKey? ('"' :: _) = _
  rw [entryKey?, string?_quoted]
  rfl

/-- Entries as they are read, each key with its text. -/
def keyed (entries : List (String × Json)) : List (Option String × Draft) :=
  (Draft.ofEntries entries).map fun entry => (some entry.1, entry.2)

theorem ofEntries_keyed (entries : List (String × Json)) :
    ofEntries (keyed entries) = .object (Draft.ofEntries entries) := by
  have collected : (keyed entries).mapM (fun entry => entry.1.map fun key => (key, entry.2)) =
      some (Draft.ofEntries entries) := by
    unfold keyed
    generalize Draft.ofEntries entries = drafts
    induction drafts with
    | nil => rfl
    | cons draft rest induction => simp [induction]
  unfold ofEntries
  rw [collected]

/-- The text of an item and of those after it, up to the closing bracket. -/
def itemsText (level : Nat) (item : Json) (items : List Json) : List Char :=
  spaced blanks (level + 1) item ++ spacedItems blanks level items

def entriesText (level : Nat) (key : String) (value : Json) (entries : List (String × Json)) :
    List Char :=
  Printer.quote key ++ ':' :: (blanks.colon ++
    (spaced blanks (level + 1) value ++ spacedEntries blanks level entries))

/-! What so much fuel reads. It is counted against the text, since every call but one per bracket
reads a character. -/

def ReadsValues (fuel : Nat) : Prop :=
  ∀ {tree : Json} {room depth level : Nat} {rest : List Char}, tree.Fits room →
    depth + room ≤ nestingLimit → 2 * (spaced blanks level tree).length ≤ fuel →
    EndsNumber rest →
      value? fuel depth (spaced blanks level tree ++ rest) = some (Draft.ofJson tree, rest)

def ReadsItems (fuel : Nat) : Prop :=
  ∀ {item : Json} {items : List Json} {room depth level : Nat} (rest : List Char),
    FitItems room (item :: items) → depth + room ≤ nestingLimit →
    2 * (itemsText blanks level item items).length < fuel →
      items? fuel depth (itemsText blanks level item items ++ rest) =
        some (Draft.ofItems (item :: items), rest)

def ReadsEntries (fuel : Nat) : Prop :=
  ∀ {key : String} {value : Json} {entries : List (String × Json)} {room depth level : Nat}
    (rest : List Char), FitEntries room ((key, value) :: entries) →
    depth + room ≤ nestingLimit → 2 * (entriesText blanks level key value entries).length < fuel →
      entries? fuel depth (entriesText blanks level key value entries ++ rest) =
        some (keyed ((key, value) :: entries), rest)

theorem readsValues_zero : ReadsValues blanks 0 := by
  intro tree room depth level rest fits _ enough
  obtain ⟨c, more, written, -⟩ := opens_spaced blanks level fits
  rw [written, List.length_cons] at enough
  omega

theorem readsValues_succ {fuel : Nat} (readsItems : ReadsItems blanks fuel)
    (readsEntries : ReadsEntries blanks fuel) : ReadsValues blanks (fuel + 1) := by
  intro tree room depth level rest fits shallow enough ends
  match tree with
  | .null => rfl
  | .bool true => rfl
  | .bool false => rfl
  | .number value => exact value?_number fits fuel depth ends
  | .string value =>
      have read := string?_quoted value rest
      rw [spaced, quote_append]
      change (string? _).map _ = _
      rw [read]
      rfl
  | .array items =>
      obtain ⟨positive, fits⟩ := fits
      have inside : depth < nestingLimit := by omega
      have deeper : depth + 1 + (room - 1) ≤ nestingLimit := by omega
      match items with
      | [] =>
          change some (within depth (.array []), rest) = _
          rw [within, if_pos inside]
          rfl
      | item :: items =>
          have written : spaced blanks level (.array (item :: items)) =
              '[' :: (blanks.line (level + 1) ++ itemsText blanks level item items) := rfl
          rw [written, List.length_cons, List.length_append] at enough
          have opens : Opens (itemsText blanks level item items ++ rest) :=
            ((opens_spaced blanks (level + 1) fits.1).append _).append rest
          have skipped : skipSpace (blanks.line (level + 1) ++ itemsText blanks level item items ++
              rest) = itemsText blanks level item items ++ rest := by
            rw [List.append_assoc, skipSpace_append (blanks.line_isSpace _),
              skipSpace_of_opens opens]
          rw [written, List.cons_append, value?_array _ _ skipped opens,
            readsItems rest fits deeper (by omega), Option.map_some, within, if_pos inside]
          rfl
  | .object entries =>
      obtain ⟨positive, fits⟩ := fits
      have inside : depth < nestingLimit := by omega
      have deeper : depth + 1 + (room - 1) ≤ nestingLimit := by omega
      match entries with
      | [] =>
          change some (within depth (.object []), rest) = _
          rw [within, if_pos inside]
          rfl
      | (key, value) :: entries =>
          have written : spaced blanks level (.object ((key, value) :: entries)) =
              '{' :: (blanks.line (level + 1) ++ entriesText blanks level key value entries) := rfl
          rw [written, List.length_cons, List.length_append] at enough
          have start : entriesText blanks level key value entries ++ rest = '"' ::
              (key.toList.flatMap Printer.escapeChar ++ '"' :: ':' :: (blanks.colon ++
                (spaced blanks (level + 1) value ++ spacedEntries blanks level entries) ++
                  rest)) := by
            rw [entriesText, List.append_assoc, quote_append]
            rfl
          have skipped : skipSpace (blanks.line (level + 1) ++
              entriesText blanks level key value entries ++ rest) =
                entriesText blanks level key value entries ++ rest := by
            rw [List.append_assoc, skipSpace_append (blanks.line_isSpace _), start]
            rfl
          rw [written, List.cons_append, value?_object _ _ (skipped.trans start), ← start,
            readsEntries rest fits deeper (by omega), Option.map_some, ofEntries_keyed, within,
            if_pos inside]
          rfl

theorem readsItems_succ {fuel : Nat} (readsValues : ReadsValues blanks fuel)
    (readsItems : ReadsItems blanks fuel) : ReadsItems blanks (fuel + 1) := by
  intro item items room depth level rest fits shallow enough
  obtain ⟨itemFits, fits⟩ := fits
  rw [itemsText, List.length_append] at enough
  have small : 2 * (spaced blanks (level + 1) item).length ≤ fuel := by omega
  have read := readsValues itemFits shallow small
    (endsNumber_spacedItems blanks level items rest)
  rw [itemsText, List.append_assoc, items?, read, Option.bind_eq_bind, Option.bind_some]
  match items with
  | [] =>
      simp only [spacedItems, List.append_assoc, skipSpace_append (blanks.line_isSpace level)]
      rfl
  | next :: items =>
      have written : spacedItems blanks level (next :: items) =
          ',' :: (blanks.line (level + 1) ++ itemsText blanks level next items) := rfl
      rw [written, List.length_cons, List.length_append] at enough
      have later : items? fuel depth (blanks.line (level + 1) ++
          itemsText blanks level next items ++ rest) =
            some (Draft.ofItems (next :: items), rest) := by
        rw [List.append_assoc, items?_append (blanks.line_isSpace _)]
        exact readsItems rest fits shallow (by omega)
      rw [written, List.cons_append]
      change (items? fuel depth _).bind _ = _
      rw [later]
      rfl

theorem readsEntries_succ {fuel : Nat} (readsValues : ReadsValues blanks fuel)
    (readsEntries : ReadsEntries blanks fuel) : ReadsEntries blanks (fuel + 1) := by
  intro key value entries room depth level rest fits shallow enough
  obtain ⟨valueFits, fits⟩ := fits
  rw [entriesText, List.length_append, List.length_cons, List.length_append,
    List.length_append] at enough
  have small : 2 * (spaced blanks (level + 1) value).length ≤ fuel := by omega
  have read := readsValues valueFits shallow small
    (endsNumber_spacedEntries blanks level entries rest)
  have opened : entriesText blanks level key value entries ++ rest =
      Printer.quote key ++ ':' :: (blanks.colon ++ (spaced blanks (level + 1) value ++
        (spacedEntries blanks level entries ++ rest))) := by
    simp [entriesText]
  rw [opened, entries?, entryKey?_quote, Option.bind_eq_bind, Option.bind_some]
  change (value? fuel depth (blanks.colon ++ _)).bind _ = _
  rw [value?_append blanks.colon_isSpace, read, Option.bind_some]
  match entries with
  | [] =>
      simp only [spacedEntries, List.append_assoc, skipSpace_append (blanks.line_isSpace level)]
      rfl
  | (nextKey, nextValue) :: entries =>
      have written : spacedEntries blanks level ((nextKey, nextValue) :: entries) =
          ',' :: (blanks.line (level + 1) ++ entriesText blanks level nextKey nextValue entries) :=
        rfl
      rw [written, List.length_cons, List.length_append] at enough
      have later : entries? fuel depth (blanks.line (level + 1) ++
          entriesText blanks level nextKey nextValue entries ++ rest) =
            some (keyed ((nextKey, nextValue) :: entries), rest) := by
        rw [List.append_assoc, entries?_append (blanks.line_isSpace _)]
        exact readsEntries rest fits shallow (by omega)
      rw [written, List.cons_append]
      change (entries? fuel depth _).bind _ = _
      rw [later]
      rfl

theorem reads_all (fuel : Nat) :
    ReadsValues blanks fuel ∧ ReadsItems blanks fuel ∧ ReadsEntries blanks fuel := by
  induction fuel with
  | zero =>
      refine ⟨readsValues_zero blanks, ?_, ?_⟩
      · intro _ _ _ _ _ _ _ _ enough
        exact absurd enough (Nat.not_lt_zero _)
      · intro _ _ _ _ _ _ _ _ _ enough
        exact absurd enough (Nat.not_lt_zero _)
  | succ fuel induction =>
      obtain ⟨values, items, entries⟩ := induction
      exact ⟨readsValues_succ blanks items entries, readsItems_succ blanks values items,
        readsEntries_succ blanks values entries⟩

theorem read?_spaced {tree : Json} (fits : tree.Fits nestingLimit) :
    Draft.read? (String.ofList (spaced blanks 0 tree)) = some (Draft.ofJson tree) := by
  have enough : 2 * (spaced blanks 0 tree).length ≤ Reader.enough (spaced blanks 0 tree) := by
    rw [Reader.enough]
    omega
  have shallow : 0 + nestingLimit ≤ nestingLimit := by omega
  have nothing : EndsNumber [] := nofun
  have read := (reads_all blanks _).1 fits shallow enough nothing
  rw [List.append_nil] at read
  unfold Draft.read?
  simp only [String.toList_ofList]
  rw [read]
  rfl

end Reader

/-- What is written on one line is read back. -/
theorem read?_compact {tree : Json} (fits : tree.Fits Reader.nestingLimit) :
    Draft.read? tree.compact = some (Draft.ofJson tree) := by
  rw [compact, Printer.compact_eq_spaced 0]
  exact Reader.read?_spaced .none fits

/-- What is written with indents is read back. -/
theorem read?_pretty {tree : Json} (fits : tree.Fits Reader.nestingLimit) :
    Draft.read? tree.pretty = some (Draft.ofJson tree) := by
  rw [pretty, Printer.pretty_eq_spaced]
  exact Reader.read?_spaced .indented fits

end FieldDispatch.Json
