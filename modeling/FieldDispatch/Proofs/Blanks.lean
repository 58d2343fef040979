import FieldDispatch.Dispatch.Request
import FieldDispatch.Extension.Plan
import FieldDispatch.Proofs.Conformance

/-!
Type texts with blanks around them. The check of a type text looks past such blanks and all other
readings do not, so a text that passes the check may not mean what it says: it is read as the name
of a type of the schema, blanks included, and a mark before a blank is no mark. The text means what
it says only if there is no blank around it.
-/

namespace FieldDispatch

namespace Text

/-- The text begins or ends with a blank. -/
def HasBlankEdge (cs : List Char) : Prop :=
  (∃ c ∈ cs.head?, isBlank c = true) ∨ ∃ c ∈ cs.getLast?, isBlank c = true

theorem dropWhile_eq_self {drop : Char → Bool} {cs : List Char}
    (kept : ∀ c ∈ cs.head?, drop c = false) : cs.dropWhile drop = cs := by
  cases cs with
  | nil => rfl
  | cons c rest => rw [List.dropWhile_cons, kept c rfl, if_neg Bool.false_ne_true]

theorem trimEnd_eq_self {drop : Char → Bool} {cs : List Char}
    (kept : ∀ c ∈ cs.getLast?, drop c = false) : trimEnd drop cs = cs := by
  have reversed : cs.reverse.dropWhile drop = cs.reverse := by
    apply dropWhile_eq_self
    rw [List.head?_reverse]
    exact kept
  rw [trimEnd, reversed, List.reverse_reverse]

theorem hasBlankEdge_of_trim_ne {cs : List Char} (changed : trim cs ≠ cs) : HasBlankEdge cs := by
  apply Classical.byContradiction
  intro noEdge
  have head : ∀ c ∈ cs.head?, isBlank c = false := fun c first =>
    Bool.eq_false_iff.mpr fun blank => noEdge (Or.inl ⟨c, first, blank⟩)
  have last : ∀ c ∈ cs.getLast?, isBlank c = false := fun c final =>
    Bool.eq_false_iff.mpr fun blank => noEdge (Or.inr ⟨c, final, blank⟩)
  apply changed
  rw [trim, trimBoth, dropWhile_eq_self head, trimEnd_eq_self last]

theorem getLast?_dropWhile {drop : Char → Bool} {cs : List Char}
    (kept : ∀ c ∈ cs.getLast?, drop c = false) :
    (cs.dropWhile drop).getLast? = cs.getLast? := by
  induction cs with
  | nil => rfl
  | cons c rest induction =>
      by_cases dropped : drop c = true
      · rw [List.dropWhile_cons_of_pos dropped]
        cases rest with
        | nil => exact absurd (kept c rfl) (by simp [dropped])
        | cons next rest =>
            rw [List.getLast?_cons_cons] at kept ⊢
            exact induction kept
      · rw [List.dropWhile_cons_of_neg dropped]

theorem getLast?_trim {cs : List Char} (kept : ∀ c ∈ cs.getLast?, isBlank c = false) :
    (trim cs).getLast? = cs.getLast? := by
  have last := getLast?_dropWhile kept
  have restKept : ∀ c ∈ (cs.dropWhile isBlank).getLast?, isBlank c = false := by
    rw [last]
    exact kept
  rw [trim, trimBoth, trimEnd_eq_self restKept, last]

end Text

namespace TypeText

/-- The text without the blanks around it. -/
def trimmed (type : TypeText) : TypeText := ⟨String.ofList (Text.trim type.text.toList)⟩

/-- No blank stands between the characters of names. -/
theorem isNameChar_of_isBlank {c : Char} (blank : Text.isBlank c = true) :
    isNameChar c = false := by
  have outside : c.toNat ≤ 32 ∨ 133 ≤ c.toNat := by
    simp [Text.isBlank, Text.blankRanges] at blank
    omega
  apply Bool.eq_false_iff.mpr
  intro name
  have inside := bounds_of_isNameChar name
  omega

theorem hasBlankEdge_dropMark {cs : List Char} (edge : Text.HasBlankEdge cs) :
    Text.HasBlankEdge (dropMark cs) := by
  rcases edge with ⟨c, first, blank⟩ | ⟨c, final, blank⟩
  · cases cs with
    | nil => cases first
    | cons head rest =>
        cases first
        have other : c ≠ '!' := by
          rintro rfl
          revert blank
          decide
        rw [dropMark_cons other]
        exact Or.inl ⟨c, rfl, blank⟩
  · have unmarked : cs.getLast? ≠ some '!' := by
      rw [Option.mem_def.mp final]
      rintro ⟨⟩
      revert blank
      decide
    rw [dropMark_of_ne unmarked]
    exact Or.inr ⟨c, final, blank⟩

theorem bracketed?_of_hasBlankEdge {cs : List Char} (edge : Text.HasBlankEdge cs) :
    bracketed? cs = none := by
  apply Option.eq_none_iff_forall_ne_some.mpr
  intro item list
  rw [(bracketed?_eq_some_iff _ _).mp list] at edge
  rcases edge with ⟨c, first, blank⟩ | ⟨c, final, blank⟩
  · cases first
    revert blank
    decide
  · rw [← List.cons_append, List.getLast?_concat] at final
    cases final
    revert blank
    decide

theorem exists_blank_of_hasBlankEdge {cs : List Char} (edge : Text.HasBlankEdge cs) :
    ∃ c ∈ cs, Text.isBlank c = true := by
  rcases edge with ⟨c, first, blank⟩ | ⟨c, final, blank⟩
  · exact ⟨c, List.mem_of_mem_head? first, blank⟩
  · exact ⟨c, List.mem_of_mem_getLast? final, blank⟩

end TypeText

namespace Value

/-- With a blank at an end, a text is read as the name of a type of the schema. -/
theorem conformsTo_object_of_hasBlankEdge {type : TypeText}
    (edge : Text.HasBlankEdge type.text.toList) (host : HostRef) :
    (Value.object ⟨type.nullable.text, host⟩).conformsTo type = true := by
  have nullableEdge := TypeText.hasBlankEdge_dropMark edge
  refine (conformsTo_object_iff _ _).mpr ⟨?_, rfl, ?_⟩
  · rw [TypeText.listItem?, TypeText.nullable, String.toList_ofList,
      TypeText.bracketed?_of_hasBlankEdge (TypeText.hasBlankEdge_dropMark nullableEdge)]
    rfl
  · intro scalar
    obtain ⟨c, present, blank⟩ := TypeText.exists_blank_of_hasBlankEdge nullableEdge
    have bare : ∀ name ∈ scalarNames, name.toList.any Text.isBlank = false := by
      decide
    refine List.any_eq_false.mp (bare _ scalar) c ?_ blank
    rwa [TypeText.nullable, String.toList_ofList]

/-- No accepted text without blanks around it is met by an object whose type name has a blank. -/
theorem not_conformsTo_object_of_blank {type : TypeText}
    (accepted : TypeText.checkChars type.text.toList = true) (object : ObjectRef)
    (blank : ∃ c ∈ object.typeName.toList, Text.isBlank c = true) :
    (Value.object object).conformsTo type = false := by
  apply Bool.eq_false_iff.mpr
  intro conforms
  obtain ⟨noList, named, -⟩ := (conformsTo_object_iff _ _).mp conforms
  rw [TypeText.listItem?, Option.map_eq_none_iff, TypeText.nullable, String.toList_ofList] at noList
  rw [named, TypeText.nullable, String.toList_ofList] at blank
  rcases TypeText.shape_of_checkChars accepted with ⟨item, list⟩ | name
  · have unmarked : (TypeText.dropMark type.text.toList).getLast? ≠ some '!' := by
      rw [list, ← List.cons_append, List.getLast?_concat]
      decide
    rw [TypeText.dropMark_of_ne unmarked, list] at noList
    rw [(TypeText.bracketed?_eq_some_iff _ item).mpr rfl] at noList
    cases noList
  · obtain ⟨c, present, isBlank⟩ := blank
    have notName := TypeText.isNameChar_of_isBlank isBlank
    rw [name c present] at notName
    cases notName

/-- An accepted text is met by the values that its trimmed text is met by only if it is trimmed
already, and null meets it even if it is marked whenever a blank follows the mark. -/
theorem conformsTo_trimmed_iff {type : TypeText} (accepted : type.isWellFormed = true) :
    ((∀ value : Value, value.conformsTo type = value.conformsTo type.trimmed) ↔
      type.trimmed = type) ∧
    (type.trimmed.isNonNull = true →
      (Value.null.conformsTo type = true ↔
        ∃ c ∈ type.text.toList.getLast?, Text.isBlank c = true)) := by
  have trimmedChars : type.trimmed.text.toList = Text.trim type.text.toList :=
    String.toList_ofList
  have trimmedAccepted : TypeText.checkChars type.trimmed.text.toList = true := by
    rw [trimmedChars]
    exact accepted
  constructor
  · constructor
    · intro agree
      apply Classical.byContradiction
      intro changed
      have edge : Text.HasBlankEdge type.text.toList := by
        apply Text.hasBlankEdge_of_trim_ne
        intro same
        apply changed
        rw [TypeText.trimmed, same, String.ofList_toList]
      -- An object of the type that the untrimmed text names tells the two readings apart.
      let object : ObjectRef := ⟨type.nullable.text, default⟩
      have untrimmed : (Value.object object).conformsTo type = true :=
        conformsTo_object_of_hasBlankEdge edge default
      have blank : ∃ c ∈ object.typeName.toList, Text.isBlank c = true := by
        dsimp only [object]
        rw [TypeText.nullable, String.toList_ofList]
        exact TypeText.exists_blank_of_hasBlankEdge (TypeText.hasBlankEdge_dropMark edge)
      have refused := not_conformsTo_object_of_blank trimmedAccepted object blank
      rw [agree, refused] at untrimmed
      cases untrimmed
    · intro bare value
      rw [bare]
  · intro required
    have marked : (Text.trim type.text.toList).getLast? = some '!' := by
      rw [← trimmedChars]
      exact of_decide_eq_true required
    rw [conformsTo_null_eq_true_iff]
    constructor
    · intro unmarked
      apply Classical.byContradiction
      intro noBlank
      have kept : ∀ c ∈ type.text.toList.getLast?, Text.isBlank c = false := fun c final =>
        Bool.eq_false_iff.mpr fun blank => noBlank ⟨c, final, blank⟩
      rw [Text.getLast?_trim kept] at marked
      exact unmarked marked
    · rintro ⟨c, final, blank⟩ atEnd
      cases (Option.mem_def.mp final).symm.trans atEnd
      revert blank
      decide

theorem conformsTo_trimmed_iff_sample :
    (⟨" Int! "⟩ : TypeText).isWellFormed = true ∧
      (∃ value : Value, value.conformsTo ⟨" Int! "⟩ ≠ value.conformsTo ⟨"Int!"⟩) ∧
      Value.null.conformsTo ⟨" Int! "⟩ = true := by
  have accepted : (⟨" Int! "⟩ : TypeText).isWellFormed = true := by decide +kernel
  have text : (⟨" Int! "⟩ : TypeText).trimmed = ⟨"Int!"⟩ := by decide +kernel
  obtain ⟨same, null⟩ := conformsTo_trimmed_iff accepted
  rw [text] at same null
  refine ⟨accepted, ?_, (null (by decide)).mpr ⟨' ', rfl, by decide⟩⟩
  apply Classical.not_forall.mp
  intro agree
  exact absurd (same.mp agree) (by decide)

/-- A parameter of the type ` Int! ` is planned as it stands, and then bound to null. -/
theorem null_conformsTo_blank_after_mark :
    (⟨" Int! "⟩ : TypeText).isWellFormed = true ∧
      Value.null.conformsTo ⟨" Int! "⟩ = true ∧
      Value.null.conformsTo (⟨" Int! "⟩ : TypeText).trimmed = false ∧
      Parameter.listProblems [] [.argument "n" " Int! "] = [] ∧
      (Request.new ⟨0⟩).bind (Slot.ofParameter 0 (.argument "n" " Int! ")) = .ok .null := by
  refine ⟨by decide +kernel, by decide, by decide, by decide +kernel, rfl⟩

end Value

end FieldDispatch
