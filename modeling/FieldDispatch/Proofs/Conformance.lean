import FieldDispatch.Value.Conformance

/-!
How type texts are read: what marks and brackets take off a text, what a text that passes the check
looks like, and which values meet a text that names one type.
-/

namespace FieldDispatch

namespace TypeText

theorem bounds_of_isNameChar {c : Char} (name : isNameChar c = true) :
    46 ≤ c.toNat ∧ c.toNat ≤ 122 := by
  have alphanum : c.isAlphanum =
      (decide (c.val ≥ 'A'.val ∧ c.val ≤ 'Z'.val) ||
        decide (c.val ≥ 'a'.val) && decide (c.val ≤ 'z'.val) ||
        decide (c.val ≥ '0'.val) && decide (c.val ≤ '9'.val)) := rfl
  simp only [isNameChar, alphanum, Bool.or_eq_true, Bool.and_eq_true, decide_eq_true_eq,
    UInt32.le_iff_toNat_le, ge_iff_le] at name
  have word : c.toNat = c.val.toNat := rfl
  rcases name with (letter | rfl) | rfl
  · have bounds : 'A'.val.toNat = 65 ∧ 'Z'.val.toNat = 90 ∧ 'a'.val.toNat = 97 ∧
        'z'.val.toNat = 122 ∧ '0'.val.toNat = 48 ∧ '9'.val.toNat = 57 := by decide
    omega
  · decide
  · decide

theorem dropMark_of_ne {cs : List Char} (unmarked : cs.getLast? ≠ some '!') :
    dropMark cs = cs :=
  if_neg unmarked

/-- A mark at the end leaves the beginning as it is. -/
theorem dropMark_cons {c : Char} (other : c ≠ '!') (rest : List Char) :
    dropMark (c :: rest) = c :: dropMark rest := by
  cases rest with
  | nil => simp [dropMark, other]
  | cons next rest =>
      unfold dropMark
      rw [List.getLast?_cons_cons]
      split <;> simp

theorem closed?_eq_some_iff (cs item : List Char) :
    closed? cs = some item ↔ cs = item ++ [']'] := by
  unfold closed?
  constructor
  · intro found
    split at found
    · next last =>
      obtain ⟨start, rfl⟩ := List.getLast?_eq_some_iff.mp last
      cases found
      rw [List.dropLast_concat]
    · cases found
  · rintro rfl
    rw [List.getLast?_concat, if_pos rfl, List.dropLast_concat]

theorem bracketed?_eq_some_iff (cs item : List Char) :
    bracketed? cs = some item ↔ cs = '[' :: (item ++ [']']) := by
  unfold bracketed?
  split
  · rw [closed?_eq_some_iff, List.cons_inj_right]
  · next other =>
    constructor
    · nofun
    · rintro rfl
      exact absurd rfl (other _)

/-- A text is accepted if it is, without its mark, an accepted text in brackets or a name. -/
theorem checkChars_iff (cs : List Char) :
    checkChars cs = true ↔
      (∃ item, dropMark cs = '[' :: (item ++ [']']) ∧ checkChars item = true) ∨
        dropMark cs ≠ [] ∧ ∀ c ∈ dropMark cs, isNameChar c = true := by
  have bracket : isNameChar '[' = false := by decide
  rw [checkChars]
  split
  · next rest shape =>
    -- A bracket is in no name, so a text that begins with one is no name either.
    have noName : ¬ (dropMark cs ≠ [] ∧ ∀ c ∈ dropMark cs, isNameChar c = true) := by
      rintro ⟨-, name⟩
      have first := name '[' (by simp [shape])
      rw [bracket] at first
      cases first
    rw [or_iff_left noName, shape]
    split
    · next item closed =>
      rw [(closed?_eq_some_iff _ _).mp closed]
      simp
    · next unclosed =>
      constructor
      · intro refused
        cases refused
      · rintro ⟨item, same, -⟩
        have closed := (closed?_eq_some_iff rest item).mpr (List.cons.inj same).2
        cases unclosed.symm.trans closed
  · next other =>
    have noList : ¬ ∃ item, dropMark cs = '[' :: (item ++ [']']) ∧ checkChars item = true := by
      rintro ⟨item, shape, -⟩
      exact other _ shape
    rw [or_iff_right noList]
    simp

/-- What an accepted text is without its mark. -/
theorem shape_of_checkChars {cs : List Char} (accepted : checkChars cs = true) :
    (∃ item, dropMark cs = '[' :: (item ++ [']'])) ∨
      ∀ c ∈ dropMark cs, isNameChar c = true := by
  rcases (checkChars_iff cs).mp accepted with ⟨item, shape, -⟩ | ⟨-, name⟩
  · exact Or.inl ⟨item, shape⟩
  · exact Or.inr name

end TypeText

namespace Value

theorem isNamed_object_iff (object : ObjectRef) (name : String) :
    (Value.object object).isNamed name = true ↔ object.typeName = name ∧ name ∉ scalarNames := by
  unfold isNamed
  split <;> simp_all [scalarNames]

theorem isNamed_null (name : String) : Value.null.isNamed name = false := by
  unfold isNamed
  split <;> simp_all

theorem isNamed_list (items : List Value) (name : String) :
    (Value.list items).isNamed name = false := by
  unfold isNamed
  split <;> simp_all

theorem isNamed_of_isData {name : String} {value : Value} (free : name ∉ scalarNames)
    (data : value.isData = true) : value.isNamed name = true := by
  unfold isNamed
  split <;> simp_all [scalarNames, isData]

/-- The rows are read in order, and name by name they give the table of `IsOfName`. -/
theorem isNamed_iff (name : String) (value : Value) :
    value.isNamed name = true ↔ IsOfName name value := by
  constructor
  · intro named
    by_cases scalar : name ∈ scalarNames
    · simp only [scalarNames, List.mem_cons, List.not_mem_nil, or_false] at scalar
      rcases scalar with rfl | rfl | rfl | rfl | rfl
      · cases value with
        | int number => exact .int number
        | _ => cases named
      · cases value with
        | float number => exact .float number
        | int number => exact .intAsFloat number
        | _ => cases named
      · cases value with
        | string text => exact .string text
        | _ => cases named
      · cases value with
        | string text => exact .stringAsId text
        | int number => exact .intAsId number
        | _ => cases named
      · cases value with
        | boolean truth => exact .boolean truth
        | _ => cases named
    · cases value with
      | null => exact absurd named (by simp [isNamed_null])
      | list items => exact absurd named (by simp [isNamed_list])
      | object object => exact .object scalar ((isNamed_object_iff object name).mp named).1
      | _ => exact .data scalar rfl
  · intro ofName
    cases ofName with
    | object free same => exact (isNamed_object_iff _ name).mpr ⟨same, free⟩
    | data free data => exact isNamed_of_isData free data
    | _ => rfl

theorem conformsTo_object_iff (object : ObjectRef) (type : TypeText) :
    (Value.object object).conformsTo type = true ↔
      type.nullable.listItem? = none ∧ object.typeName = type.nullable.text ∧
        type.nullable.text ∉ scalarNames := by
  have read : (Value.object object).conformsTo type =
      (type.nullable.listItem?.isNone && (Value.object object).isNamed type.nullable.text) := rfl
  rw [read, Bool.and_eq_true, Option.isNone_iff_eq_none, isNamed_object_iff]

theorem conformsTo_null (type : TypeText) : Value.null.conformsTo type = !type.isNonNull :=
  rfl

theorem conformsTo_list (items : List Value) (type : TypeText) :
    (Value.list items).conformsTo type =
      match type.nullable.listItem? with
      | some item => allConformTo items item
      | none => false :=
  (rfl)

theorem allConformTo_iff (items : List Value) (type : TypeText) :
    allConformTo items type = true ↔ ∀ value ∈ items, value.conformsTo type = true := by
  induction items with
  | nil => simp [allConformTo]
  | cons value rest induction =>
      have read : allConformTo (value :: rest) type =
          (value.conformsTo type && allConformTo rest type) := rfl
      rw [read, Bool.and_eq_true, induction, List.forall_mem_cons]

theorem conformsTo_null_eq_true_iff (type : TypeText) :
    Value.null.conformsTo type = true ↔ type.text.toList.getLast? ≠ some '!' := by
  rw [conformsTo_null, TypeText.isNonNull, Bool.not_eq_true', decide_eq_false_iff_not]

/-- A value of a type that is no list type is judged by the name of the type. -/
theorem conformsTo_eq_isNamed {value : Value} (present : value ≠ .null) {type : TypeText}
    (single : type.nullable.listItem? = none) :
    value.conformsTo type = value.isNamed type.nullable.text := by
  have atom : (type.nullable.listItem?.isNone && value.isNamed type.nullable.text) =
      value.isNamed type.nullable.text := by
    rw [single, Option.isNone_none, Bool.true_and]
  cases value with
  | null => exact absurd rfl present
  | list items =>
      rw [conformsTo_list, single, isNamed_list]
  | boolean _ => exact atom
  | int _ => exact atom
  | float _ => exact atom
  | string _ => exact atom
  | map _ => exact atom
  | object _ => exact atom

/-- Of a list type there are null and lists, and nothing else. -/
theorem exists_items_of_conformsTo {value : Value} (present : value ≠ .null) {type item : TypeText}
    (isList : type.nullable.listItem? = some item) (conforms : value.conformsTo type = true) :
    ∃ items, value = .list items := by
  have atom : (type.nullable.listItem?.isNone && value.isNamed type.nullable.text) = false := by
    rw [isList, Option.isNone_some, Bool.false_and]
  cases value with
  | null => exact absurd rfl present
  | list items => exact ⟨items, rfl⟩
  | boolean _ => cases conforms.symm.trans atom
  | int _ => cases conforms.symm.trans atom
  | float _ => cases conforms.symm.trans atom
  | string _ => cases conforms.symm.trans atom
  | map _ => cases conforms.symm.trans atom
  | object _ => cases conforms.symm.trans atom

/-- A text that is a scalar's name, with a mark or without, is met by values of that scalar. -/
theorem isNamed_of_conformsTo {name : String} (scalar : name ∈ scalarNames) (value : Value) :
    (value.conformsTo ⟨name ++ "!"⟩ = true → value.isNamed name = true) ∧
      (value.conformsTo ⟨name⟩ = true → value = .null ∨ value.isNamed name = true) := by
  have readings : ∀ name ∈ scalarNames,
      ((⟨name ++ "!"⟩ : TypeText).isNonNull = true ∧
        (⟨name ++ "!"⟩ : TypeText).nullable = ⟨name⟩) ∧
      (⟨name⟩ : TypeText).nullable = ⟨name⟩ ∧ (⟨name⟩ : TypeText).listItem? = none := by
    decide
  obtain ⟨⟨marked, unmarked⟩, bare, noList⟩ := readings name scalar
  by_cases present : value = .null
  · subst present
    constructor
    · intro conforms
      rw [conformsTo_null, marked] at conforms
      cases conforms
    · intro _
      exact Or.inl rfl
  · constructor
    · intro conforms
      rw [conformsTo_eq_isNamed present (by rw [unmarked]; exact noList), unmarked] at conforms
      exact conforms
    · intro conforms
      rw [conformsTo_eq_isNamed present (by rw [bare]; exact noList), bare] at conforms
      exact Or.inr conforms

end Value

end FieldDispatch
