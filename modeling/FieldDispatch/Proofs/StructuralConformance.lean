import FieldDispatch.Proofs.TypeGrammar

/-!
Conformance follows the structure of the type. The values that conform to the text of a type tree
are those of the tree: reading the text peels off at each level what the tree has at its root.
Conforming values still conform when the type is made wider, by leaving out marks or by putting a
scalar in the place of a narrower one.
-/

namespace FieldDispatch

/-- Every value of the first name is one of the second. -/
inductive NameWidens : String → String → Prop
  | same (name : String) : NameWidens name name
  | intToFloat : NameWidens "Int" "Float"
  | intToId : NameWidens "Int" "ID"
  | stringToId : NameWidens "String" "ID"

/-- A type with the same lists, in which a mark may be missing at any level and the innermost name
may be a wider one. -/
inductive TypeTree.WidensTo : TypeTree → TypeTree → Prop
  | named {name wider : TypeName} {nonNull kept : Bool} (names : NameWidens name.text wider.text)
      (marks : kept = true → nonNull = true) : WidensTo (.named name nonNull) (.named wider kept)
  | list {item wider : TypeTree} {nonNull kept : Bool} (items : WidensTo item wider)
      (marks : kept = true → nonNull = true) : WidensTo (.list item nonNull) (.list wider kept)

theorem TypeTree.WidensTo.isNonNull {tree wider : TypeTree} (widens : tree.WidensTo wider)
    (unmarked : tree.isNonNull = false) : wider.isNonNull = false := by
  apply Bool.eq_false_iff.mpr
  intro marked
  have kept : tree.isNonNull = true := by
    cases widens with
    | named names marks => exact marks marked
    | list items marks => exact marks marked
  cases unmarked.symm.trans kept

namespace Value

theorem isOfName_of_widens {name wider : String} (widens : NameWidens name wider) {value : Value}
    (ofName : IsOfName name value) : IsOfName wider value := by
  rw [← isNamed_iff] at ofName ⊢
  cases widens with
  | same => exact ofName
  | intToFloat =>
      cases value with
      | int number => rfl
      | _ => cases ofName
  | intToId =>
      cases value with
      | int number => rfl
      | _ => cases ofName
  | stringToId =>
      cases value with
      | string text => rfl
      | _ => cases ofName

theorem HasType.widen {tree wider : TypeTree} {value : Value} (typed : HasType tree value)
    (widens : tree.WidensTo wider) : HasType wider value := by
  induction typed generalizing wider with
  | null unmarked => exact .null (widens.isNonNull unmarked)
  | named nonNull ofName =>
      cases widens with
      | named names marks => exact .named _ (isOfName_of_widens names ofName)
  | list nonNull all induction =>
      cases widens with
      | list items marks => exact .list _ fun value present => induction value present items

theorem conformsTo_null_text_iff (tree : TypeTree) :
    Value.null.conformsTo tree.text = true ↔ HasType tree .null := by
  rw [conformsTo_null, tree.isNonNull_text, Bool.not_eq_true']
  constructor
  · exact .null
  · intro typed
    cases typed with
    | null unmarked => exact unmarked
    | named nonNull ofName =>
        have named := (isNamed_iff _ _).mpr ofName
        rw [isNamed_null] at named
        cases named

theorem conformsTo_text_iff (tree : TypeTree) (value : Value) :
    value.conformsTo tree.text = true ↔ HasType tree value := by
  -- The type gets smaller at each level and the value with it, so the tree alone carries the
  -- induction; the items of a list need the statement for all values.
  induction tree generalizing value with
  | named name nonNull =>
      by_cases null : value = .null
      · subst null
        exact conformsTo_null_text_iff _
      · have single : (TypeTree.named name nonNull).text.nullable.listItem? = none := by
          rw [TypeTree.nullable_text, TypeTree.listItem?_text]
          rfl
        have bare : (TypeTree.named name nonNull).text.nullable.text = name.text := by
          rw [TypeTree.nullable_text]
          exact congrArg String.ofList (List.append_nil name.chars)
        rw [conformsTo_eq_isNamed null single, bare, isNamed_iff]
        constructor
        · exact .named nonNull
        · intro typed
          cases typed with
          | null unmarked => exact absurd rfl null
          | named _ ofName => exact ofName
  | list item nonNull induction =>
      by_cases null : value = .null
      · subst null
        exact conformsTo_null_text_iff _
      · have isList : (TypeTree.list item nonNull).text.nullable.listItem? = some item.text := by
          rw [TypeTree.nullable_text, TypeTree.listItem?_text]
          rfl
        constructor
        · intro conforms
          obtain ⟨items, rfl⟩ := exists_items_of_conformsTo null isList conforms
          rw [conformsTo_list, isList] at conforms
          have all := (allConformTo_iff items item.text).mp conforms
          exact .list nonNull fun value present => (induction value).mp (all value present)
        · intro typed
          cases typed with
          | null unmarked => exact absurd rfl null
          | list _ all =>
              rw [conformsTo_list, isList]
              apply (allConformTo_iff _ _).mpr
              intro value present
              exact (induction value).mpr (all value present)

/-- The values that conform to the text of a type are the values of the type, and those of every
wider type as well. -/
theorem conformsTo_structural (tree : TypeTree) (value : Value) :
    (value.conformsTo tree.text = true ↔ HasType tree value) ∧
      ∀ wider, tree.WidensTo wider →
        value.conformsTo tree.text = true → value.conformsTo wider.text = true := by
  refine ⟨conformsTo_text_iff tree value, ?_⟩
  intro wider widens conforms
  have typed := (conformsTo_text_iff tree value).mp conforms
  exact (conformsTo_text_iff wider value).mpr (typed.widen widens)

/-- A list of integers, all of them there, is a list of floats that may have gaps. -/
theorem conformsTo_structural_floats :
    let int : TypeName := ⟨"Int".toList, by decide, by decide⟩
    let float : TypeName := ⟨"Float".toList, by decide, by decide⟩
    let narrow : TypeTree := .list (.list (.named int true) true) true
    let wide : TypeTree := .list (.list (.named float false) false) true
    let value : Value := .list [.list [.int 3, .int 4], .list []]
    narrow.text = ⟨"[[Int!]!]!"⟩ ∧ wide.text = ⟨"[[Float]]!"⟩ ∧ narrow.WidensTo wide ∧
      value.conformsTo narrow.text = true ∧ value.conformsTo wide.text = true := by
  intro int float narrow wide value
  have widens : narrow.WidensTo wide :=
    .list (.list (.named .intToFloat (by decide)) (by decide)) (by decide)
  have conforms : value.conformsTo narrow.text = true := by decide +kernel
  exact ⟨by decide +kernel, by decide +kernel, widens, conforms,
    (conformsTo_structural narrow value).2 wide widens conforms⟩

end Value

end FieldDispatch
