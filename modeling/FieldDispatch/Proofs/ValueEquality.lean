import FieldDispatch.Proofs.Conformance
import FieldDispatch.Proofs.ValueParts

/-!
The laws of equality. Numbers are equal as IEEE 754 has it: a NaN equals nothing, the two zeros are
equal. On values this gives a partial equivalence, whose only failing law is that of reflexivity,
and that only for values in which a NaN occurs. Equal values are told apart neither by their type
name nor by any type text, since conformance looks at no number and at no entry of a map.
-/

namespace FieldDispatch

namespace Double

theorem equals_iff (x y : Double) :
    x.equals y = true ↔ (x.isNaN = false ∧ y.isNaN = false) ∧
      (x = y ∨ x.isZero = true ∧ y.isZero = true) := by
  have bits : x.bits = y.bits ↔ x = y := by
    constructor
    · intro same
      cases x
      exact congrArg Double.mk same
    · exact congrArg Double.bits
  simp [equals, bits]

theorem equals_self_iff (x : Double) : x.equals x = true ↔ x.isNaN = false := by
  simp [equals_iff]

theorem equals_symm {x y : Double} (equal : x.equals y = true) : y.equals x = true := by
  obtain ⟨⟨xNumber, yNumber⟩, same⟩ := (equals_iff x y).mp equal
  exact (equals_iff y x).mpr ⟨⟨yNumber, xNumber⟩, same.imp Eq.symm And.symm⟩

theorem equals_trans {x y z : Double} (first : x.equals y = true) (second : y.equals z = true) :
    x.equals z = true := by
  obtain ⟨⟨xNumber, -⟩, same⟩ := (equals_iff x y).mp first
  rcases same with rfl | ⟨xZero, yZero⟩
  · exact second
  · obtain ⟨⟨-, zNumber⟩, same⟩ := (equals_iff y z).mp second
    apply (equals_iff x z).mpr
    rcases same with rfl | ⟨-, zZero⟩
    · exact ⟨⟨xNumber, zNumber⟩, .inr ⟨xZero, yZero⟩⟩
    · exact ⟨⟨xNumber, zNumber⟩, .inr ⟨xZero, zZero⟩⟩

end Double

/-- Two lists that are both related to a third are related, if that holds of the items. -/
theorem forall₂_comp {α : Type} {R S T : α → α → Prop} {xs ys zs : List α}
    (first : List.Forall₂ R xs ys) (second : List.Forall₂ S ys zs)
    (step : ∀ x y z, R x y → S y z → T x z) : List.Forall₂ T xs zs := by
  induction first generalizing zs with
  | nil =>
      cases second
      exact .nil
  | cons head rest induction =>
      cases second with
      | cons next later => exact .cons (step _ _ _ head next) (induction later)

namespace Value

/-! ## Partial equivalence -/

theorem equals_symm {a b : Value} (equal : a.equals b = true) : b.equals a = true := by
  induction a using nesting generalizing b with
  | list items induction =>
      cases (equals_iff _ _).mp equal with
      | list items =>
          have both := (List.forall₂_and_left _ _).mpr ⟨induction, items⟩
          have turned := both.imp fun item other given => given.1 given.2
          exact (equals_iff _ _).mpr (.list turned.flip)
  | map entries induction =>
      cases (equals_iff _ _).mp equal with
      | map entries =>
          have both := (List.forall₂_and_left _ _).mpr ⟨induction, entries⟩
          have turned : List.Forall₂ (flip EqualEntries) _ _ :=
            both.imp fun entry other given => ⟨given.2.1.symm, given.1 given.2.2⟩
          exact (equals_iff _ _).mpr (.map turned.flip)
  | float x =>
      cases (equals_iff _ _).mp equal with
      | float equal => exact (equals_iff _ _).mpr (.float (Double.equals_symm equal))
  | _ =>
      cases (equals_iff _ _).mp equal
      exact equal

theorem equals_comm (a b : Value) : a.equals b = b.equals a :=
  Bool.eq_iff_iff.mpr ⟨equals_symm, equals_symm⟩

theorem equals_trans {a b c : Value} (first : a.equals b = true) (second : b.equals c = true) :
    a.equals c = true := by
  induction a using nesting generalizing b c with
  | list items induction =>
      cases (equals_iff _ _).mp first with
      | list items =>
          cases (equals_iff _ _).mp second with
          | list others =>
              have both := (List.forall₂_and_left _ _).mpr ⟨induction, items⟩
              have joined := forall₂_comp both others fun x y z given next =>
                given.1 given.2 next
              exact (equals_iff _ _).mpr (.list joined)
  | map entries induction =>
      cases (equals_iff _ _).mp first with
      | map entries =>
          cases (equals_iff _ _).mp second with
          | map others =>
              have both := (List.forall₂_and_left _ _).mpr ⟨induction, entries⟩
              have joined := forall₂_comp (T := EqualEntries) both others fun x y z given next =>
                ⟨given.2.1.trans next.1, given.1 given.2.2 next.2⟩
              exact (equals_iff _ _).mpr (.map joined)
  | float x =>
      cases (equals_iff _ _).mp first with
      | float equal =>
          cases (equals_iff _ _).mp second with
          | float next => exact (equals_iff _ _).mpr (.float (Double.equals_trans equal next))
  | _ =>
      cases (equals_iff _ _).mp first
      exact second

theorem hasPart_list_iff {part : Value} {items : List Value} (other : part ≠ .list items) :
    HasPart part (.list items) ↔ ∃ item ∈ items, HasPart part item := by
  constructor
  · intro occurs
    cases occurs with
    | self => exact absurd rfl other
    | item present inside => exact ⟨_, present, inside⟩
  · rintro ⟨item, present, inside⟩
    exact .item present inside

theorem hasPart_map_iff {part : Value} {entries : List (String × Value)}
    (other : part ≠ .map entries) :
    HasPart part (.map entries) ↔ ∃ entry ∈ entries, HasPart part entry.2 := by
  constructor
  · intro occurs
    cases occurs with
    | self => exact absurd rfl other
    | entry present inside => exact ⟨_, present, inside⟩
  · rintro ⟨entry, present, inside⟩
    exact .entry present inside

/-- A value equals itself if all its numbers do. -/
theorem equals_self_iff (value : Value) :
    value.equals value = true ↔ ∀ x, HasPart (.float x) value → x.isNaN = false := by
  induction value using nesting with
  | list items induction =>
      have itemwise : (Value.list items).equals (.list items) = equalItems items items := rfl
      rw [itemwise, equalItems_iff, List.forall₂_same]
      have occurs (x : Double) : HasPart (.float x) (.list items) ↔
          ∃ item ∈ items, HasPart (.float x) item := hasPart_list_iff nofun
      simp only [occurs]
      constructor
      · rintro equal x ⟨item, present, inside⟩
        exact (induction item present).mp (equal item present) x inside
      · intro numbers item present
        exact (induction item present).mpr fun x inside => numbers x ⟨item, present, inside⟩
  | map entries induction =>
      have entrywise : (Value.map entries).equals (.map entries) = equalEntries entries entries :=
        rfl
      rw [entrywise, equalEntries_iff, List.forall₂_same]
      have occurs (x : Double) : HasPart (.float x) (.map entries) ↔
          ∃ entry ∈ entries, HasPart (.float x) entry.2 := hasPart_map_iff nofun
      simp only [occurs]
      constructor
      · rintro equal x ⟨entry, present, inside⟩
        exact (induction entry present).mp (equal entry present).2 x inside
      · intro numbers entry present
        refine ⟨rfl, (induction entry present).mpr ?_⟩
        intro x inside
        exact numbers x ⟨entry, present, inside⟩
  | float y =>
      have number : (Value.float y).equals (.float y) = y.equals y := rfl
      rw [number, Double.equals_self_iff]
      constructor
      · intro yNumber x occurs
        cases occurs
        exact yNumber
      · intro numbers
        exact numbers y .self
  | object value =>
      have same := (equals_object_iff value value).mpr ⟨rfl, rfl⟩
      exact ⟨fun _ x occurs => (nomatch occurs), fun _ => same⟩
  | _ => exact ⟨fun _ x occurs => (nomatch occurs), fun _ => by simp [equals]⟩

/-! ## What equal values have in common -/

theorem typeName_of_equals {a b : Value} (equal : a.equals b = true) : a.typeName = b.typeName := by
  cases (equals_iff a b).mp equal <;> rfl

theorem IsOfName.replaceFloat {name : String} {x : Double} (ofName : IsOfName name (.float x))
    (y : Double) : IsOfName name (.float y) := by
  cases ofName with
  | float => exact .float y
  | data free data => exact .data free rfl

theorem IsOfName.replaceEntries {name : String} {entries : List (String × Value)}
    (ofName : IsOfName name (.map entries)) (others : List (String × Value)) :
    IsOfName name (.map others) := by
  cases ofName with
  | data free data => exact .data free rfl

theorem isNamed_float_congr (name : String) (x y : Double) :
    (Value.float x).isNamed name = (Value.float y).isNamed name := by
  rw [Bool.eq_iff_iff, isNamed_iff, isNamed_iff]
  exact ⟨fun ofName => ofName.replaceFloat y, fun ofName => ofName.replaceFloat x⟩

theorem isNamed_map_congr (name : String) (entries others : List (String × Value)) :
    (Value.map entries).isNamed name = (Value.map others).isNamed name := by
  rw [Bool.eq_iff_iff, isNamed_iff, isNamed_iff]
  exact ⟨fun ofName => ofName.replaceEntries others, fun ofName => ofName.replaceEntries entries⟩

theorem allConformTo_congr {items others : List Value} {type : TypeText}
    (same : List.Forall₂ (fun item other => item.conformsTo type = other.conformsTo type)
      items others) : allConformTo items type = allConformTo others type := by
  induction same with
  | nil => rfl
  | cons head rest induction => exact congrArg₂ and head induction

theorem conformsTo_of_equals {a b : Value} (equal : a.equals b = true) (type : TypeText) :
    a.conformsTo type = b.conformsTo type := by
  induction a using nesting generalizing b type with
  | list items induction =>
      cases (equals_iff _ _).mp equal with
      | list items =>
          have both := (List.forall₂_and_left _ _).mpr ⟨induction, items⟩
          rw [conformsTo_list, conformsTo_list]
          cases type.nullable.listItem? with
          | none => rfl
          | some item =>
              exact allConformTo_congr (both.imp fun value other given => given.1 given.2 item)
  | map entries induction =>
      cases (equals_iff _ _).mp equal with
      | @map _ others _ =>
          exact congrArg (and _) (isNamed_map_congr type.nullable.text entries others)
  | float x =>
      cases (equals_iff _ _).mp equal with
      | @float _ y _ => exact congrArg (and _) (isNamed_float_congr type.nullable.text x y)
  | _ =>
      cases (equals_iff _ _).mp equal
      rfl

end Value

end FieldDispatch
