import FieldDispatch.Proofs.Outcome
import FieldDispatch.Proofs.Registration

/-!
Which descriptions can be compiled at all, with the best of bodies. Descriptions without errors are
not enough: bodies are bound by name, so a node resolver and a field of one name need bodies of one
kind, and no field may be added to a type by two extensions. With that, idle bodies will do.
-/

namespace FieldDispatch

namespace OrderedMap

variable {α : Type}

theorem get?_insertAll_of_get? {fresh : List (String × α)} {name : String} {value : α}
    (only : ∀ other, (name, other) ∈ fresh → other = value) {map : OrderedMap α}
    (bound : map.get? name = some value) : (map.insertAll fresh).get? name = some value := by
  induction fresh generalizing map with
  | nil => exact bound
  | cons entry rest induction =>
      have restOnly : ∀ other, (name, other) ∈ rest → other = value :=
        fun other later => only other (List.mem_cons_of_mem _ later)
      apply induction restOnly
      by_cases same : name = entry.1
      · -- A later entry of the same name is written over it, but with the same value.
        have written : entry.2 = value := only entry.2 (same ▸ List.mem_cons_self)
        rw [same, get?_insert_self, written]
      · rw [get?_insert_of_ne _ _ same, bound]

theorem get?_insertAll_of_mem {fresh : List (String × α)} {name : String} {value : α}
    (only : ∀ other, (name, other) ∈ fresh → other = value) (present : (name, value) ∈ fresh)
    (map : OrderedMap α) : (map.insertAll fresh).get? name = some value := by
  induction fresh generalizing map with
  | nil => cases present
  | cons entry rest induction =>
      have restOnly : ∀ other, (name, other) ∈ rest → other = value :=
        fun other later => only other (List.mem_cons_of_mem _ later)
      rcases List.mem_cons.mp present with rfl | later
      · exact get?_insertAll_of_get? restOnly (map.get?_insert_self name value)
      · exact induction restOnly later (map.insert entry.1 entry.2)

end OrderedMap

namespace Manifest

theorem diagnostics_describeAll (policy : Policy) (next : UInt32) (extensions : List Extension) :
    (describeAll policy next extensions).2 =
      extensions.flatMap fun extension => (extension.plan policy).2 := by
  induction extensions generalizing next with
  | nil => rfl
  | cons extension rest induction =>
      rw [List.flatMap_cons, ← induction]
      rfl

theorem hasErrors_ofExtensions_eq_false_iff (policy : Policy) (extensions : List Extension) :
    Diagnostic.hasErrors (ofExtensions policy extensions).2 = false ↔
      ∀ extension ∈ extensions, Diagnostic.hasErrors (extension.plan policy).2 = false := by
  have collected : (ofExtensions policy extensions).2 =
      extensions.flatMap fun extension => (extension.plan policy).2 :=
    diagnostics_describeAll policy 0 extensions
  rw [collected, Diagnostic.hasErrors, List.any_flatMap, List.any_eq_false]
  simp only [Bool.not_eq_true]
  rfl

end Manifest

variable {H : Host} {D : Type}

namespace MemberBody

/-- A body that does nothing and answers null. -/
def idle : ResolverKind → MemberBody H
  | .sync => .staticMethod fun _ => pure .null
  | .async => .staticAsync fun _ => pure (.finished (.ok .null))
  | .property => .staticProperty (pure .null)

@[simp]
theorem kind_idle (kind : ResolverKind) : (idle kind : MemberBody H).kind = kind := by
  cases kind <;> rfl

end MemberBody

theorem ResolverPlan.bindingError?_eq_none_iff (plan : ResolverPlan) (bodies : Bodies H) :
    plan.bindingError? bodies = none ↔
      ∃ body, bodies.get? plan.name.memberName = some body ∧ body.kind = plan.kind := by
  unfold bindingError?
  cases bodies.get? plan.name.memberName <;> simp

namespace ExtensionPlan

/-- Resolvers that are bound under one name are of one kind. -/
def NamesDecideKinds (plan : ExtensionPlan) : Prop :=
  ∀ one ∈ plan.planned, ∀ other ∈ plan.planned,
    one.name.memberName = other.name.memberName → one.kind = other.kind

/-- An idle body for each resolver. -/
def idleBodies (plan : ExtensionPlan) : Bodies H :=
  OrderedMap.empty.insertAll
    (plan.planned.map fun resolver => (resolver.name.memberName, MemberBody.idle resolver.kind))

theorem bindingError?_idleBodies {plan : ExtensionPlan} (decided : plan.NamesDecideKinds)
    {resolver : ResolverPlan} (planned : resolver ∈ plan.planned) :
    resolver.bindingError? (plan.idleBodies : Bodies H) = none := by
  refine (resolver.bindingError?_eq_none_iff _).mpr
    ⟨MemberBody.idle resolver.kind, ?_, MemberBody.kind_idle _⟩
  apply OrderedMap.get?_insertAll_of_mem
  · intro body listed
    obtain ⟨other, otherPlanned, same⟩ := List.mem_map.mp listed
    obtain ⟨nameEq, rfl⟩ := Prod.mk.inj same
    rw [decided other otherPlanned resolver planned nameEq]
  · exact List.mem_map.mpr ⟨resolver, planned, rfl⟩

theorem namesDecideKinds_of_bodies {plan : ExtensionPlan} {bodies : Bodies H}
    (bound : ∀ resolver ∈ plan.planned, resolver.bindingError? bodies = none) :
    plan.NamesDecideKinds := by
  intro one onePlanned other otherPlanned same
  obtain ⟨body, found, kind⟩ := (one.bindingError?_eq_none_iff bodies).mp (bound one onePlanned)
  obtain ⟨otherBody, otherFound, otherKind⟩ :=
    (other.bindingError?_eq_none_iff bodies).mp (bound other otherPlanned)
  rw [same, otherFound] at found
  cases found
  rw [← kind, ← otherKind]

end ExtensionPlan

namespace Extension

def fields (extension : Extension) : List (String × String) :=
  extension.resolvable.map fun member => (extension.runtimeType, member.name)

/-- The node resolver and a field of the same name can share a body. -/
def NodeFits (extension : Extension) : Prop :=
  ∀ node, extension.nodeResolver = some node →
    ∀ member ∈ extension.resolvable, member.name = node.name →
      member.classify.kind? = node.classify.kind?

theorem keys_of_clean_plan {policy : Policy} {extension : Extension}
    (clean : Diagnostic.hasErrors (extension.plan policy).2 = false) :
    extension.keys policy = extension.fields :=
  (resolvers_of_clean_plan clean).keys

theorem namesDecideKinds_iff_nodeFits {policy : Policy} {extension : Extension}
    (clean : Diagnostic.hasErrors (extension.plan policy).2 = false) :
    (extension.plan policy).1.NamesDecideKinds ↔ extension.NodeFits := by
  have fieldsPlanned := resolvers_of_clean_plan clean
  have nodePlanned := node_of_clean_plan clean
  constructor
  · intro decided node declared member resolvable same
    obtain ⟨plan, present, planned⟩ := fieldsPlanned.of_mem resolvable
    rw [declared, Option.map_some] at nodePlanned
    obtain ⟨nodePlan, nodePresent, success⟩ := Option.map_eq_some_iff.mp nodePlanned
    have nodeMade := resolverPlan?_of_planNode success.symm
    have names : plan.name.memberName = nodePlan.name.memberName := by
      rw [memberName_of_resolverPlan? planned, memberName_of_resolverPlan? nodeMade, same]
    have kinds := decided plan (List.mem_append_right _ present) nodePlan
      (List.mem_append_left _ (by simp [nodePresent])) names
    rw [kind_of_resolverPlan? planned, kind_of_resolverPlan? nodeMade, kinds]
  · intro fits
    have nodeCase : ∀ nodePlan ∈ (extension.plan policy).1.nodeResolver,
        ∀ plan ∈ (extension.plan policy).1.resolvers,
          plan.name.memberName = nodePlan.name.memberName → plan.kind = nodePlan.kind := by
      intro nodePlan nodePresent plan present same
      rw [Option.mem_def.mp nodePresent, Option.map_some] at nodePlanned
      obtain ⟨node, declared, success⟩ := Option.map_eq_some_iff.mp nodePlanned.symm
      have nodeMade := resolverPlan?_of_planNode success
      obtain ⟨member, resolvable, planned⟩ := fieldsPlanned.member_of_mem present
      rw [memberName_of_resolverPlan? planned, memberName_of_resolverPlan? nodeMade] at same
      have kinds := fits node declared member resolvable same
      rw [kind_of_resolverPlan? planned, kind_of_resolverPlan? nodeMade] at kinds
      exact Option.some.inj kinds
    intro one onePlanned other otherPlanned same
    -- Two fields of one name are one field, so only the node resolver can want another kind.
    rcases List.mem_append.mp onePlanned with oneNode | oneField <;>
      rcases List.mem_append.mp otherPlanned with otherNode | otherField
    · rw [Option.mem_toList] at oneNode otherNode
      cases (Option.mem_def.mp oneNode).symm.trans (Option.mem_def.mp otherNode)
      rfl
    · exact (nodeCase one (Option.mem_toList.mp oneNode) other otherField same.symm).symm
    · exact nodeCase other (Option.mem_toList.mp otherNode) one oneField same
    · have keysEq : one.key = other.key := by
        refine Prod.ext ?_ same
        exact (typeName_of_mem_resolvers oneField).trans
          (typeName_of_mem_resolvers otherField).symm
      rw [List.inj_on_of_nodup_map (extension.nodup_keys policy) oneField otherField keysEq]

theorem compileError?_eq_none_iff_nodeFits (policy : Policy) (extension : Extension) :
    (∃ bodies : Bodies H, extension.compileError? policy bodies = none) ↔
      Diagnostic.hasErrors (extension.plan policy).2 = false ∧ extension.NodeFits := by
  constructor
  · rintro ⟨bodies, compiles⟩
    obtain ⟨clean, bound⟩ := (compileError?_eq_none_iff policy extension bodies).mp compiles
    exact ⟨clean, (namesDecideKinds_iff_nodeFits clean).mp
      (ExtensionPlan.namesDecideKinds_of_bodies bound)⟩
  · rintro ⟨clean, fits⟩
    -- Idle bodies are as good as any.
    have decided := (namesDecideKinds_iff_nodeFits clean).mpr fits
    refine ⟨(extension.plan policy).1.idleBodies, ?_⟩
    refine (compileError?_eq_none_iff policy extension _).mpr ⟨clean, ?_⟩
    intro plan planned
    exact ExtensionPlan.bindingError?_idleBodies decided planned

end Extension

namespace CompiledSchema

/-- The extensions of a list compile together, given suitable bodies. -/
def Compilable (H : Host) (D : Type) (policy : Policy) (first : Nat)
    (extensions : List Extension) : Prop :=
  ∃ units : List (Extension × Bodies H), units.map Prod.fst = extensions ∧
    ∃ schema : CompiledSchema H D, compile policy units first = .ok schema

theorem keysOf_eq_flatMap (policy : Policy) (units : List (Extension × Bodies H)) :
    keysOf policy units =
      (units.map Prod.fst).flatMap fun extension => extension.keys policy := by
  rw [List.flatMap_map]
  rfl

theorem exists_units {fits : Extension → Bodies H → Prop} {extensions : List Extension}
    (bodies : ∀ extension ∈ extensions, ∃ bodies, fits extension bodies) :
    ∃ units : List (Extension × Bodies H), units.map Prod.fst = extensions ∧
      ∀ unit ∈ units, fits unit.1 unit.2 := by
  induction extensions with
  | nil => exact ⟨[], rfl, fun _ present => nomatch present⟩
  | cons extension rest induction =>
      obtain ⟨own, fine⟩ := bodies extension List.mem_cons_self
      obtain ⟨units, same, restFine⟩ := induction fun other present =>
        bodies other (List.mem_cons_of_mem _ present)
      refine ⟨(extension, own) :: units, congrArg (extension :: ·) same, ?_⟩
      intro unit present
      rcases List.mem_cons.mp present with rfl | later
      · exact fine
      · exact restFine unit later

theorem compilable_iff (policy : Policy) (first : Nat) (extensions : List Extension) :
    Compilable H D policy first extensions ↔
      (∀ extension ∈ extensions, ∃ bodies : Bodies H,
        extension.compileError? policy bodies = none) ∧
        (extensions.flatMap fun extension => extension.keys policy).Nodup := by
  constructor
  · rintro ⟨units, rfl, compiles⟩
    obtain ⟨each, distinct⟩ := (compile_eq_ok_iff policy units first).mp compiles
    rw [keysOf_eq_flatMap] at distinct
    refine ⟨?_, distinct⟩
    intro extension present
    obtain ⟨unit, unitPresent, rfl⟩ := List.mem_map.mp present
    exact ⟨unit.2, (Extension.compile_eq_ok_iff policy _ _ 0).mp (each unit unitPresent 0)⟩
  · rintro ⟨bodies, distinct⟩
    obtain ⟨units, rfl, fine⟩ := exists_units bodies
    rw [← keysOf_eq_flatMap] at distinct
    refine ⟨units, rfl, (compile_eq_ok_iff policy units first).mpr ⟨?_, distinct⟩⟩
    intro unit present handle
    exact (Extension.compile_eq_ok_iff policy _ _ handle).mpr (fine unit present)

/-- When a schema can be compiled at all: the check reports no error, no field is added twice, and
each node resolver can share its body. The last two are not checked. -/
theorem compilable_iff_checked (H : Host) (D : Type) (policy : Policy) (first : Nat)
    (extensions : List Extension) :
    Compilable H D policy first extensions ↔
      Diagnostic.hasErrors (Manifest.ofExtensions policy extensions).2 = false ∧
        (extensions.flatMap Extension.fields).Nodup ∧
        ∀ extension ∈ extensions, extension.NodeFits := by
  have keysEq (clean : ∀ extension ∈ extensions,
      Diagnostic.hasErrors (extension.plan policy).2 = false) :
      (extensions.flatMap fun extension => extension.keys policy) =
        extensions.flatMap Extension.fields :=
    List.flatMap_congr fun extension present =>
      Extension.keys_of_clean_plan (clean extension present)
  rw [compilable_iff, Manifest.hasErrors_ofExtensions_eq_false_iff]
  simp only [Extension.compileError?_eq_none_iff_nodeFits]
  constructor
  · rintro ⟨each, distinct⟩
    have clean := fun extension present => (each extension present).1
    rw [keysEq clean] at distinct
    exact ⟨clean, distinct, fun extension present => (each extension present).2⟩
  · rintro ⟨clean, distinct, fits⟩
    rw [← keysEq clean] at distinct
    exact ⟨fun extension present => ⟨clean extension present, fits extension present⟩, distinct⟩

end CompiledSchema

namespace Sample

/-- Two extensions that add one field to one type. -/
def priceTwice : List Extension :=
  [(Extension.ofType "Product").withMember (.property "Price" "Float"),
    ((Extension.ofType "Product").extendedBy "Pricing").withMember (.property "Price" "Int")]

/-- A node resolver and a property under one name. -/
def identified : Extension :=
  ((Extension.ofType "Product").withNodeResolver
      ((Member.method "Id" (.value ⟨"Product"⟩)).asStatic.withParameter (.argument "id" "ID!")))
    |>.withMember (.property "Id" "ID!")

/-- Nothing is reported of these extensions, and no bodies will do for them. -/
theorem clean_not_compilable :
    (Diagnostic.hasErrors (Manifest.ofExtensions .skip priceTwice).2 = false ∧
      ¬ ∃ (H : Host) (D : Type) (first : Nat),
        CompiledSchema.Compilable H D .skip first priceTwice) ∧
    Diagnostic.hasErrors (Manifest.ofExtensions .skip [identified]).2 = false ∧
      ¬ ∃ (H : Host) (D : Type) (first : Nat),
        CompiledSchema.Compilable H D .skip first [identified] := by
  refine ⟨⟨by decide +kernel, ?_⟩, by decide +kernel, ?_⟩
  · rintro ⟨H, D, first, compilable⟩
    have distinct := ((CompiledSchema.compilable_iff .skip first _).mp compilable).2
    revert distinct
    decide +kernel
  · rintro ⟨H, D, first, compilable⟩
    have bodies := ((CompiledSchema.compilable_iff .skip first _).mp compilable).1
    obtain ⟨-, fits⟩ := (Extension.compileError?_eq_none_iff_nodeFits .skip identified).mp
      (bodies identified List.mem_cons_self)
    have kinds := fits _ rfl (.property "Id" "ID!") (by decide) rfl
    revert kinds
    decide

end Sample

end FieldDispatch
