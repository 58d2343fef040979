import FieldDispatch.Proofs.Compilability
import FieldDispatch.Proofs.ManifestForm

/-!
Manifests put together. The manifest of two lists of extensions, one after the other, is that of the
first followed by that of the second, whose numbers go on where those of the first end. So an
extension is described and reported on by itself: whatever is added, removed or changed elsewhere in
the list moves its numbers at most, all by the same offset.
-/

namespace FieldDispatch

theorem word_add_right_comm (first second third : UInt32) :
    first + second + third = first + third + second := by
  rw [UInt32.add_assoc, UInt32.add_comm second, ← UInt32.add_assoc]

/-- Counting on after some items, once others stand in the place of the last of them. -/
theorem word_replaced (kept old new : Nat) :
    UInt32.ofNat (kept + old) + (UInt32.ofNat new - UInt32.ofNat old) =
      UInt32.ofNat (kept + new) := by
  rw [UInt32.ofNat_add, UInt32.ofNat_add, word_add_right_comm, UInt32.add_assoc,
    UInt32.sub_add_cancel]

namespace Manifest

/-- A resolver whose number, if it has one, is moved on. -/
def Resolver.shifted (offset : UInt32) (resolver : Resolver) : Resolver :=
  { resolver with id := resolver.id.map (· + offset) }

def Step.shifted (offset : UInt32) : Step → Step
  | .node => .node
  | .field name resolver => .field name (resolver + offset)
  | .configure => .configure

/-- An entry with all numbers in it moved on. -/
def Entry.shifted (offset : UInt32) (entry : Entry) : Entry :=
  { entry with
    nodeResolver := entry.nodeResolver.map (Resolver.shifted offset)
    resolvers := entry.resolvers.map (Resolver.shifted offset)
    steps := entry.steps.map (Step.shifted offset) }

/-- One planned manifest and its reports, followed by another. -/
def followedBy (first second : Manifest × List Diagnostic) : Manifest × List Diagnostic :=
  (ofEntries (first.1.extensions ++
      second.1.extensions.map (Entry.shifted (UInt32.ofNat first.1.resolverCount))),
    first.2 ++ second.2)

end Manifest

open Manifest

namespace ExtensionPlan

theorem map_shifted_describeResolvers (first offset : UInt32) (plans : List ResolverPlan) :
    (describeResolvers first plans).map (Resolver.shifted offset) =
      describeResolvers (first + offset) plans := by
  induction plans generalizing first with
  | nil => rfl
  | cons plan rest induction =>
      rw [describeResolvers, List.map_cons, induction, word_add_right_comm]
      rfl

theorem map_shifted_fieldSteps (first offset : UInt32) (plans : List ResolverPlan) :
    (fieldSteps first plans).map (Step.shifted offset) = fieldSteps (first + offset) plans := by
  induction plans generalizing first with
  | nil => rfl
  | cons plan rest induction =>
      rw [fieldSteps, List.map_cons, induction, word_add_right_comm]
      rfl

/-- Numbers occur in a description as those of resolvers and in the steps that register them. -/
theorem shifted_describe (plan : ExtensionPlan) (first offset : UInt32) :
    (plan.describe first).shifted offset = plan.describe (first + offset) := by
  have node : (plan.nodeResolver.map fun node => node.describe none).map
      (Resolver.shifted offset) = plan.nodeResolver.map fun node => node.describe none := by
    cases plan.nodeResolver <;> rfl
  have steps : ((if plan.nodeResolver.isSome then [Step.node] else []) ++
        fieldSteps first plan.resolvers ++ [Step.configure]).map (Step.shifted offset) =
      (if plan.nodeResolver.isSome then [Step.node] else []) ++
        fieldSteps (first + offset) plan.resolvers ++ [.configure] := by
    rw [List.map_append, List.map_append, map_shifted_fieldSteps]
    cases plan.nodeResolver <;> rfl
  unfold describe Entry.shifted
  rw [node, steps, map_shifted_describeResolvers]

end ExtensionPlan

namespace Manifest

theorem fst_describeAll_cons (policy : Policy) (next : UInt32) (extension : Extension)
    (rest : List Extension) :
    (describeAll policy next (extension :: rest)).1 =
      (extension.plan policy).1.describe next ::
        (describeAll policy
          (next + UInt32.ofNat (extension.plan policy).1.resolvers.length) rest).1 := rfl

theorem map_shifted_describeAll (policy : Policy) (next offset : UInt32)
    (extensions : List Extension) :
    (describeAll policy next extensions).1.map (Entry.shifted offset) =
      (describeAll policy (next + offset) extensions).1 := by
  induction extensions generalizing next with
  | nil => rfl
  | cons extension rest induction =>
      rw [fst_describeAll_cons, fst_describeAll_cons, List.map_cons,
        ExtensionPlan.shifted_describe, induction, word_add_right_comm]

theorem describeAll_append (policy : Policy) (next : UInt32) (first second : List Extension) :
    (describeAll policy next (first ++ second)).1 =
      (describeAll policy next first).1 ++
        (describeAll policy (next + UInt32.ofNat (plansOf policy first).length) second).1 := by
  induction first generalizing next with
  | nil =>
      have nothing : next + UInt32.ofNat (plansOf policy []).length = next := UInt32.add_zero next
      rw [nothing]
      rfl
  | cons extension rest induction =>
      have counted := word_add_skipped next (extension.plan policy).1.resolvers.length
        (plansOf policy rest).length
      rw [plansOf_cons, List.length_append, Nat.add_comm, ← counted, List.cons_append,
        fst_describeAll_cons, fst_describeAll_cons, induction, List.cons_append]

theorem resolverCount_ofExtensions (policy : Policy) (extensions : List Extension) :
    (ofExtensions policy extensions).1.resolverCount = (plansOf policy extensions).length := by
  have numbered : (ofExtensions policy extensions).1.resolvers = _ :=
    resolvers_describeAll policy 0 extensions
  rw [resolverCount, numbered, List.length_mapIdx]

theorem length_describeAll (policy : Policy) (next : UInt32) (extensions : List Extension) :
    (describeAll policy next extensions).1.length = extensions.length := by
  induction extensions generalizing next with
  | nil => rfl
  | cons extension rest induction =>
      rw [fst_describeAll_cons, List.length_cons, induction, List.length_cons]

theorem length_extensions (policy : Policy) (extensions : List Extension) :
    (ofExtensions policy extensions).1.extensions.length = extensions.length :=
  length_describeAll policy 0 extensions

theorem ofExtensions_append (policy : Policy) (first second : List Extension) :
    ofExtensions policy (first ++ second) =
      followedBy (ofExtensions policy first) (ofExtensions policy second) := by
  have entries : (describeAll policy 0 (first ++ second)).1 =
      (describeAll policy 0 first).1 ++ (describeAll policy 0 second).1.map
        (Entry.shifted (UInt32.ofNat (ofExtensions policy first).1.resolverCount)) := by
    rw [describeAll_append, resolverCount_ofExtensions, map_shifted_describeAll]
  have reports : (describeAll policy 0 (first ++ second)).2 =
      (describeAll policy 0 first).2 ++ (describeAll policy 0 second).2 := by
    simp only [diagnostics_describeAll, List.flatMap_append]
  exact congrArg₂ Prod.mk (congrArg ofEntries entries) reports

/-- Two planned manifests of lists of extensions that differ in one place. The entries before the
place are the same. Those after it are the same too but for their numbers, which are all moved by
the difference of the numbers of resolvers. What is reported is reported by each part alone. -/
structure IsEdit (policy : Policy) (earlier old new later : List Extension) : Prop where
  before :
    (ofExtensions policy (earlier ++ new ++ later)).1.extensions.take earlier.length =
      (ofExtensions policy (earlier ++ old ++ later)).1.extensions.take earlier.length
  after :
    (ofExtensions policy (earlier ++ new ++ later)).1.extensions.drop (earlier ++ new).length =
      ((ofExtensions policy (earlier ++ old ++ later)).1.extensions.drop
        (earlier ++ old).length).map
          (Entry.shifted (UInt32.ofNat (ofExtensions policy new).1.resolverCount -
            UInt32.ofNat (ofExtensions policy old).1.resolverCount))
  reports : ∀ changed ∈ [old, new],
    (ofExtensions policy (earlier ++ changed ++ later)).2 =
      (ofExtensions policy earlier).2 ++ (ofExtensions policy changed).2 ++
        (ofExtensions policy later).2

theorem take_extensions (policy : Policy) (first second : List Extension) :
    (ofExtensions policy (first ++ second)).1.extensions.take first.length =
      (ofExtensions policy first).1.extensions := by
  rw [ofExtensions_append, ← length_extensions policy first]
  exact List.take_left

theorem drop_extensions (policy : Policy) (first second : List Extension) :
    (ofExtensions policy (first ++ second)).1.extensions.drop first.length =
      (describeAll policy (UInt32.ofNat (ofExtensions policy first).1.resolverCount) second).1 := by
  have size := length_extensions policy first
  have entries : (ofExtensions policy (first ++ second)).1.extensions = _ :=
    describeAll_append policy 0 first second
  rw [entries, UInt32.zero_add, ← resolverCount_ofExtensions, ← size]
  exact List.drop_left

theorem resolverCount_append (policy : Policy) (first second : List Extension) :
    (ofExtensions policy (first ++ second)).1.resolverCount =
      (ofExtensions policy first).1.resolverCount +
        (ofExtensions policy second).1.resolverCount := by
  simp only [resolverCount_ofExtensions, plansOf, List.flatMap_append, List.length_append]

theorem isEdit (policy : Policy) (earlier old new later : List Extension) :
    IsEdit policy earlier old new later where
  before := by
    rw [List.append_assoc, List.append_assoc, take_extensions, take_extensions]
  after := by
    rw [drop_extensions, drop_extensions, map_shifted_describeAll, resolverCount_append,
      resolverCount_append, word_replaced]
  reports := by
    intro changed _
    rw [ofExtensions_append, ofExtensions_append]
    rfl

/-- Manifests compose. Each extension has one entry, the manifest of a concatenation is made of
those of its parts, and an edit in one place of a list does not show in what is said of the other
extensions, but for their numbers. -/
theorem ofExtensions_composes (policy : Policy) :
    (∀ extensions : List Extension,
      (ofExtensions policy extensions).1.extensions.length = extensions.length) ∧
    (∀ first second : List Extension,
      ofExtensions policy (first ++ second) =
        followedBy (ofExtensions policy first) (ofExtensions policy second)) ∧
    ∀ earlier old new later : List Extension, IsEdit policy earlier old new later :=
  ⟨length_extensions policy, ofExtensions_append policy, isEdit policy⟩

/-- The numbers of the extensions behind the first one go on from its two resolvers. -/
theorem ofExtensions_composes_units :
    let later := (Sample.units.map Prod.fst).drop 1
    let planned := (ofExtensions .warn ([Sample.query] ++ later)).1
    planned.extensions.length = 4 ∧
      planned.resolvers.map Resolver.id = [some 0, some 1, some 2, some 3] ∧
      (ofExtensions .warn later).1.resolvers.map Resolver.id = [some 0, some 1] ∧
      planned.extensions.drop 1 =
        (ofExtensions .warn later).1.extensions.map (Entry.shifted 2) ∧
      (ofExtensions .warn ([Sample.query] ++ later)).2.length = 1 := by
  intro later planned
  obtain ⟨counted, composed, -⟩ := ofExtensions_composes .warn
  have size : planned.extensions.length = _ := counted _
  have count : (ofExtensions .warn [Sample.query]).1.resolverCount = 2 := by decide +kernel
  have split : planned.extensions =
      (ofExtensions .warn [Sample.query]).1.extensions ++
        (ofExtensions .warn later).1.extensions.map (Entry.shifted 2) := by
    change (ofExtensions .warn ([Sample.query] ++ later)).1.extensions = _
    rw [composed, followedBy, count]
    rfl
  refine ⟨size, by decide +kernel, by decide +kernel, ?_, by decide +kernel⟩
  have one : (ofExtensions .warn [Sample.query]).1.extensions.length = 1 := counted _
  rw [split, ← one]
  exact List.drop_left

end Manifest

end FieldDispatch
