import FieldDispatch.Proofs.Compilation
import FieldDispatch.Proofs.LastEntry

/-!
Requests that are built by any sequence of bindings. Each binding writes under keys of one name
space: field arguments, the parent, or state. A slot reads one key, and what it is given is the last
value written there, or null. So a null that is bound is the same as nothing bound, a binding does
not show at any other key, and the order of bindings matters only where two of them write one key.
-/

namespace FieldDispatch

namespace Request

/-- One step in building a request. -/
inductive Binding where
  | parent (object : ObjectRef)
  | argument (name : String) (value : Value)
  | jsonArguments (entries : List (String × Json))
  | state (key : String) (value : Value)
  | token (given : Token)

/-- The request with one more binding. -/
def bound (request : Request) : Binding → Request
  | .parent object => request.withParent object
  | .argument name value => request.withArgument name value
  | .jsonArguments entries => request.withJsonArguments entries
  | .state key value => request.withState key value
  | .token given => request.withToken given

/-- The request that a sequence of bindings builds. -/
def built (token : Token) (bindings : List Binding) : Request :=
  bindings.foldl bound (new token)

namespace Binding

/-- What a binding writes, and under which keys. -/
def writes : Binding → List (Origin × Value)
  | .parent object => [(.parent, .object object)]
  | .argument name value => [(.argument name, value)]
  | .jsonArguments entries =>
      entries.map fun entry => (.argument entry.1, Value.ofJson entry.2)
  | .state key value => [(.state key, value)]
  | .token _ => []

def token? : Binding → Option Token
  | .token given => some given
  | _ => none

end Binding

/-- The last value that some bindings write under a key. -/
def lastBound? (bindings : List Binding) (key : Origin) : Option Value :=
  lastUnder? key (bindings.flatMap Binding.writes)

/-- What a slot finds under a key after some bindings. -/
def valueAt (bindings : List Binding) (key : Origin) : Value :=
  (lastBound? bindings key).getD .null

/-- The key that a slot reads. -/
def keyOf (slot : Slot) : Origin :=
  match slot.source with
  | .argument none => .argument slot.name
  | .argument (some name) => .argument name
  | .parent => .parent
  | .state key => .state key

theorem origin_eq_keyOf (slot : Slot) : origin slot = keyOf slot := by
  obtain ⟨index, name, type, source⟩ := slot
  cases source with
  | argument renamed => cases renamed <;> rfl
  | parent => rfl
  | state key => rfl

theorem lastBound?_append (first second : List Binding) (key : Origin) :
    lastBound? (first ++ second) key = (lastBound? second key).or (lastBound? first key) := by
  rw [lastBound?, List.flatMap_append, lastUnder?_append]
  rfl

theorem lastBound?_cons (binding : Binding) (rest : List Binding) (key : Origin) :
    lastBound? (binding :: rest) key =
      (lastBound? rest key).or (lastUnder? key binding.writes) := by
  rw [lastBound?, List.flatMap_cons, lastUnder?_append]
  rfl

/-- What stands under a key of the request, if anything does. -/
def held? (request : Request) : Origin → Option Value
  | .argument name => request.arguments.get? name
  | .parent => request.parent.map .object
  | .state key => request.state.get? key

theorem lookup_eq_held? (request : Request) (key : Origin) :
    request.lookup key = (request.held? key).getD .null := by
  cases key <;> rfl

section Step

variable (request : Request) (key : Origin)

theorem held?_withArgument (name : String) (value : Value) :
    (request.withArgument name value).held? key =
      (lastUnder? key [(.argument name, value)]).or (request.held? key) := by
  rw [lastUnder?_singleton_or]
  cases key with
  | argument other =>
      simp only [Origin.argument.injEq]
      exact OrderedMap.find?_write name other value request.arguments.entries
  | parent => rfl
  | state other => rfl

theorem held?_withState (name : String) (value : Value) :
    (request.withState name value).held? key =
      (lastUnder? key [(.state name, value)]).or (request.held? key) := by
  rw [lastUnder?_singleton_or]
  cases key with
  | argument other => rfl
  | parent => rfl
  | state other =>
      simp only [Origin.state.injEq]
      exact OrderedMap.find?_write name other value request.state.entries

theorem held?_withJsonArguments (entries : List (String × Json)) :
    (request.withJsonArguments entries).held? key =
      (lastUnder? key (Binding.jsonArguments entries).writes).or (request.held? key) := by
  induction entries generalizing request with
  | nil => rfl
  | cons entry rest induction =>
      have later : request.withJsonArguments (entry :: rest) =
          (request.withArgument entry.1 (Value.ofJson entry.2)).withJsonArguments rest := rfl
      have writes : (Binding.jsonArguments (entry :: rest)).writes =
          [(.argument entry.1, Value.ofJson entry.2)] ++
            (Binding.jsonArguments rest).writes := rfl
      rw [later, induction, held?_withArgument, writes, lastUnder?_append, Option.or_assoc]

/-- One binding: its own last value under the key, or else what stood there. -/
theorem held?_bound (binding : Binding) :
    (request.bound binding).held? key = (lastUnder? key binding.writes).or (request.held? key) := by
  cases binding with
  | parent parent => cases key <;> rfl
  | argument name value => exact request.held?_withArgument key name value
  | jsonArguments entries => exact request.held?_withJsonArguments key entries
  | state name value => exact request.held?_withState key name value
  | token token => cases key <;> rfl

/-- Any number of bindings. -/
theorem held?_foldl_bound (bindings : List Binding) :
    (bindings.foldl bound request).held? key =
      (lastBound? bindings key).or (request.held? key) := by
  induction bindings generalizing request with
  | nil => rfl
  | cons binding rest induction =>
      rw [List.foldl_cons, induction, held?_bound, lastBound?_cons, Option.or_assoc]

end Step

theorem held?_built (token : Token) (bindings : List Binding) (key : Origin) :
    (built token bindings).held? key = lastBound? bindings key := by
  have nothing : (new token).held? key = none := by cases key <;> rfl
  rw [built, held?_foldl_bound, nothing, Option.or_none]

theorem lookup_built (token : Token) (bindings : List Binding) (key : Origin) :
    (built token bindings).lookup key = valueAt bindings key := by
  rw [lookup_eq_held?, held?_built, valueAt]

/-- A slot gets the last value under its key if that conforms to its type. Otherwise it gets an
error that names it. -/
structure AnswersLast (request : Request) (bindings : List Binding) (slot : Slot) : Prop where
  answer : ∀ value, request.bind slot = .ok value ↔
    value = valueAt bindings (keyOf slot) ∧ value.conformsTo slot.type = true
  refusal : (∀ value, request.bind slot ≠ .ok value) →
    request.bind slot =
      .error (.argument slot.index slot.name (fault slot (valueAt bindings (keyOf slot))))

theorem answersLast_built (token : Token) (bindings : List Binding) (slot : Slot) :
    (built token bindings).AnswersLast bindings slot := by
  have bound : (built token bindings).bind slot =
      if (valueAt bindings (keyOf slot)).conformsTo slot.type then
        .ok (valueAt bindings (keyOf slot))
      else
        .error (.argument slot.index slot.name (fault slot (valueAt bindings (keyOf slot)))) := by
    rw [bind, lookup_built, origin_eq_keyOf]
  by_cases conforms : (valueAt bindings (keyOf slot)).conformsTo slot.type = true
  · rw [if_pos conforms] at bound
    constructor
    · intro value
      rw [bound, Except.ok.injEq]
      constructor
      · rintro rfl
        exact ⟨rfl, conforms⟩
      · rintro ⟨rfl, -⟩
        rfl
    · intro never
      exact absurd bound (never _)
  · rw [if_neg conforms] at bound
    constructor
    · intro value
      rw [bound]
      constructor
      · intro answered
        cases answered
      · rintro ⟨rfl, conforming⟩
        exact absurd conforming conforms
    · intro _
      exact bound

/-! ## The whole context -/

section Token

theorem token_withJsonArguments (request : Request) (entries : List (String × Json)) :
    (request.withJsonArguments entries).token = request.token := by
  induction entries generalizing request with
  | nil => rfl
  | cons entry rest induction =>
      exact induction (request.withArgument entry.1 (Value.ofJson entry.2))

theorem token_bound (request : Request) (binding : Binding) :
    (request.bound binding).token = binding.token?.getD request.token := by
  cases binding with
  | jsonArguments entries => exact request.token_withJsonArguments entries
  | parent | argument | state | token => rfl

theorem token_foldl_bound (request : Request) (bindings : List Binding) :
    (bindings.foldl bound request).token =
      ((bindings.filterMap Binding.token?).getLast?).getD request.token := by
  induction bindings generalizing request with
  | nil => rfl
  | cons binding rest induction =>
      rw [List.foldl_cons, induction, token_bound, List.filterMap_cons]
      cases binding.token? with
      | none => rfl
      | some given => rw [List.getLast?_cons]; rfl

/-- The last token that is given counts. -/
theorem token_built (token : Token) (bindings : List Binding) :
    (built token bindings).token =
      ((bindings.filterMap Binding.token?).getLast?).getD token :=
  token_foldl_bound (new token) bindings

end Token

theorem bind_congr {request other : Request} {slot : Slot}
    (same : request.lookup (origin slot) = other.lookup (origin slot)) :
    request.bind slot = other.bind slot := by
  rw [bind, bind, same]

theorem parent_congr {request other : Request}
    (same : request.lookup .parent = other.lookup .parent) : request.parent = other.parent := by
  obtain ⟨parent, arguments, state, token⟩ := request
  obtain ⟨otherParent, otherArguments, otherState, otherToken⟩ := other
  cases parent <;> cases otherParent <;> cases same <;> rfl

/-- Requests with the same values under every key, and one token, answer every question alike. -/
theorem toContext_congr {H : Host} {request other : Request}
    (lookups : ∀ key, request.lookup key = other.lookup key) (token : request.token = other.token) :
    (request.toContext : FieldContext H) = other.toContext := by
  have parent : request.parentOf = other.parentOf := by
    funext runtimeType
    rw [parentOf, parentOf, parent_congr (lookups .parent)]
  have bind : request.bind = other.bind := by
    funext slot
    exact bind_congr (lookups _)
  rw [toContext, toContext, parent, bind, token]

theorem toContext_built_congr {H : Host} (token : Token) {bindings others : List Binding}
    (values : ∀ key, valueAt bindings key = valueAt others key)
    (tokens : bindings.filterMap Binding.token? = others.filterMap Binding.token?) :
    ((built token bindings).toContext : FieldContext H) = (built token others).toContext := by
  apply toContext_congr
  · intro key
    rw [lookup_built, lookup_built, values]
  · rw [token_built, token_built, tokens]

/-! ## One binding more -/

section Inserted

variable (before : List Binding) (binding : Binding) (after : List Binding)

theorem lastBound?_inserted (key : Origin) :
    lastBound? (before ++ binding :: after) key =
      (lastBound? after key).or ((lastUnder? key binding.writes).or (lastBound? before key)) := by
  rw [lastBound?_append, lastBound?_cons, Option.or_assoc]

variable {before binding after}

/-- A binding does not show under the keys that it does not write. -/
theorem valueAt_unwritten {key : Origin} (elsewhere : ∀ write ∈ binding.writes, write.1 ≠ key) :
    valueAt (before ++ binding :: after) key = valueAt (before ++ after) key := by
  have unwritten : lastUnder? key binding.writes = none := lastUnder?_eq_none elsewhere
  rw [valueAt, valueAt, lastBound?_inserted, lastBound?_append, unwritten]
  rfl

/-- A null under a key where no value stood is as good as nothing. -/
theorem valueAt_null
    (nulls : ∀ write ∈ binding.writes, write.2 = .null ∧ valueAt before write.1 = .null)
    (key : Origin) : valueAt (before ++ binding :: after) key = valueAt (before ++ after) key := by
  rw [valueAt, valueAt, lastBound?_inserted, lastBound?_append]
  cases written : lastUnder? key binding.writes with
  | none => rfl
  | some value =>
      obtain ⟨null, unbound⟩ := nulls _ (mem_of_lastUnder? written)
      dsimp only at null unbound
      rw [null]
      cases lastBound? after key with
      | none => exact unbound.symm
      | some later => rfl

end Inserted

/-! ## Another order -/

/-- Two bindings that write no key in common, nor both the token. -/
structure Binding.IsApart (one other : Binding) : Prop where
  keys : ∀ write ∈ one.writes, ∀ later ∈ other.writes, write.1 ≠ later.1
  tokens : one.token? = none ∨ other.token? = none

/-- The same bindings in another order, in which those that write one key keep theirs. -/
inductive Reordered : List Binding → List Binding → Prop
  | nil : Reordered [] []
  | cons (binding : Binding) {rest others : List Binding} (later : Reordered rest others) :
      Reordered (binding :: rest) (binding :: others)
  | swap {one other : Binding} (apart : one.IsApart other) (rest : List Binding) :
      Reordered (one :: other :: rest) (other :: one :: rest)
  | trans {first second third : List Binding} (left : Reordered first second)
      (right : Reordered second third) : Reordered first third

namespace Reordered

variable {bindings others : List Binding}

theorem lastBound? (reordered : Reordered bindings others) (key : Origin) :
    Request.lastBound? bindings key = Request.lastBound? others key := by
  induction reordered with
  | nil => rfl
  | cons binding later induction => rw [lastBound?_cons, lastBound?_cons, induction]
  | @swap one other apart rest =>
      simp only [lastBound?_cons, Option.or_assoc]
      congr 1
      -- One of the two writes nothing under the key.
      by_cases written : ∃ write ∈ one.writes, write.1 = key
      · obtain ⟨write, present, rfl⟩ := written
        have elsewhere : ∀ later ∈ other.writes, later.1 ≠ write.1 :=
          fun later laterPresent => (apart.keys write present later laterPresent).symm
        rw [lastUnder?_eq_none elsewhere, Option.or_none, Option.none_or]
      · have elsewhere : ∀ write ∈ one.writes, write.1 ≠ key :=
          fun write present same => written ⟨write, present, same⟩
        rw [lastUnder?_eq_none elsewhere, Option.or_none, Option.none_or]
  | trans left right first second => exact first.trans second

theorem tokens (reordered : Reordered bindings others) :
    bindings.filterMap Binding.token? = others.filterMap Binding.token? := by
  induction reordered with
  | nil => rfl
  | cons binding later induction => rw [List.filterMap_cons, List.filterMap_cons, induction]
  | @swap one other apart rest =>
      rcases apart.tokens with none | none <;> simp [List.filterMap_cons, none]
  | trans left right first second => exact first.trans second

theorem valueAt (reordered : Reordered bindings others) (key : Origin) :
    Request.valueAt bindings key = Request.valueAt others key := by
  rw [Request.valueAt, Request.valueAt, reordered.lastBound?]

end Reordered

/-- However a request is built, the last value under the key of a slot answers for it. A null is the
same as nothing, a binding with other keys does not show, be they argument names or state keys, and
bindings with different keys may change places. -/
theorem built_answers_last (H : Host) (token : Token) :
    (∀ bindings slot, (built token bindings).AnswersLast bindings slot) ∧
    (∀ (before : List Binding) (binding : Binding) (after : List Binding),
      binding.token? = none →
      (∀ write ∈ binding.writes, write.2 = .null ∧ valueAt before write.1 = .null) →
      ((built token (before ++ binding :: after)).toContext : FieldContext H) =
        (built token (before ++ after)).toContext) ∧
    (∀ (before : List Binding) (binding : Binding) (after : List Binding) (slot : Slot),
      (∀ write ∈ binding.writes, write.1 ≠ keyOf slot) →
      (built token (before ++ binding :: after)).bind slot =
        (built token (before ++ after)).bind slot) ∧
    ∀ bindings others, Reordered bindings others →
      ((built token bindings).toContext : FieldContext H) = (built token others).toContext := by
  refine ⟨answersLast_built token, ?_, ?_, ?_⟩
  · intro before binding after keepsToken nulls
    apply toContext_built_congr token (valueAt_null nulls)
    rw [List.filterMap_append, List.filterMap_append, List.filterMap_cons_none keepsToken]
  · intro before binding after slot elsewhere
    apply bind_congr
    rw [lookup_built, lookup_built, origin_eq_keyOf, valueAt_unwritten elsewhere]
  · intro bindings others reordered
    exact toContext_built_congr token reordered.valueAt reordered.tokens

end Request

namespace Sample

open Request

/-- An argument and a state of one name, and a null that is written over. -/
def bindings : List Binding :=
  [.argument "first" .null, .state "first" (.string "state"),
    .jsonArguments [("first", .null), ("after", .string "x")], .argument "first" (.int 2)]

def firstSlot : Slot := ⟨3, "first", ⟨"Int!"⟩, .argument none⟩

/-- The same parameter, with its value read from the state. -/
def firstState : Slot := ⟨3, "first", ⟨"Int!"⟩, .state "first"⟩

/-- The argument conforms, the state of that name does not, the first null may go, and the state may
change places with it. -/
theorem built_answers_last_bindings :
    (built ⟨0⟩ bindings).bind firstSlot = .ok (.int 2) ∧
    (built ⟨0⟩ bindings).bind firstState =
      .error (.argument 3 "first" (.nonconforming (.state "first") "String" ⟨"Int!"⟩)) ∧
    ((built ⟨0⟩ bindings).toContext : FieldContext host) = (built ⟨0⟩ bindings.tail).toContext ∧
    (built ⟨0⟩ bindings).bind firstSlot =
      (built ⟨0⟩ (bindings.take 1 ++ bindings.drop 2)).bind firstSlot ∧
    ((built ⟨0⟩ bindings).toContext : FieldContext host) =
      (built ⟨0⟩ ((bindings.take 2).reverse ++ bindings.drop 2)).toContext := by
  obtain ⟨last, null, elsewhere, order⟩ := built_answers_last host ⟨0⟩
  have nulls : ∀ write ∈ (Binding.argument "first" .null).writes,
      write.2 = .null ∧ valueAt [] write.1 = .null := by
    intro write present
    cases List.mem_singleton.mp present
    exact ⟨rfl, rfl⟩
  refine ⟨(last bindings firstSlot).answer _ |>.mpr ⟨rfl, by decide⟩,
    (last bindings firstState).refusal ?_, null [] _ _ rfl nulls,
    elsewhere [.argument "first" .null] (.state "first" (.string "state")) _ firstSlot (by decide),
    order _ _ (.swap ⟨by decide, .inl rfl⟩ _)⟩
  intro value answered
  obtain ⟨rfl, conforms⟩ := ((last bindings firstState).answer value).mp answered
  revert conforms
  decide

end Sample

end FieldDispatch
