import ChannelGuard.Policy.Basic
import ChannelGuard.Proofs.ByteOrder
import ChannelGuard.Proofs.RegistrySlots

/-!
# Building registries

A registry is built by additions one after the other, and one with an improper name fails and
leaves everything as it was. A slot holds the evaluator of the last addition that set it, so no slot
is ever emptied, and the types are those that were there and those added to, in the order of their
bytes.
-/

namespace ChannelGuard

/-! The last member with a property -/

/-- The last member of a row that has a property. -/
def IsLast {α : Type} (p : α → Prop) (row : List α) (a : α) : Prop :=
  ∃ before after, row = before ++ a :: after ∧ p a ∧ ∀ b ∈ after, ¬p b

theorem findSome?_reverse_eq_some_iff {α β : Type} {given : α → Option β} {row : List α} {b : β} :
    row.reverse.findSome? given = some b ↔
      ∃ a, IsLast (fun a => (given a).isSome) row a ∧ given a = some b := by
  rw [List.findSome?_eq_some_iff]
  constructor
  · rintro ⟨after, a, before, split, found, later⟩
    refine ⟨a, ⟨before.reverse, after.reverse, ?_, by simp [found], ?_⟩, found⟩
    · rw [← List.reverse_reverse row, split]
      simp
    · intro b member
      simp [later b (List.mem_reverse.mp member)]
  · rintro ⟨a, ⟨before, after, rfl, -, later⟩, found⟩
    refine ⟨after.reverse, a, before.reverse, by simp, found, ?_⟩
    intro b member
    exact Option.not_isSome_iff_eq_none.mp (later b (List.mem_reverse.mp member))

theorem findSome?_reverse_eq_none_iff {α β : Type} {given : α → Option β} {row : List α} :
    row.reverse.findSome? given = none ↔ ∀ a ∈ row, given a = none := by
  simp [List.findSome?_eq_none_iff]

/-! Additions -/

/-- The names that resource types may have. -/
def ProperName (name : String) : Prop :=
  name ≠ "" ∧ ∀ c ∈ name.toList, Text.isBlank c = false ∧ c ∉ ['/', ':', '>', '(', ')']

theorem isTypeName_iff {name : String} : isTypeName name = true ↔ ProperName name := by
  simp [isTypeName, ProperName, isSeparator, and_assoc, not_or]

instance (name : String) : Decidable (ProperName name) := decidable_of_iff _ isTypeName_iff

/-- An operation on a registry that is being built. -/
inductive Addition (ε : Type) where
  | rule (name : String) (rule : AccessRule ε)
  | inbound (name : String) (evaluator : ε)
  | outbound (name : String) (evaluator : ε)

namespace Addition

variable {ε : Type}

def name : Addition ε → String
  | rule name _ | inbound name _ | outbound name _ => name

def content : Addition ε → AccessRule ε
  | rule _ content => content
  | inbound _ evaluator => .single evaluator .inbound
  | outbound _ evaluator => .single evaluator .outbound

/-- The addition succeeds and sets the slot of a type in a direction. -/
def Sets (type : String) (direction : Direction) (addition : Addition ε) : Prop :=
  ProperName addition.name ∧ addition.name = type ∧ (addition.content.slot direction).isSome

instance (type : String) (direction : Direction) (addition : Addition ε) :
    Decidable (addition.Sets type direction) := inferInstanceAs (Decidable (_ ∧ _ ∧ _))

/-- The evaluator that an addition puts into a slot, if it does. -/
def setting? (type : String) (direction : Direction) (addition : Addition ε) : Option ε :=
  if isTypeName addition.name = true ∧ addition.name = type then addition.content.slot direction
  else none

theorem isSome_setting?_iff {type : String} {direction : Direction} {addition : Addition ε} :
    (addition.setting? type direction).isSome ↔ addition.Sets type direction := by
  unfold setting? Sets
  split
  · next set =>
    exact ⟨fun given => ⟨isTypeName_iff.mp set.1, set.2, given⟩, fun sets => sets.2.2⟩
  · next unset =>
    simp only [Option.isSome_none, Bool.false_eq_true, false_iff]
    rintro ⟨proper, named, -⟩
    exact unset ⟨isTypeName_iff.mpr proper, named⟩

end Addition

namespace Registry

variable {ε : Type}

def apply (registry : Registry ε) (addition : Addition ε) : Except InvalidTypeName (Registry ε) :=
  registry.add addition.name addition.content

/-- The registry after an addition; one that fails leaves it as it was. -/
def extend (registry : Registry ε) (addition : Addition ε) : Registry ε :=
  match registry.apply addition with
  | .ok next => next
  | .error _ => registry

def extendAll (registry : Registry ε) (additions : List (Addition ε)) : Registry ε :=
  additions.foldl extend registry

theorem apply_of_proper (registry : Registry ε) {addition : Addition ε}
    (proper : ProperName addition.name) :
    registry.apply addition =
      .ok (registry.overlay ⟨addition.name, isTypeName_iff.mpr proper⟩ addition.content) := by
  simp [apply, add, TypeName.ofString, isTypeName_iff.mpr proper, Except.map]

theorem apply_of_improper (registry : Registry ε) {addition : Addition ε}
    (improper : ¬ProperName addition.name) :
    registry.apply addition = .error ⟨addition.name⟩ := by
  simp [apply, add, TypeName.ofString, mt isTypeName_iff.mp improper, Except.map]

theorem lookup_extend (registry : Registry ε) (addition : Addition ε) (type : String)
    (direction : Direction) :
    (registry.extend addition).lookup type direction =
      (addition.setting? type direction).or (registry.lookup type direction) := by
  unfold extend Addition.setting?
  by_cases proper : ProperName addition.name
  · simp only [apply_of_proper registry proper, lookup_overlay, isTypeName_iff, proper, true_and]
  · simp only [apply_of_improper registry proper, isTypeName_iff, proper, false_and, if_false,
      Option.none_or]

/-- Where each step of a fold gives what its member says and otherwise keeps what there was, the
last member to say something counts. -/
theorem lookup_foldl {α : Type} {act : Registry ε → α → Registry ε} {given : α → Option ε}
    {type : String} {direction : Direction}
    (step : ∀ registry a, (act registry a).lookup type direction =
      (given a).or (registry.lookup type direction)) (row : List α) (start : Registry ε) :
    (row.foldl act start).lookup type direction =
      (row.reverse.findSome? given).or (start.lookup type direction) := by
  induction row generalizing start with
  | nil => simp
  | cons a rest ih =>
    rw [List.foldl_cons, ih, step, List.reverse_cons, List.findSome?_append, ← Option.or_assoc]
    simp

theorem mem_types_extend {registry : Registry ε} {addition : Addition ε} {type : TypeName} :
    type ∈ (registry.extend addition).types ↔
      addition.name = type.name ∨ type ∈ registry.types := by
  unfold extend
  by_cases proper : ProperName addition.name
  · simp only [apply_of_proper registry proper, mem_types_overlay]
    refine or_congr_left ⟨fun same => by rw [same], fun same => ?_⟩
    exact TypeName.eq_of_name_eq same.symm
  · simp only [apply_of_improper registry proper]
    constructor
    · exact .inr
    · rintro (same | known)
      · exact absurd (isTypeName_iff.mp (same ▸ type.valid)) proper
      · exact known

theorem mem_types_extendAll {registry : Registry ε} {additions : List (Addition ε)}
    {type : TypeName} :
    type ∈ (registry.extendAll additions).types ↔
      type ∈ registry.types ∨ ∃ addition ∈ additions, addition.name = type.name := by
  induction additions generalizing registry with
  | nil => simp [extendAll]
  | cons addition rest ih =>
    have later : type ∈ (registry.extendAll (addition :: rest)).types ↔ _ :=
      @ih (registry.extend addition)
    rw [later, mem_types_extend, List.exists_mem_cons_iff, or_assoc, or_left_comm]

theorem properName_of_mem_types {registry : Registry ε} {name : String}
    (member : name ∈ registry.types.map (·.name)) : ProperName name := by
  obtain ⟨type, -, rfl⟩ := List.mem_map.mp member
  exact isTypeName_iff.mp type.valid

/-- The types after some additions, those with two empty slots included. -/
theorem mem_names_extendAll_iff {start : Registry ε} {additions : List (Addition ε)}
    {name : String} :
    name ∈ (start.extendAll additions).types.map (·.name) ↔
      name ∈ start.types.map (·.name) ∨
        ∃ addition ∈ additions, ProperName addition.name ∧ addition.name = name := by
  simp only [List.mem_map, mem_types_extendAll]
  constructor
  · rintro ⟨type, known | ⟨addition, member, same⟩, rfl⟩
    · exact .inl ⟨type, known, rfl⟩
    · exact .inr ⟨addition, member, same ▸ isTypeName_iff.mp type.valid, same⟩
  · rintro (⟨type, known, rfl⟩ | ⟨addition, member, proper, rfl⟩)
    · exact ⟨type, .inl known, rfl⟩
    · exact ⟨⟨addition.name, isTypeName_iff.mpr proper⟩, .inr ⟨addition, member, rfl⟩, rfl⟩

/-- What a slot holds after some additions. -/
theorem lookup_extendAll_eq_some_iff {start : Registry ε} {additions : List (Addition ε)}
    {type : String} {direction : Direction} {evaluator : ε} :
    (start.extendAll additions).lookup type direction = some evaluator ↔
      (∃ addition, IsLast (·.Sets type direction) additions addition ∧
        addition.content.slot direction = some evaluator) ∨
      (∀ addition ∈ additions, ¬addition.Sets type direction) ∧
        start.lookup type direction = some evaluator := by
  have folded := lookup_foldl (fun registry addition =>
    lookup_extend registry addition type direction) additions start
  rw [extendAll, folded, Option.or_eq_some_iff, findSome?_reverse_eq_some_iff,
    findSome?_reverse_eq_none_iff]
  simp only [← Option.not_isSome_iff_eq_none, Addition.isSome_setting?_iff]
  refine or_congr_left (exists_congr fun addition => and_congr_right fun last => ?_)
  obtain ⟨-, -, -, ⟨proper, named, -⟩, -⟩ := last
  rw [Addition.setting?, if_pos ⟨isTypeName_iff.mpr proper, named⟩]

/-- The types come in the order of the bytes of their names. -/
theorem types_pairwise_bytes (registry : Registry ε) :
    (registry.types.map (·.name)).Pairwise fun s t => Text.bytes s < Text.bytes t := by
  rw [types, List.map_map, List.pairwise_map]
  exact registry.ascending.imp Text.bytes_lt_bytes

/-- Lays the declarations of policies over each other, with every name checked once more. -/
def compile (policies : List ResourcePolicy) : Except InvalidTypeName (Registry Condition) :=
  policies.foldlM (fun registry policy => registry.apply (.rule policy.type.name policy.conditions))
    .empty

/-- The names of policies have been checked already. -/
theorem compile_eq_ok (policies : List ResourcePolicy) :
    compile policies = .ok (.ofPolicies policies) := by
  have step (registry : Registry Condition) (policy : ResourcePolicy) :
      registry.apply (.rule policy.type.name policy.conditions) =
        .ok (registry.overlay policy.type policy.conditions) := by
    simp [apply, add, Addition.name, Addition.content, Except.map]
  unfold compile ofPolicies
  simp only [step]
  exact List.foldlM_pure

/-- Building is a matter of the last addition to each slot, from whatever registry it starts. -/
theorem last_addition_wins (start : Registry ε) (additions : List (Addition ε)) :
    (∀ (registry : Registry ε) (addition : Addition ε),
      (ProperName addition.name → ∃ next, registry.apply addition = .ok next) ∧
      (¬ProperName addition.name → registry.apply addition = .error ⟨addition.name⟩ ∧
        registry.extend addition = registry)) ∧
    (∀ type direction evaluator,
      (start.extendAll additions).lookup type direction = some evaluator ↔
        (∃ addition, IsLast (·.Sets type direction) additions addition ∧
          addition.content.slot direction = some evaluator) ∨
        (∀ addition ∈ additions, ¬addition.Sets type direction) ∧
          start.lookup type direction = some evaluator) ∧
    (∀ type direction, (start.lookup type direction).isSome →
      ((start.extendAll additions).lookup type direction).isSome) ∧
    ((start.extendAll additions).types.map (·.name)).Pairwise
      (fun s t => Text.bytes s < Text.bytes t) ∧
    (∀ name, name ∈ (start.extendAll additions).types.map (·.name) ↔
      name ∈ start.types.map (·.name) ∨
        ∃ addition ∈ additions, ProperName addition.name ∧ addition.name = name) ∧
    (∀ name ∈ (start.extendAll additions).types.map (·.name), ProperName name) ∧
    (start.extendAll additions).size = (start.extendAll additions).types.length ∧
    (∀ type : TypeName, TypeName.ofString type.name = .ok type) ∧
    (∀ policies, compile policies = .ok (.ofPolicies policies)) := by
  refine ⟨?_, ?_, ?_, types_pairwise_bytes _, ?_, ?_, ?_, TypeName.ofString_name, compile_eq_ok⟩
  · intro registry addition
    refine ⟨fun proper => ⟨_, registry.apply_of_proper proper⟩, fun improper => ?_⟩
    have failed := registry.apply_of_improper improper
    exact ⟨failed, by rw [extend, failed]⟩
  · intro type direction evaluator
    exact lookup_extendAll_eq_some_iff
  · intro type direction occupied
    rw [extendAll, lookup_foldl fun registry addition =>
      lookup_extend registry addition type direction, Option.isSome_or, occupied, Bool.or_true]
  · intro name
    exact mem_names_extendAll_iff
  · intro name member
    exact properName_of_mem_types member
  · simp only [size, types, List.length_map]

/-- Some additions, of which the second has an improper name and the last sets no slot. -/
def layers : List (Addition Nat) := [.inbound "Post" 3, .outbound "my view" 4, .rule "Audit" .empty]

theorem last_addition_wins_layers :
    let start : Registry Nat := Registry.empty.overlay ⟨"Post", by decide⟩ ⟨some 1, some 2⟩
    start.apply (.outbound "my view" 4) = .error ⟨"my view"⟩ ∧
      (start.extendAll layers).lookup "Post" .inbound = some 3 ∧
      (start.extendAll layers).lookup "Post" .outbound = some 2 ∧
      "Audit" ∈ (start.extendAll layers).types.map (·.name) := by
  intro start
  obtain ⟨applied, slots, -, -, names, -⟩ := last_addition_wins start layers
  refine ⟨((applied start _).2 (by decide)).1, (slots _ _ _).mpr (.inl ?_),
    (slots _ _ _).mpr (.inr ⟨by decide, rfl⟩), (names _).mpr (.inr (by decide))⟩
  exact ⟨.inbound "Post" 3, ⟨[], _, rfl, by decide, by decide⟩, rfl⟩

end Registry

end ChannelGuard
