import ChannelGuard.Access.Registry

/-!
# Slots of a registry

A registry is a table from types and directions to evaluators, and `lookup` reads it. Putting an
evaluator into one slot leaves every other slot as it was, whatever the spelling of the names:
different texts never name the same type.
-/

namespace ChannelGuard

theorem TypeName.ofString_eq_ok_iff {name : String} {type : TypeName} :
    TypeName.ofString name = .ok type ↔ type.name = name := by
  constructor
  · intro h
    unfold TypeName.ofString at h
    split at h
    · cases h
      rfl
    · cases h
  · rintro rfl
    exact TypeName.ofString_name type

namespace AccessRule

variable {ε : Type}

@[simp] theorem slot_overlay (lower upper : AccessRule ε) (direction : Direction) :
    (lower.overlay upper).slot direction = (upper.slot direction).or (lower.slot direction) := by
  cases direction <;> rfl

@[simp] theorem slot_single_self (evaluator : ε) (direction : Direction) :
    (single evaluator direction).slot direction = some evaluator := by
  cases direction <;> rfl

theorem slot_single_of_ne (evaluator : ε) {direction other : Direction}
    (different : other ≠ direction) : (single evaluator direction).slot other = none := by
  cases direction <;> cases other
  · exact absurd rfl different
  · rfl
  · rfl
  · exact absurd rfl different

@[simp] theorem slot_map {δ : Type} (f : ε → δ) (rule : AccessRule ε) (direction : Direction) :
    (rule.map f).slot direction = (rule.slot direction).map f := by
  cases direction <;> rfl

end AccessRule

namespace Registry

variable {ε : Type}

@[simp] theorem ruleOf_overlay_self (registry : Registry ε) (type : TypeName)
    (rule : AccessRule ε) :
    (registry.overlay type rule).ruleOf type = (registry.ruleOf type).overlay rule := by
  simp [overlay, ruleOf]

theorem ruleOf_overlay_of_ne (registry : Registry ε) {type other : TypeName}
    (different : other ≠ type) (rule : AccessRule ε) :
    (registry.overlay type rule).ruleOf other = registry.ruleOf other := by
  simp [overlay, ruleOf, Keyed.find?_insert_of_ne different]

@[simp] theorem lookup_empty (name : String) (direction : Direction) :
    (empty : Registry ε).lookup name direction = none := by
  unfold lookup
  split
  · cases direction <;> rfl
  · rfl

/-- Laying a rule over that of a type changes the slots that it sets, and no other type. -/
theorem lookup_overlay (registry : Registry ε) (type : TypeName) (rule : AccessRule ε)
    (name : String) (direction : Direction) :
    (registry.overlay type rule).lookup name direction =
      (if type.name = name then rule.slot direction else none).or
        (registry.lookup name direction) := by
  unfold lookup
  cases hname : TypeName.ofString name with
  | error e =>
    have foreign : type.name ≠ name := by
      rintro rfl
      simp at hname
    rw [if_neg foreign, Option.none_or]
  | ok other =>
    have spelled := TypeName.ofString_eq_ok_iff.mp hname
    by_cases same : type = other
    · subst same
      simp only [ruleOf_overlay_self, AccessRule.slot_overlay, spelled, if_true]
    · have different : type.name ≠ name := fun h =>
        same (TypeName.eq_of_name_eq (h.trans spelled.symm))
      simp only [ruleOf_overlay_of_ne registry (Ne.symm same), if_neg different, Option.none_or]

theorem mem_types_overlay {registry : Registry ε} {type other : TypeName} {rule : AccessRule ε} :
    other ∈ (registry.overlay type rule).types ↔ other = type ∨ other ∈ registry.types :=
  Keyed.mem_keys_insert

/-- A text has a slot only if it is the name of a type. -/
theorem exists_typeName_of_lookup {registry : Registry ε} {name : String} {direction : Direction}
    {evaluator : ε} (h : registry.lookup name direction = some evaluator) :
    ∃ type : TypeName, type.name = name := by
  unfold lookup at h
  split at h
  · next type hname => exact ⟨type, TypeName.ofString_eq_ok_iff.mp hname⟩
  · cases h

theorem lookup_set_self {registry : Registry ε} {name : String} {direction : Direction}
    {old : ε} (h : registry.lookup name direction = some old) (evaluator : ε) :
    (registry.set name direction evaluator).lookup name direction = some evaluator := by
  obtain ⟨type, rfl⟩ := exists_typeName_of_lookup h
  simp [set, lookup]

theorem lookup_set_of_ne (registry : Registry ε) {name other : String}
    {direction otherDirection : Direction} (different : (other, otherDirection) ≠ (name, direction))
    (evaluator : ε) :
    (registry.set name direction evaluator).lookup other otherDirection =
      registry.lookup other otherDirection := by
  unfold set
  cases hname : TypeName.ofString name with
  | error e => rfl
  | ok type =>
    cases hother : TypeName.ofString other with
    | error e => simp only [lookup, hother]
    | ok otherType =>
      simp only [lookup, hother]
      have names := TypeName.ofString_eq_ok_iff.mp hname
      have otherNames := TypeName.ofString_eq_ok_iff.mp hother
      by_cases same : otherType = type
      · have turned : otherDirection ≠ direction := by
          rintro rfl
          exact different (by rw [← names, ← otherNames, same])
        rw [same, ruleOf_overlay_self, AccessRule.slot_overlay,
          AccessRule.slot_single_of_ne evaluator turned, Option.none_or]
      · rw [ruleOf_overlay_of_ne registry same]

private theorem find?_map {κ α β : Type} [DecidableEq κ] (f : α → β) (key : κ)
    (entries : List (κ × α)) :
    Keyed.find? key (entries.map fun (k, value) => (k, f value)) =
      (Keyed.find? key entries).map f := by
  induction entries with
  | nil => rfl
  | cons entry rest ih =>
    by_cases same : key = entry.1
    · simp [Keyed.find?, same]
    · simp only [List.map_cons, Keyed.find?, same, if_false, ih]

@[simp] theorem ruleOf_map {δ : Type} (f : ε → δ) (registry : Registry ε) (type : TypeName) :
    (registry.map f).ruleOf type = (registry.ruleOf type).map f := by
  unfold ruleOf map
  rw [find?_map]
  cases Keyed.find? type registry.entries <;> rfl

@[simp] theorem lookup_map {δ : Type} (f : ε → δ) (registry : Registry ε) (name : String)
    (direction : Direction) :
    (registry.map f).lookup name direction = (registry.lookup name direction).map f := by
  unfold lookup
  split
  · rw [ruleOf_map, AccessRule.slot_map]
  · rfl

end Registry

end ChannelGuard
