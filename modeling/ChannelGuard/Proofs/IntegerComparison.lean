import ChannelGuard.Condition.Evaluation
import ChannelGuard.Proofs.NearestWhole

/-!
# Comparing integers

Conditions compare integers after each has been rounded to 53 significant binary digits. So integers
up to two to the power of 53 compare by value, and so do all that are exact; beyond, different
integers may count as equal and an order may be lost, but it is never turned around.
-/

namespace ChannelGuard

open Number (Binary64 IsExact NearestEven nearestWhole)

theorem WideInt.natAbs_le (i : WideInt) : i.value.natAbs ≤ 2 ^ 64 := by
  have fits := i.fits
  omega

theorem WideInt.value_inj {i j : WideInt} : i.value = j.value ↔ i = j := by
  refine ⟨fun same => ?_, congrArg WideInt.value⟩
  cases i
  cases j
  cases same
  rfl

/-- An integer as a JSON value. -/
def Json.integer (i : WideInt) : Json := .number (.integer i)

namespace Condition

/-! Integers as they are rounded -/

variable (a b : WideInt)

theorem looseEq_integer :
    looseEq (.integer a) (.integer b) = decide (nearestWhole a.value = nearestWhole b.value) := by
  have places := Binary64.place_ofInt_eq_iff a.natAbs_le b.natAbs_le
  have compared : looseEq (.integer a) (.integer b) =
      ((Binary64.ofInt a.value).place == (Binary64.ofInt b.value).place) := rfl
  rw [compared, Bool.eq_iff_iff, beq_iff_eq, decide_eq_true_eq]
  exact places

theorem relate_lt_integer :
    relate .lt (.integer a) (.integer b) =
      .ok (decide (nearestWhole a.value < nearestWhole b.value)) := by
  have places := Binary64.place_ofInt_lt_iff a.natAbs_le b.natAbs_le
  have compared : relate .lt (.integer a) (.integer b) =
      .ok (compare (Binary64.ofInt a.value).place (Binary64.ofInt b.value).place).isLT := rfl
  rw [compared]
  congr 1
  rw [Bool.eq_iff_iff, decide_eq_true_eq, Ordering.isLT_iff_eq_lt, compare_lt_iff_lt]
  exact places

theorem relate_mem_integer (row : List WideInt) :
    relate .mem (.integer a) (.array (row.map .integer)) =
      .ok (decide (∃ c ∈ row, nearestWhole a.value = nearestWhole c.value)) := by
  have compared : relate .mem (.integer a) (.array (row.map .integer)) =
      .ok ((row.map .integer).any (looseEq (.integer a))) := rfl
  rw [compared]
  congr 1
  rw [Bool.eq_iff_iff, decide_eq_true_eq, List.any_map, List.any_eq_true]
  simp only [Function.comp_apply, looseEq_integer, decide_eq_true_eq]

/-- A relation has its answer from the values of its sides. -/
theorem evaluate_eq_relate {r : Relation} {context l m : Json} {left right : Expr}
    (at_left : eval context left = .ok l) (at_right : eval context right = .ok m) :
    evaluate (.binary (.relation r) left right) context = relate r l m := by
  simp only [evaluate, eval, at_left, at_right, bind, Except.bind]
  cases relate r l m <;> rfl

/-- A relation of two paths holds between what they lead to. -/
theorem evaluate_relation (r : Relation) (x y : List String) (context : Json) :
    evaluate (.binary (.relation r) (.path x) (.path y)) context =
      relate r (resolve context x) (resolve context y) := evaluate_eq_relate rfl rfl

variable {a b} {context : Json} {x y z : List String}

theorem evaluate_eq_integers (at_x : resolve context x = .integer a)
    (at_y : resolve context y = .integer b) :
    evaluate (.binary (.relation .eq) (.path x) (.path y)) context =
      .ok (decide (nearestWhole a.value = nearestWhole b.value)) := by
  rw [evaluate_relation, at_x, at_y, ← looseEq_integer]
  rfl

theorem evaluate_lt_integers (at_x : resolve context x = .integer a)
    (at_y : resolve context y = .integer b) :
    evaluate (.binary (.relation .lt) (.path x) (.path y)) context =
      .ok (decide (nearestWhole a.value < nearestWhole b.value)) := by
  rw [evaluate_relation, at_x, at_y, relate_lt_integer]

theorem evaluate_mem_integers {row : List WideInt} (at_x : resolve context x = .integer a)
    (at_z : resolve context z = .array (row.map .integer)) :
    evaluate (.binary (.relation .mem) (.path x) (.path z)) context =
      .ok (decide (∃ c ∈ row, nearestWhole a.value = nearestWhole c.value)) := by
  rw [evaluate_relation, at_x, at_z, relate_mem_integer]

theorem evaluate_eq_iff (at_x : resolve context x = .integer a)
    (at_y : resolve context y = .integer b) :
    evaluate (.binary (.relation .eq) (.path x) (.path y)) context = .ok true ↔
      nearestWhole a.value = nearestWhole b.value := by
  rw [evaluate_eq_integers at_x at_y, Except.ok.injEq, decide_eq_true_eq]

theorem evaluate_lt_iff (at_x : resolve context x = .integer a)
    (at_y : resolve context y = .integer b) :
    evaluate (.binary (.relation .lt) (.path x) (.path y)) context = .ok true ↔
      nearestWhole a.value < nearestWhole b.value := by
  rw [evaluate_lt_integers at_x at_y, Except.ok.injEq, decide_eq_true_eq]

theorem evaluate_mem_iff {row : List WideInt} (at_x : resolve context x = .integer a)
    (at_z : resolve context z = .array (row.map .integer)) :
    evaluate (.binary (.relation .mem) (.path x) (.path z)) context = .ok true ↔
      ∃ c ∈ row, nearestWhole a.value = nearestWhole c.value := by
  rw [evaluate_mem_integers at_x at_z, Except.ok.injEq, decide_eq_true_eq]

/-- An integer is found in an array by value just when rounding makes it a member only if it is
one. -/
theorem evaluate_mem_faithful_iff {row : List WideInt} (at_x : resolve context x = .integer a)
    (at_z : resolve context z = .array (row.map .integer)) :
    (evaluate (.binary (.relation .mem) (.path x) (.path z)) context = .ok true ↔ a ∈ row) ↔
      ∀ c ∈ row, nearestWhole a.value = nearestWhole c.value → a ∈ row := by
  rw [evaluate_mem_iff at_x at_z]
  constructor
  · intro faithful c here same
    exact faithful.mp ⟨c, here, same⟩
  · intro apart
    constructor
    · rintro ⟨c, here, same⟩
      exact apart c here same
    · intro here
      exact ⟨a, here, rfl⟩

/-- Integers at the ends of paths compare as they are rounded: by value unless rounding makes two
one, so in any case as long as they are exact, and never the wrong way round. -/
theorem integers_compare_rounded {context : Json} {x y : List String}
    (at_x : resolve context x = .integer a) (at_y : resolve context y = .integer b) :
    let equal := evaluate (.binary (.relation .eq) (.path x) (.path y)) context
    let less := evaluate (.binary (.relation .lt) (.path x) (.path y)) context
    let byValue := (equal = .ok true ↔ a = b) ∧ (less = .ok true ↔ a.value < b.value)
    (∀ i, NearestEven i (nearestWhole i) ∧ (i.natAbs ≤ 2 ^ 53 → IsExact i)) ∧
    equal = .ok (decide (nearestWhole a.value = nearestWhole b.value)) ∧
    less = .ok (decide (nearestWhole a.value < nearestWhole b.value)) ∧
    (byValue ↔ (nearestWhole a.value = nearestWhole b.value → a = b)) ∧
    (IsExact a.value → IsExact b.value → byValue) ∧
    (a = b → equal = .ok true) ∧ (less = .ok true → a.value < b.value) ∧
    ∀ (z : List String) (row : List WideInt),
      resolve context z = .array (row.map .integer) →
        let member := evaluate (.binary (.relation .mem) (.path x) (.path z)) context
        let byValue := member = .ok true ↔ a ∈ row
        member = .ok (decide (∃ c ∈ row, nearestWhole a.value = nearestWhole c.value)) ∧
        (byValue ↔ ∀ c ∈ row, nearestWhole a.value = nearestWhole c.value → a ∈ row) ∧
        (IsExact a.value → (∀ c ∈ row, IsExact c.value) → byValue) ∧
        (a ∈ row → member = .ok true) := by
  intro equal less byValue
  have equal_iff : equal = .ok true ↔ _ := evaluate_eq_iff at_x at_y
  have less_iff : less = .ok true ↔ _ := evaluate_lt_iff at_x at_y
  have byValue_iff : byValue ↔ (nearestWhole a.value = nearestWhole b.value → a = b) := by
    unfold byValue
    rw [equal_iff, less_iff, ← WideInt.value_inj]
    exact Number.nearestWhole_faithful_iff
  refine ⟨fun i => ⟨Number.nearestEven_nearestWhole i, Number.isExact_of_natAbs_le⟩,
    evaluate_eq_integers at_x at_y, evaluate_lt_integers at_x at_y, byValue_iff, ?_, ?_, ?_, ?_⟩
  · intro exact exact'
    rw [byValue_iff, Number.nearestWhole_of_isExact exact, Number.nearestWhole_of_isExact exact']
    exact WideInt.value_inj.mp
  · rintro rfl
    exact equal_iff.mpr rfl
  · intro holds
    exact Number.lt_of_nearestWhole_lt (less_iff.mp holds)
  · intro z row at_z member byValue
    have byValue_iff : byValue ↔ _ := evaluate_mem_faithful_iff at_x at_z
    refine ⟨evaluate_mem_integers at_x at_z, byValue_iff, ?_, ?_⟩
    · intro exact exacts
      apply byValue_iff.mpr
      intro c here same
      rw [Number.nearestWhole_of_isExact exact, Number.nearestWhole_of_isExact (exacts c here),
        WideInt.value_inj] at same
      rwa [same]
    · intro here
      exact (evaluate_mem_iff at_x at_z).mpr ⟨a, here, rfl⟩

/-- The greatest whole number up to which all are exact. -/
def lastExact : WideInt := ⟨9007199254740992, by decide⟩

theorem integers_compare_rounded_exact :
    let minusSeven : WideInt := ⟨-7, by decide⟩
    let context : Json := .object [("x", .integer minusSeven), ("y", .integer lastExact),
      ("z", .array [.integer lastExact, .integer minusSeven])]
    resolve context ["x"] = .integer minusSeven ∧ resolve context ["y"] = .integer lastExact ∧
      IsExact minusSeven.value ∧ IsExact lastExact.value ∧
      evaluate (.binary (.relation .eq) (.path ["x"]) (.path ["y"])) context ≠ .ok true ∧
      evaluate (.binary (.relation .lt) (.path ["x"]) (.path ["y"])) context = .ok true ∧
      evaluate (.binary (.relation .mem) (.path ["x"]) (.path ["z"])) context = .ok true := by
  intro minusSeven context
  have at_x : resolve context ["x"] = .integer minusSeven := rfl
  have at_y : resolve context ["y"] = .integer lastExact := rfl
  have at_z : resolve context ["z"] = .array ([lastExact, minusSeven].map .integer) := rfl
  obtain ⟨near, -, -, -, exact, -, -, listed⟩ := integers_compare_rounded at_x at_y
  have short : IsExact minusSeven.value := (near minusSeven.value).2 (by decide)
  have short' : IsExact lastExact.value := (near lastExact.value).2 (by decide)
  obtain ⟨equal, less⟩ := exact short short'
  refine ⟨at_x, at_y, short, short', ?_, less.mpr (by decide), ?_⟩
  · rw [Ne, equal]
    decide
  · obtain ⟨-, -, -, found⟩ := listed ["z"] [lastExact, minusSeven] at_z
    exact found (by decide)

/-- The first whole number that is not exact. -/
def firstInexact : WideInt := ⟨9007199254740993, by decide⟩

def neighbours : Json :=
  .object [("x", .integer lastExact), ("y", .integer firstInexact),
    ("z", .array [.integer firstInexact])]

/-- Neighbours become one number in equations, in comparisons and among the members of an array. -/
theorem neighbours_collapse :
    resolve neighbours ["x"] = .integer lastExact ∧
      resolve neighbours ["y"] = .integer firstInexact ∧
      resolve neighbours ["z"] = .array [.integer firstInexact] ∧
      lastExact ≠ firstInexact ∧ lastExact.value < firstInexact.value ∧
      evaluate (.binary (.relation .eq) (.path ["x"]) (.path ["y"])) neighbours = .ok true ∧
      evaluate (.binary (.relation .lt) (.path ["x"]) (.path ["y"])) neighbours = .ok false ∧
      evaluate (.binary (.relation .mem) (.path ["x"]) (.path ["z"])) neighbours = .ok true :=
  ⟨rfl, rfl, rfl, by decide, by decide, rfl, rfl, rfl⟩

end Condition

end ChannelGuard
