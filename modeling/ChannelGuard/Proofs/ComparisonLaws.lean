import ChannelGuard.Proofs.EqualityOfValues

/-!
# Laws of comparison

Equality is an equivalence on all values. Two strings and two numbers are ordered as well, strings
by their code points and numbers by their values as floats, and there the operators agree: of less,
equal and greater exactly one holds, and the others follow from these. No other values are ordered.
-/

namespace ChannelGuard

open Number (Binary64)

/-- The code points of a text. -/
def Text.codePoints (text : String) : List Nat := text.toList.map Char.toNat

theorem Text.lt_iff_codePoints_lt {s t : String} : s < t ↔ codePoints s < codePoints t := by
  rw [String.lt_iff, codePoints, codePoints]
  generalize s.toList = left
  generalize t.toList = right
  induction left generalizing right with
  | nil => cases right <;> simp
  | cons c rest ih =>
    cases right with
    | nil => simp
    | cons d others =>
      rw [List.map_cons, List.map_cons, List.cons_lt_cons_iff, List.cons_lt_cons_iff, ih,
        Char.toNat_inj]
      exact Iff.rfl

instance : Std.TransCmp Binary64.compare where
  eq_swap {x y} := Std.OrientedCmp.eq_swap (a := x.place) (b := y.place)
  isLE_trans {x y z} := Std.TransCmp.isLE_trans (a := x.place) (b := y.place) (c := z.place)

namespace Condition

/-- Two values that are ordered. -/
inductive Comparable : Json → Json → Prop where
  | strings (a b : String) : Comparable (.string a) (.string b)
  | numbers (m n : JsonNumber) : Comparable (.number m) (.number n)

/-- The operator asks for an order. -/
def Relation.AsksOrder : Relation → Prop
  | gt | lt | ge | le => True
  | eq | ne | mem => False

variable {a b c : Json} {o : Ordering}

/-! Equality -/

/-- The value with its numbers as equality reads them. -/
def asCompared : Json → Json
  | .number n => .number n.rounded
  | value => value.mapNumbers .plain

/-- Values are equal just when they are read as the same value. -/
theorem holds_eq_iff_asCompared : Relation.eq.Holds a b ↔ asCompared a = asCompared b := by
  cases a with
  | number m =>
    cases b with
    | number n => simp [holds_eq_number, asCompared]
    | null | bool _ | string _ | array _ | object _ =>
      simp [holds_eq_iff, looseEq, Json.same, asCompared, Json.mapNumbers]
  | null | bool _ | string _ | array _ | object _ =>
    rw [holds_eq_iff_same (by simp), Json.same_iff]
    cases b with
    | number n => simp [asCompared, Json.mapNumbers]
    | null | bool _ | string _ | array _ | object _ => rfl

theorem equivalence_holds_eq : Equivalence Relation.eq.Holds where
  refl _ := holds_eq_iff_asCompared.mpr rfl
  symm h := holds_eq_iff_asCompared.mpr (holds_eq_iff_asCompared.mp h).symm
  trans h h' := holds_eq_iff_asCompared.mpr <|
    (holds_eq_iff_asCompared.mp h).trans (holds_eq_iff_asCompared.mp h')

/-! Order -/

theorem Comparable.exists_order? (h : Comparable a b) : ∃ o, order? a b = some o := by
  cases h with
  | strings s t => exact ⟨_, rfl⟩
  | numbers m n => exact ⟨_, rfl⟩

theorem Comparable.of_order? (h : order? a b = some o) : Comparable a b := by
  cases a with
  | string s =>
    cases b with
    | string t => exact .strings s t
    | null | bool _ | number _ | array _ | object _ => cases h
  | number m =>
    cases b with
    | number n => exact .numbers m n
    | null | bool _ | string _ | array _ | object _ => cases h
  | null | bool _ | array _ | object _ => cases h

theorem order?_swap (h : order? a b = some o) : order? b a = some o.swap := by
  cases Comparable.of_order? h with
  | strings s t | numbers m n =>
    cases h
    exact congrArg some Std.OrientedCmp.eq_swap

theorem order?_eq_iff (h : order? a b = some o) : Relation.eq.Holds a b ↔ o = .eq := by
  cases Comparable.of_order? h with
  | strings s t =>
    cases h
    rw [Std.compare_eq_iff_eq, holds_eq_iff]
    exact beq_iff_eq
  | numbers m n =>
    cases h
    rw [Binary64.compare, Std.compare_eq_iff_eq, holds_eq_iff]
    exact beq_iff_eq

/-- A value that is ordered with two others is so as they are in one ordered type. -/
theorem exists_compare {o' : Ordering} (h : order? a b = some o) (h' : order? b c = some o') :
    ∃ (α : Type) (cmp : α → α → Ordering) (x y z : α), Std.TransCmp cmp ∧
      cmp x y = o ∧ cmp y z = o' ∧ order? a c = some (cmp x z) := by
  cases Comparable.of_order? h with
  | strings s t =>
    cases Comparable.of_order? h' with
    | strings _ u =>
      exact ⟨String, compare, s, t, u, inferInstance, Option.some.inj h, Option.some.inj h', rfl⟩
  | numbers m n =>
    cases Comparable.of_order? h' with
    | numbers _ k =>
      exact ⟨Binary64, Binary64.compare, m.toBinary64, n.toBinary64, k.toBinary64, inferInstance,
        Option.some.inj h, Option.some.inj h', rfl⟩

/-! Operators -/

variable {r : Relation}

theorem relate_of_asksOrder (asks : r.AsksOrder) (left right : Json) :
    relate r left right =
      match order? left right with
      | some o => .ok (r.holdsIn o)
      | none => .error (.unordered left right) := by
  cases r with
  | gt | lt | ge | le => rfl
  | eq | ne | mem => cases asks

theorem holds_iff_holdsIn (asks : r.AsksOrder) :
    r.Holds a b ↔ ∃ o, order? a b = some o ∧ r.holdsIn o = true := by
  rw [Relation.Holds, relate_of_asksOrder asks]
  cases order? a b with
  | none => simp
  | some o => simp

theorem holds_iff_of_order? (asks : r.AsksOrder) (h : order? a b = some o) :
    r.Holds a b ↔ r.holdsIn o = true := by
  simp [holds_iff_holdsIn asks, h]

theorem holds_lt_trans (h : Relation.lt.Holds a b) (h' : Relation.lt.Holds b c) :
    Relation.lt.Holds a c := by
  obtain ⟨o, ordered, less⟩ := (holds_iff_holdsIn (r := .lt) trivial).mp h
  obtain ⟨o', ordered', less'⟩ := (holds_iff_holdsIn (r := .lt) trivial).mp h'
  obtain ⟨α, cmp, x, y, z, _, rfl, rfl, whole⟩ := exists_compare ordered ordered'
  rw [holds_iff_of_order? (r := .lt) trivial whole]
  have first : cmp x y = .lt := Ordering.isLT_iff_eq_lt.mp less
  have second : cmp y z = .lt := Ordering.isLT_iff_eq_lt.mp less'
  exact Ordering.isLT_iff_eq_lt.mpr (Std.TransCmp.lt_trans first second)

theorem holds_le_trans (h : Relation.le.Holds a b) (h' : Relation.le.Holds b c) :
    Relation.le.Holds a c := by
  obtain ⟨o, ordered, notAbove⟩ := (holds_iff_holdsIn (r := .le) trivial).mp h
  obtain ⟨o', ordered', notAbove'⟩ := (holds_iff_holdsIn (r := .le) trivial).mp h'
  obtain ⟨α, cmp, x, y, z, _, rfl, rfl, whole⟩ := exists_compare ordered ordered'
  rw [holds_iff_of_order? (r := .le) trivial whole]
  exact Std.TransCmp.isLE_trans notAbove notAbove'

/-- The one of less, equal and greater that is true in an order. -/
def Relation.ofOrdering : Ordering → Relation
  | .lt => .lt
  | .eq => .eq
  | .gt => .gt

theorem holds_iff_eq_ofOrdering (h : order? a b = some o) (strict : r = .lt ∨ r = .eq ∨ r = .gt) :
    r.Holds a b ↔ r = .ofOrdering o := by
  rcases strict with rfl | rfl | rfl
  · rw [holds_iff_of_order? (r := .lt) trivial h]
    cases o <;> decide
  · rw [order?_eq_iff h]
    cases o <;> decide
  · rw [holds_iff_of_order? (r := .gt) trivial h]
    cases o <;> decide

/-- Of less, equal and greater one is true. -/
theorem exists_unique_holds (h : order? a b = some o) :
    ∃! r : Relation, (r = .lt ∨ r = .eq ∨ r = .gt) ∧ r.Holds a b := by
  have strict : Relation.ofOrdering o = .lt ∨ Relation.ofOrdering o = .eq ∨
      Relation.ofOrdering o = .gt := by cases o <;> decide
  refine ⟨.ofOrdering o, ⟨strict, (holds_iff_eq_ofOrdering h strict).mpr rfl⟩, ?_⟩
  rintro r ⟨among, holds⟩
  exact (holds_iff_eq_ofOrdering h among).mp holds

theorem holds_le_iff (h : order? a b = some o) :
    Relation.le.Holds a b ↔ Relation.lt.Holds a b ∨ Relation.eq.Holds a b := by
  rw [holds_iff_of_order? (r := .le) trivial h, holds_iff_of_order? (r := .lt) trivial h,
    order?_eq_iff h]
  cases o <;> decide

theorem holds_ge_iff (h : order? a b = some o) :
    Relation.ge.Holds a b ↔ Relation.gt.Holds a b ∨ Relation.eq.Holds a b := by
  rw [holds_iff_of_order? (r := .ge) trivial h, holds_iff_of_order? (r := .gt) trivial h,
    order?_eq_iff h]
  cases o <;> decide

theorem holds_lt_iff_gt (h : order? a b = some o) :
    Relation.lt.Holds a b ↔ Relation.gt.Holds b a := by
  rw [holds_iff_of_order? (r := .lt) trivial h,
    holds_iff_of_order? (r := .gt) trivial (order?_swap h)]
  cases o <;> decide

theorem relate_of_not_comparable (h : ¬ Comparable a b) (asks : r.AsksOrder) :
    relate r a b = .error (.unordered a b) := by
  rw [relate_of_asksOrder asks]
  cases ordered : order? a b with
  | none => rfl
  | some o => exact absurd (.of_order? ordered) h

theorem exists_relate_of_comparable (h : Comparable a b) (asks : r.AsksOrder) :
    ∃ answer, relate r a b = .ok answer := by
  obtain ⟨o, ordered⟩ := h.exists_order?
  exact ⟨r.holdsIn o, by rw [relate_of_asksOrder asks, ordered]⟩

theorem holds_lt_string {s t : String} :
    Relation.lt.Holds (.string s) (.string t) ↔ Text.codePoints s < Text.codePoints t := by
  rw [holds_iff_of_order? (r := .lt) trivial rfl, ← Text.lt_iff_codePoints_lt,
    ← compareOfLessAndEq_eq_lt]
  exact Ordering.isLT_iff_eq_lt

theorem holds_lt_number {m n : JsonNumber} :
    Relation.lt.Holds (.number m) (.number n) ↔ m.toBinary64.units < n.toBinary64.units := by
  rw [holds_iff_of_order? (r := .lt) trivial rfl, ← Binary64.place_lt_place_iff,
    ← compare_lt_iff_lt]
  exact Ordering.isLT_iff_eq_lt

/-- Equality is an equivalence on all values, and always answers as its opposite does not. Two
strings and two numbers are ordered, and there the operators agree; other values are not. -/
theorem comparisons_cohere :
    Equivalence Relation.eq.Holds ∧
    (∀ l r, ∃ answer, relate .eq l r = .ok answer ∧ relate .ne l r = .ok !answer) ∧
    (∀ l r, Comparable l r →
      (∃! op : Relation, (op = .lt ∨ op = .eq ∨ op = .gt) ∧ op.Holds l r) ∧
      (Relation.le.Holds l r ↔ Relation.lt.Holds l r ∨ Relation.eq.Holds l r) ∧
      (Relation.ge.Holds l r ↔ Relation.gt.Holds l r ∨ Relation.eq.Holds l r) ∧
      (Relation.lt.Holds l r ↔ Relation.gt.Holds r l) ∧
      ∀ op : Relation, op.AsksOrder → ∃ answer, relate op l r = .ok answer) ∧
    (∀ l r, ¬ Comparable l r →
      ∀ op : Relation, op.AsksOrder → relate op l r = .error (.unordered l r)) ∧
    (∀ a b c, Relation.lt.Holds a b → Relation.lt.Holds b c → Relation.lt.Holds a c) ∧
    (∀ a b c, Relation.le.Holds a b → Relation.le.Holds b c → Relation.le.Holds a c) ∧
    (∀ s t, Relation.lt.Holds (.string s) (.string t) ↔ Text.codePoints s < Text.codePoints t) ∧
    (∀ m n, Relation.lt.Holds (.number m) (.number n) ↔
      m.toBinary64.units < n.toBinary64.units) ∧
    ∀ op context left right l r, eval context left = .ok l → eval context right = .ok r →
      evaluate (.binary (.relation op) left right) context = relate op l r := by
  refine ⟨equivalence_holds_eq, fun l r => ⟨looseEq l r, rfl, rfl⟩, ?_,
    fun l r unordered op asks => relate_of_not_comparable unordered asks,
    fun a b c => holds_lt_trans, fun a b c => holds_le_trans, fun s t => holds_lt_string,
    fun m n => holds_lt_number,
    fun op context left right l r at_left at_right => evaluate_eq_relate at_left at_right⟩
  intro l r comparable
  obtain ⟨o, ordered⟩ := comparable.exists_order?
  exact ⟨exists_unique_holds ordered, holds_le_iff ordered, holds_ge_iff ordered,
    holds_lt_iff_gt ordered, fun op asks => exists_relate_of_comparable comparable asks⟩

/-- The integer zero is neither below nor above the negative zero, and a text is in no order with a
number. -/
theorem comparisons_cohere_zeros :
    let zero : Json := .number (.integer ⟨0, by decide⟩)
    let negativeZero : Json := .number (.float (.zero true))
    Relation.eq.Holds zero negativeZero ∧ ¬ Relation.lt.Holds zero negativeZero ∧
      Relation.le.Holds zero negativeZero ∧
      evaluate (.binary (.relation .lt) (.literal (.string "0")) (.literal zero)) .null =
        .error (.unordered (.string "0") zero) := by
  intro zero negativeZero
  obtain ⟨-, -, ordered, unordered, -, -, -, -, evaluated⟩ := comparisons_cohere
  have equal : Relation.eq.Holds zero negativeZero := rfl
  obtain ⟨one, atMost, -⟩ := ordered zero negativeZero (.numbers _ _)
  refine ⟨equal, ?_, atMost.mpr (.inr equal), ?_⟩
  · intro less
    cases one.unique ⟨.inl rfl, less⟩ ⟨.inr (.inl rfl), equal⟩
  · rw [evaluated .lt .null _ _ (.string "0") zero rfl rfl]
    refine unordered (.string "0") (.number _) ?_ .lt trivial
    intro comparable
    cases comparable

end Condition

end ChannelGuard
