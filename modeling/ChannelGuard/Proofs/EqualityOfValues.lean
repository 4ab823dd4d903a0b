import ChannelGuard.Proofs.IntegerComparison
import ChannelGuard.Proofs.NumbersInValues

/-!
# Equality of values

Two numbers are equal if they have one value, but inside arrays and objects they have to be of one
kind as well: there an integer equals no float, and integers equal each other only exactly. So `1`
equals `1.0`, and `[1]` does not equal `[1.0]`. Otherwise equality is what it would be if numbers
were compared by value at every depth.
-/

namespace ChannelGuard

open Number (Binary64 IsExact)

/-! Maps by their keys -/

namespace Keyed

variable {κ α : Type} [DecidableEq κ]

section

variable [LT κ] {key other : κ} {value value' : α} {rest others : List (κ × α)}

/-- What is found under another key than the first stands behind it. -/
theorem Ascending.lt_of_isSome (h : Ascending ((key, value) :: rest)) (different : other ≠ key)
    (listed : (find? other ((key, value) :: rest)).isSome) : key < other := by
  obtain ⟨found, at_other⟩ := Option.isSome_iff_exists.mp listed
  rw [find?_cons_of_ne different] at at_other
  exact (List.pairwise_cons.mp h).1 (other, found) (mem_of_find? at_other)

/-- Of two maps that each have the first key of the other the first keys are the same. -/
theorem Ascending.first_key_eq [Std.Asymm fun s t : κ => s < t]
    (h : Ascending ((key, value) :: rest)) (h' : Ascending ((other, value') :: others))
    (listed : (find? key ((other, value') :: others)).isSome)
    (listed' : (find? other ((key, value) :: rest)).isSome) : key = other := by
  by_contra different
  have before : key < other := h.lt_of_isSome (Ne.symm different) listed'
  have behind : other < key := h'.lt_of_isSome different listed
  exact Std.Asymm.asymm key other before behind

theorem Ascending.find?_rest [Std.Irrefl fun s t : κ => s < t]
    (h : Ascending ((key, value) :: rest)) : find? key rest = none := by
  rw [Option.eq_none_iff_forall_ne_some]
  intro found at_key
  exact Std.Irrefl.irrefl key ((List.pairwise_cons.mp h).1 (key, found) (mem_of_find? at_key))

end

variable {R : α → α → Prop} {as bs : List (κ × α)}

theorem rel_find?_of_forall₂ (h : List.Forall₂ (fun a b => a.1 = b.1 ∧ R a.2 b.2) as bs)
    (key : κ) : Option.Rel R (find? key as) (find? key bs) := by
  induction h with
  | nil => exact .none
  | @cons a b as bs first others ih =>
    obtain ⟨same, related⟩ := first
    by_cases here : key = a.1
    · rw [find?, if_pos here, find?, if_pos (here.trans same)]
      exact .some related
    · rw [find?, if_neg here, find?, if_neg (same ▸ here)]
      exact ih

theorem isSome_eq_of_rel {x y : Option α} (h : Option.Rel R x y) : x.isSome = y.isSome := by
  cases h <;> rfl

variable [LT κ] [Std.Asymm fun s t : κ => s < t]

/-- Maps agree entry by entry just when they agree under each key. -/
theorem forall₂_iff_rel_find? (h : Ascending as) (h' : Ascending bs) :
    List.Forall₂ (fun a b => a.1 = b.1 ∧ R a.2 b.2) as bs ↔
      ∀ key, Option.Rel R (find? key as) (find? key bs) := by
  refine ⟨rel_find?_of_forall₂, fun agree => ?_⟩
  induction as generalizing bs with
  | nil =>
    cases bs with
    | nil => exact .nil
    | cons b others =>
      have extra := agree b.1
      rw [find?_cons_self] at extra
      cases extra
  | cons a rest ih =>
    have first := agree a.1
    rw [find?_cons_self] at first
    cases bs with
    | nil => cases first
    | cons b others =>
      have same : a.1 = b.1 := by
        refine h.first_key_eq h' ?_ ?_
        · rw [← isSome_eq_of_rel first, Option.isSome_some]
        · rw [isSome_eq_of_rel (agree b.1), find?_cons_self, Option.isSome_some]
      obtain ⟨key, value⟩ := a
      obtain ⟨_, value'⟩ := b
      cases same
      rw [find?_cons_self] at first
      cases first with
      | some related =>
        refine .cons ⟨rfl, related⟩
          (ih (List.pairwise_cons.mp h).2 (List.pairwise_cons.mp h').2 fun other => ?_)
        -- Under the first key nothing is left, and under the others nothing has changed.
        by_cases here : other = key
        · rw [here, h.find?_rest, h'.find?_rest]
          exact .none
        · have later := agree other
          rwa [find?_cons_of_ne here, find?_cons_of_ne here] at later

end Keyed

/-! Classes of numbers -/

namespace Number.Binary64

/-- The number itself, or the positive zero in place of the negative one. -/
def plain (x : Binary64) : Binary64 := { x with negative := x.negative && !x.isZero }

theorem place_plain (x : Binary64) : x.plain.place = x.place := by
  unfold plain place isZero
  cases x.negative with
  | false => rfl
  | true => by_cases zero : x.magnitude = 0 <;> simp [zero]

theorem place_eq_iff_plain_eq {x y : Binary64} : x.place = y.place ↔ x.plain = y.plain := by
  constructor
  · intro same
    obtain ⟨negative, magnitude, finite⟩ := x
    obtain ⟨negative', magnitude', finite'⟩ := y
    simp only [place] at same
    have size : magnitude = magnitude' := by
      split at same <;> split at same <;> omega
    subst size
    rcases Nat.eq_zero_or_pos magnitude with zero | positive
    · simp [plain, isZero, zero]
    · have sign : negative = negative' := by
        cases negative <;> cases negative' <;> simp at same ⊢ <;> omega
      rw [sign]
  · intro same
    rw [← place_plain x, same, place_plain]

end Number.Binary64

namespace JsonNumber

/-- The number up to the sign of a zero. -/
def plain : JsonNumber → JsonNumber
  | integer i => integer i
  | float x => float x.plain

/-- The float that stands for the number where numbers are compared by value. -/
def rounded (n : JsonNumber) : JsonNumber := float n.toBinary64.plain

variable {m n : JsonNumber}

theorem same_iff : m.same n = true ↔ m.plain = n.plain := by
  cases m with
  | integer i =>
    cases n with
    | integer j => simp [same, plain, WideInt.value_inj]
    | float y => simp [same, plain]
  | float x =>
    cases n with
    | integer j => simp [same, plain]
    | float y => simp [same, plain, Binary64.sameValue, Binary64.place_eq_iff_plain_eq]

theorem sameValue_iff : m.toBinary64.sameValue n.toBinary64 = true ↔ m.rounded = n.rounded := by
  rw [Binary64.sameValue, beq_iff_eq, Binary64.place_eq_iff_plain_eq, rounded, rounded,
    float.injEq]

theorem rounded_plain (n : JsonNumber) : n.plain.rounded = n.rounded := by
  cases n with
  | integer i => rfl
  | float x => exact congrArg float (Binary64.place_eq_iff_plain_eq.mp x.place_plain)

end JsonNumber

namespace Json

theorem sameItems_iff {as bs : List Json} :
    sameItems as bs = true ↔ List.Forall₂ (fun a b => same a b = true) as bs := by
  induction as generalizing bs with
  | nil => cases bs <;> simp [sameItems]
  | cons a rest ih => cases bs <;> simp [sameItems, ih]

theorem sameMembers_iff {as bs : List (String × Json)} :
    sameMembers as bs = true ↔
      List.Forall₂ (fun a b => a.1 = b.1 ∧ same a.2 b.2 = true) as bs := by
  induction as generalizing bs with
  | nil => cases bs <;> simp [sameMembers]
  | cons a rest ih => cases bs <;> simp [sameMembers, ih]

/-- Values are the same if only the signs of zeros tell them apart. -/
theorem same_iff {a b : Json} : same a b = true ↔ a.mapNumbers .plain = b.mapNumbers .plain := by
  induction a using induct generalizing b with
  | null | bool _ | string _ => cases b <;> simp [same, mapNumbers]
  | number m => cases b <;> simp [same, mapNumbers, JsonNumber.same_iff]
  | array items ih =>
    cases b with
    | array others =>
      simp only [same, mapNumbers, array.injEq, mapItems_eq, sameItems_iff]
      exact forall₂_iff_map_eq fun item member b => ih item member
    | _ => simp [same, mapNumbers]
  | object members ih =>
    cases b with
    | object others =>
      simp only [same, mapNumbers, object.injEq, mapMembers_eq, sameMembers_iff]
      refine forall₂_iff_map_eq fun member listed b => ?_
      simp only [ih member listed, Prod.ext_iff, Prod.map_fst, Prod.map_snd, id]
    | _ => simp [same, mapNumbers]

end Json

namespace Condition

/-- The operator `r` is true of two values. -/
def Relation.Holds (r : Relation) (left right : Json) : Prop := relate r left right = .ok true

/-- Equality in which numbers compare by value at every depth. -/
def EqualByValue (a b : Json) : Prop := a.mapNumbers .rounded = b.mapNumbers .rounded

/-- The numbers that stand in one place of two values are of one kind and equal within it. -/
def NumbersAlike (a b : Json) : Prop :=
  List.Forall₂ (fun m n => m.same n = true) a.numbers b.numbers

/-- Arrays and objects are equal as their parts are: arrays item by item, and objects that have the
same keys under each of them. -/
structure LooksInside (equal parts : Json → Json → Prop) : Prop where
  array (as bs : List Json) : equal (.array as) (.array bs) ↔ List.Forall₂ parts as bs
  object (as bs : List (String × Json)) (h : Keyed.Ascending as) (h' : Keyed.Ascending bs) :
    equal (.object as) (.object bs) ↔
      ∀ key, Option.Rel parts (Keyed.find? key as) (Keyed.find? key bs)

variable {a b : Json}

theorem numbersAlike_iff :
    NumbersAlike a b ↔ a.numbers.map JsonNumber.plain = b.numbers.map JsonNumber.plain :=
  forall₂_iff_map_eq fun _ _ _ => JsonNumber.same_iff

theorem same_iff_equalByValue : a.same b = true ↔ EqualByValue a b ∧ NumbersAlike a b := by
  rw [Json.same_iff, numbersAlike_iff]
  exact Json.mapNumbers_eq_iff JsonNumber.rounded_plain

theorem holds_eq_iff : Relation.eq.Holds a b ↔ looseEq a b = true := by
  simp [Relation.Holds, relate]

theorem holds_eq_number {m n : JsonNumber} :
    Relation.eq.Holds (.number m) (.number n) ↔ m.rounded = n.rounded := by
  rw [holds_eq_iff, looseEq, JsonNumber.sameValue_iff]

theorem equalByValue_number {m n : JsonNumber} :
    EqualByValue (.number m) (.number n) ↔ m.rounded = n.rounded := by
  simp [EqualByValue, Json.mapNumbers]

theorem holds_eq_iff_same (structured : ∀ n, a ≠ .number n) :
    Relation.eq.Holds a b ↔ a.same b = true := by
  rw [holds_eq_iff]
  cases a with
  | number n => exact absurd rfl (structured n)
  | null | bool _ | string _ | array _ | object _ => rfl

theorem holds_eq_iff_equalByValue :
    Relation.eq.Holds a b ↔ EqualByValue a b ∧ ((∃ n, a = .number n) ∨ NumbersAlike a b) := by
  by_cases number : ∃ n, a = .number n
  · obtain ⟨m, rfl⟩ := number
    cases b with
    | number n => simp [holds_eq_number, equalByValue_number]
    | null | bool _ | string _ | array _ | object _ =>
      simp [holds_eq_iff, looseEq, Json.same, EqualByValue, Json.mapNumbers]
  · rw [holds_eq_iff_same fun n same => number ⟨n, same⟩, same_iff_equalByValue]
    simp [number]

/-- Inside arrays and objects equality is what it is elsewhere, of numbers of one kind. -/
theorem same_iff_holds_eq : a.same b = true ↔ Relation.eq.Holds a b ∧ NumbersAlike a b := by
  rw [same_iff_equalByValue, holds_eq_iff_equalByValue]
  constructor
  · rintro ⟨equal, alike⟩
    exact ⟨⟨equal, .inr alike⟩, alike⟩
  · rintro ⟨⟨equal, -⟩, alike⟩
    exact ⟨equal, alike⟩

theorem equalByValue_looksInside : LooksInside EqualByValue EqualByValue where
  array as bs := by
    simp only [EqualByValue, Json.mapNumbers, Json.mapItems_eq, Json.array.injEq]
    exact (forall₂_iff_map_eq fun _ _ _ => Iff.rfl).symm
  object as bs h h' := by
    rw [← Keyed.forall₂_iff_rel_find? h h',
      forall₂_iff_map_eq (f := Prod.map id (Json.mapNumbers .rounded))]
    · simp only [EqualByValue, Json.mapNumbers, Json.mapMembers_eq, Json.object.injEq]
    · intro member _ other
      simp [EqualByValue, Prod.ext_iff]

theorem holds_eq_looksInside :
    LooksInside Relation.eq.Holds fun a b => Relation.eq.Holds a b ∧ NumbersAlike a b where
  array as bs := by
    simp only [← same_iff_holds_eq]
    rw [holds_eq_iff_same (by simp), Json.same, Json.sameItems_iff]
  object as bs h h' := by
    simp only [← same_iff_holds_eq]
    rw [holds_eq_iff_same (by simp), Json.same, Json.sameMembers_iff]
    exact Keyed.forall₂_iff_rel_find? (R := fun a b => a.same b = true) h h'

/-- All numbers of a row are floats, or all are integers that have a float of their own. -/
def OfOneKind (row : List JsonNumber) : Prop :=
  (∀ n ∈ row, ∃ x, n = .float x) ∨ ∀ n ∈ row, ∃ i : WideInt, n = .integer i ∧ IsExact i.value

theorem OfOneKind.plain_eq {row : List JsonNumber} (h : OfOneKind row) {m n : JsonNumber}
    (here : m ∈ row) (there : n ∈ row) (equal : m.rounded = n.rounded) : m.plain = n.plain := by
  rcases h with floats | integers
  · obtain ⟨x, rfl⟩ := floats m here
    obtain ⟨y, rfl⟩ := floats n there
    exact equal
  · obtain ⟨i, rfl, exact_i⟩ := integers m here
    obtain ⟨j, rfl, exact_j⟩ := integers n there
    have rounded := beq_iff_eq.mp (JsonNumber.sameValue_iff.mpr equal)
    have places := (Binary64.place_ofInt_eq_iff i.natAbs_le j.natAbs_le).mp rounded
    rw [Number.nearestWhole_of_isExact exact_i, Number.nearestWhole_of_isExact exact_j] at places
    rw [WideInt.value_inj.mp places]

/-- Where all numbers are of one kind it makes no difference that kinds are told apart. -/
theorem OfOneKind.numbersAlike (h : OfOneKind (a.numbers ++ b.numbers)) (equal : EqualByValue a b) :
    NumbersAlike a b := by
  have rows : a.numbers.map JsonNumber.rounded = b.numbers.map JsonNumber.rounded := by
    rw [← Json.numbers_mapNumbers, ← Json.numbers_mapNumbers, equal]
  rw [numbersAlike_iff]
  refine map_eq_map_of_each rows fun m here n there => ?_
  exact h.plain_eq (List.mem_append_left _ here) (List.mem_append_right _ there)

/-- Equality is equality by value but for the numbers inside arrays and objects, which have to be of
one kind. So it looks into arrays and objects as equality by value does, except that parts which
are equal numbers of different kinds differ, and it is equality by value where all numbers are of
one kind. -/
theorem equality_within_kinds (l r : Json) :
    (Relation.eq.Holds l r ↔
      EqualByValue l r ∧ ((∃ n, l = .number n) ∨ NumbersAlike l r)) ∧
    (OfOneKind (l.numbers ++ r.numbers) → (Relation.eq.Holds l r ↔ EqualByValue l r)) ∧
    (∀ m n, EqualByValue (.number m) (.number n) ↔ Relation.eq.Holds (.number m) (.number n)) ∧
    LooksInside EqualByValue EqualByValue ∧
    LooksInside Relation.eq.Holds fun a b => Relation.eq.Holds a b ∧ NumbersAlike a b := by
  refine ⟨holds_eq_iff_equalByValue, ?_, ?_, equalByValue_looksInside, holds_eq_looksInside⟩
  · intro kind
    rw [holds_eq_iff_equalByValue]
    exact ⟨And.left, fun equal => ⟨equal, .inr (kind.numbersAlike equal)⟩⟩
  · intro m n
    rw [equalByValue_number, holds_eq_number]

/-- The two zeros are floats, so they are equal inside an array as they are outside. -/
theorem equality_within_kinds_zeros :
    let left : Json := .array [.number (.float (.zero false))]
    let right : Json := .array [.number (.float (.zero true))]
    OfOneKind (left.numbers ++ right.numbers) ∧ EqualByValue left right ∧
      Relation.eq.Holds left right := by
  intro left right
  have kind : OfOneKind [.float (.zero false), .float (.zero true)] := by
    left
    simp
  have equal : EqualByValue left right := rfl
  exact ⟨kind, equal, ((equality_within_kinds left right).2.1 kind).mpr equal⟩

/-- The number one, written as an integer. -/
def one : JsonNumber := .integer ⟨1, by decide⟩

/-- The number one, written with a fraction. -/
def onePointZero : JsonNumber := .float (.ofInt 1)

def mixedKinds : Json :=
  .object [("x", .array [.number one]), ("y", .array [.number onePointZero])]

/-- One number in two kinds is equal outside arrays and objects and unequal inside. -/
theorem kinds_differ_inside :
    Relation.eq.Holds (.number one) (.number onePointZero) ∧
      resolve mixedKinds ["x"] = .array [.number one] ∧
      resolve mixedKinds ["y"] = .array [.number onePointZero] ∧
      evaluate (.binary (.relation .eq) (.path ["x"]) (.path ["y"])) mixedKinds = .ok false ∧
      ¬ LooksInside Relation.eq.Holds Relation.eq.Holds := by
  have same : Relation.eq.Holds (.number one) (.number onePointZero) := rfl
  refine ⟨same, rfl, rfl, rfl, ?_⟩
  intro inside
  have equal := (inside.array [.number one] [.number onePointZero]).mpr (.cons same .nil)
  cases equal

end Condition

end ChannelGuard
