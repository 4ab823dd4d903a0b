import ChannelGuard.Number.Binary64
import Mathlib.Order.Monotone.Basic
import Mathlib.Tactic.LinearCombination
import Mathlib.Tactic.Ring

/-!
# Whole numbers in binary64

A binary64 number has 53 significant binary digits, so a longer whole number becomes the nearest one
that has no more, and a tie goes to the even one. Which one that is is settled by distances alone.
Rounding never turns an order around, but it may let it collapse. The pattern of a number orders it
by its value, so numbers are compared as they are rounded.
-/

namespace ChannelGuard.Number

/-! Nearest whole numbers -/

/-- The whole number has at most 53 significant binary digits. -/
def IsExact (i : Int) : Prop := ∃ (significand : Int) (zeros : Nat),
  significand.natAbs < 2 ^ 53 ∧ i = significand * 2 ^ zeros

/-- Of the exact numbers `r` is nearest to `i`; of two as near it is the one that their distance
divides an even number of times. -/
structure NearestEven (i r : Int) : Prop where
  exact : IsExact r
  nearest : ∀ s, IsExact s → (i - r).natAbs ≤ (i - s).natAbs
  even : ∀ s, IsExact s → s ≠ r → (i - s).natAbs = (i - r).natAbs → 2 * (s - r) ∣ r

theorem IsExact.neg {i : Int} (exact : IsExact i) : IsExact (-i) := by
  obtain ⟨significand, zeros, short, rfl⟩ := exact
  refine ⟨-significand, zeros, ?_, by rw [Int.neg_mul]⟩
  rwa [Int.natAbs_neg]

theorem isExact_of_natAbs_le {i : Int} (small : i.natAbs ≤ 2 ^ 53) : IsExact i := by
  rcases Nat.lt_or_eq_of_le small with below | top
  · exact ⟨i, 0, below, by simp⟩
  · refine ⟨i.sign, 53, ?_, ?_⟩
    · rw [Int.natAbs_sign]
      split <;> decide
    · have split := Int.sign_mul_natAbs i
      rw [top] at split
      exact split.symm

namespace NearestEven

variable {i j r s : Int}

theorem eq_self (near : NearestEven i r) (exact : IsExact i) : r = i := by
  have closest := near.nearest i exact
  omega

theorem mono (near : NearestEven i r) (near' : NearestEven j s) (le : i ≤ j) : r ≤ s := by
  have closest := near.nearest s near'.exact
  have closest' := near'.nearest r near.exact
  by_contra reversed
  -- both lie at the middle of the two roundings, so one number has been rounded in two ways
  have same : i = j := by omega
  subst same
  have tie : (i - s).natAbs = (i - r).natAbs := Nat.le_antisymm closest' closest
  obtain ⟨a, ha⟩ := near.even s near'.exact (by omega) tie
  obtain ⟨b, hb⟩ := near'.even r near.exact (by omega) tie.symm
  have odd : (s - r) * (2 * a + 2 * b + 1) = 0 := by
    linear_combination hb - ha
  rcases Int.mul_eq_zero.mp odd with zero | zero
  · omega
  · omega

/-- The distances settle which number it is. -/
theorem unique (near : NearestEven i r) (near' : NearestEven i s) : r = s :=
  Int.le_antisymm (near.mono near' (Int.le_refl i)) (near'.mono near (Int.le_refl i))

theorem neg (near : NearestEven i r) : NearestEven (-i) (-r) where
  exact := near.exact.neg
  nearest s exact := by
    have closest := near.nearest (-s) exact.neg
    omega
  even s exact different tie := by
    have divides := near.even (-s) exact.neg (by omega) (by omega)
    have turned : 2 * (s - -r) = -(2 * (-s - r)) := by ring
    rw [turned, Int.neg_dvd, Int.dvd_neg]
    exact divides

end NearestEven

/-! Rounding -/

theorem divNearestEven_spec (num : Nat) {den : Nat} (positive : 0 < den) :
    2 * ((num : Int) - divNearestEven num den * den).natAbs ≤ den ∧
      (2 * ((num : Int) - divNearestEven num den * den).natAbs = den →
        divNearestEven num den % 2 = 0) := by
  have parts : (den : Int) * (num / den : Nat) + (num % den : Nat) = num := by
    exact_mod_cast Nat.div_add_mod num den
  have rest := Nat.mod_lt num positive
  have down : (num : Int) - (num / den : Nat) * den = (num % den : Nat) := by
    rw [← parts]
    ring
  have up : (num : Int) - (num / den + 1 : Nat) * den = (num % den : Nat) - den := by
    rw [← parts]
    push_cast
    ring
  unfold divNearestEven
  dsimp only
  split
  · rw [down]
    omega
  · split
    · rw [up]
      omega
    · rcases Nat.mod_two_eq_zero_or_one (num / den) with even | odd
      · rw [even, Nat.add_zero, down]
        omega
      · rw [odd, up]
        omega

theorem divNearestEven_one (num : Nat) : divNearestEven num 1 = num := by
  have near := (divNearestEven_spec num Nat.one_pos).1
  omega

/-- A quotient between two whole numbers is rounded to one between them. -/
theorem divNearestEven_mem {num den low high : Nat} (positive : 0 < den) (above : low * den ≤ num)
    (below : num < high * den) :
    low ≤ divNearestEven num den ∧ divNearestEven num den ≤ high := by
  have floor_ge : low ≤ num / den := (Nat.le_div_iff_mul_le positive).mpr above
  have floor_lt : num / den < high := (Nat.div_lt_iff_lt_mul positive).mpr below
  have parity := Nat.mod_two_eq_zero_or_one (num / den)
  unfold divNearestEven
  dsimp only
  split
  · omega
  · split
    · omega
    · omega

/-- How many binary digits of a number are too many. -/
def excess (n : Nat) : Nat := n.log2 - 52

/-- The 53 digits that are left of a number when it is rounded. -/
def leadingDigits (n : Nat) : Nat := divNearestEven n (2 ^ excess n)

/-- What a number is rounded to. -/
def rounded (n : Nat) : Nat := leadingDigits n * 2 ^ excess n

/-- The nearest whole number with 53 significant binary digits, a tie going to the even one. -/
def nearestWhole (i : Int) : Int := if i < 0 then -rounded i.natAbs else rounded i.natAbs

theorem excess_eq_zero_or_le (n : Nat) : excess n = 0 ∨ 2 ^ 52 * 2 ^ excess n ≤ n := by
  unfold excess
  rcases Nat.le_total n.log2 52 with short | long
  · exact .inl (Nat.sub_eq_zero_of_le short)
  · right
    have whole : n ≠ 0 := by
      rintro rfl
      exact absurd long (by decide)
    rw [← Nat.pow_add, Nat.add_sub_cancel' long]
    exact Nat.log2_self_le whole

theorem lt_excess (n : Nat) : n < 2 ^ 53 * 2 ^ excess n := by
  have top := Nat.lt_log2_self (n := n)
  have fits : 2 ^ (n.log2 + 1) ≤ 2 ^ (53 + excess n) :=
    Nat.pow_le_pow_right Nat.two_pos (by unfold excess; omega)
  rw [← Nat.pow_add]
  omega

theorem leadingDigits_le (n : Nat) : leadingDigits n ≤ 2 ^ 53 := by
  have nonneg : 0 * 2 ^ excess n ≤ n := by
    rw [Nat.zero_mul]
    exact Nat.zero_le n
  exact (divNearestEven_mem (Nat.two_pow_pos (excess n)) nonneg (lt_excess n)).2

/-- An exact number is a multiple of the last place of the numbers from some size on, unless it is
smaller than they are. -/
theorem IsExact.dvd_or_lt {s : Int} (exact : IsExact s) (k : Nat) :
    (2 ^ k : Int) ∣ s ∨ s.natAbs < 2 ^ 52 * 2 ^ k := by
  obtain ⟨significand, zeros, short, rfl⟩ := exact
  rcases Nat.lt_or_ge zeros k with few | many
  · right
    rw [Int.natAbs_mul, Int.natAbs_pow]
    calc significand.natAbs * 2 ^ zeros
        < 2 ^ 53 * 2 ^ zeros := Nat.mul_lt_mul_of_pos_right short (Nat.two_pow_pos zeros)
      _ = 2 ^ (53 + zeros) := (Nat.pow_add 2 53 zeros).symm
      _ ≤ 2 ^ (52 + k) := Nat.pow_le_pow_right Nat.two_pos (by omega)
      _ = 2 ^ 52 * 2 ^ k := Nat.pow_add 2 52 k
  · left
    exact Dvd.dvd.mul_left (pow_dvd_pow 2 many) significand

theorem isExact_rounded (n : Nat) : IsExact (rounded n) := by
  unfold rounded
  rcases Nat.lt_or_eq_of_le (leadingDigits_le n) with short | full
  · exact ⟨leadingDigits n, excess n, short, by push_cast; rfl⟩
  · refine ⟨1, 53 + excess n, by decide, ?_⟩
    rw [full, ← Nat.pow_add, Int.one_mul]
    push_cast
    rfl

/-- Multiples of one number are at least that number apart. -/
theorem le_natAbs_sub_of_dvd {a b d : Int} (da : d ∣ a) (db : d ∣ b) (different : a ≠ b) :
    d.natAbs ≤ (a - b).natAbs :=
  Int.natAbs_le_of_dvd_ne_zero (Int.dvd_sub da db) (sub_ne_zero.mpr different)

theorem nearestEven_rounded (n : Nat) : NearestEven n (rounded n) := by
  obtain ⟨close, even⟩ := divNearestEven_spec n (Nat.two_pow_pos (excess n))
  set place : Nat := 2 ^ excess n with hplace
  have rounded_eq : (rounded n : Int) = divNearestEven n place * place := by
    rw [rounded, leadingDigits]
    push_cast
    rfl
  rw [← rounded_eq] at close even
  have rounded_dvd : (place : Int) ∣ rounded n :=
    ⟨divNearestEven n place, by rw [rounded_eq, Int.mul_comm]⟩
  have onGrid (s : Int) (multiple : (place : Int) ∣ s) (different : s ≠ rounded n) :
      place ≤ (s - rounded n).natAbs := le_natAbs_sub_of_dvd multiple rounded_dvd different
  -- what lies off the grid is below the least number with this last place
  have offGrid (s : Int) (small : s.natAbs < 2 ^ 52 * place) (different : s ≠ rounded n) :
      ((n : Int) - rounded n).natAbs < ((n : Int) - s).natAbs := by
    rcases excess_eq_zero_or_le n with none | long
    · have single : place = 1 := by rw [hplace, none, Nat.pow_zero]
      omega
    · have least_dvd : (place : Int) ∣ (2 ^ 52 * place : Nat) := ⟨2 ^ 52, by push_cast; ring⟩
      by_cases least : ((2 ^ 52 * place : Nat) : Int) = rounded n
      · omega
      · have apart := onGrid _ least_dvd least
        omega
  have grid (s : Int) (exact : IsExact s) :
      (place : Int) ∣ s ∨ s.natAbs < 2 ^ 52 * place := by
    rcases exact.dvd_or_lt (excess n) with multiple | small
    · left
      rw [hplace]
      exact_mod_cast multiple
    · exact .inr small
  constructor
  · exact isExact_rounded n
  · intro s exact
    by_cases same : s = rounded n
    · rw [same]
    · rcases grid s exact with multiple | small
      · have apart := onGrid s multiple same
        omega
      · exact Nat.le_of_lt (offGrid s small same)
  · intro s exact different tie
    rcases grid s exact with multiple | small
    · have apart := onGrid s multiple different
      have step : s - rounded n = place ∨ s - rounded n = -place := by omega
      obtain ⟨half, hhalf⟩ := Nat.dvd_of_mod_eq_zero (even (by omega))
      have doubled : (rounded n : Int) = 2 * place * half := by
        rw [rounded_eq, hhalf]
        push_cast
        ring
      rcases step with above | below
      · exact ⟨half, by rw [above, doubled]⟩
      · exact ⟨-half, by rw [below, doubled]; ring⟩
    · have farther := offGrid s small different
      omega

/-- Rounding gives what the distances ask for. -/
theorem nearestEven_nearestWhole (i : Int) : NearestEven i (nearestWhole i) := by
  have near := nearestEven_rounded i.natAbs
  unfold nearestWhole
  split
  · next negative =>
    have turned := near.neg
    rwa [Int.ofNat_natAbs_of_nonpos (Int.le_of_lt negative), Int.neg_neg] at turned
  · next positive =>
    rwa [Int.natAbs_of_nonneg (Int.not_lt.mp positive)] at near

theorem nearestWhole_of_isExact {i : Int} (exact : IsExact i) : nearestWhole i = i :=
  (nearestEven_nearestWhole i).eq_self exact

theorem nearestWhole_mono {i j : Int} (le : i ≤ j) : nearestWhole i ≤ nearestWhole j :=
  (nearestEven_nearestWhole i).mono (nearestEven_nearestWhole j) le

theorem lt_of_nearestWhole_lt {i j : Int} (less : nearestWhole i < nearestWhole j) : i < j := by
  by_contra reversed
  have order := nearestWhole_mono (Int.not_lt.mp reversed)
  omega

/-- Two whole numbers compare by value after rounding just when it does not make them one. -/
theorem nearestWhole_faithful_iff {i j : Int} :
    ((nearestWhole i = nearestWhole j ↔ i = j) ∧ (nearestWhole i < nearestWhole j ↔ i < j)) ↔
      (nearestWhole i = nearestWhole j → i = j) := by
  constructor
  · intro faithful
    exact faithful.1.mp
  · intro apart
    refine ⟨⟨apart, congrArg nearestWhole⟩, lt_of_nearestWhole_lt, ?_⟩
    intro below
    rcases Int.lt_or_eq_of_le (nearestWhole_mono (Int.le_of_lt below)) with stays | collapses
    · exact stays
    · have same := apart collapses
      omega

/-! Patterns and values -/

/-- How fine binary64 is: the smallest positive number is two to the power of minus this. -/
def fineness : Nat := 1074

/-- The magnitude that a pattern stands for, counted in the smallest positive number. -/
def magnitudeUnits (pattern : Nat) : Nat :=
  if pattern / binade = 0 then pattern % binade
  else (pattern % binade + binade) * 2 ^ (pattern / binade - 1)

theorem magnitudeUnits_of_lt (e : Nat) {fraction : Nat} (short : fraction < binade) :
    magnitudeUnits (e * binade + fraction) =
      if e = 0 then fraction else (fraction + binade) * 2 ^ (e - 1) := by
  have positive : 0 < binade := Nat.zero_lt_of_lt short
  have quotient : (e * binade + fraction) / binade = e := by
    rw [Nat.add_comm, Nat.add_mul_div_right _ _ positive, Nat.div_eq_of_lt short, Nat.zero_add]
  have rest : (e * binade + fraction) % binade = fraction := by
    rw [Nat.add_comm, Nat.add_mul_mod_self_right, Nat.mod_eq_of_lt short]
  rw [magnitudeUnits, quotient, rest]

/-- A pattern whose digits carry over stands for the same magnitude as the next binade's first. -/
theorem magnitudeUnits_digits (e : Nat) {digits : Nat} (low : binade ≤ digits)
    (high : digits ≤ 2 * binade) : magnitudeUnits (e * binade + digits) = digits * 2 ^ e := by
  rcases Nat.lt_or_eq_of_le high with short | full
  · have pattern : e * binade + digits = (e + 1) * binade + (digits - binade) := by
      rw [Nat.succ_mul]
      omega
    rw [pattern, magnitudeUnits_of_lt (e + 1) (by omega), if_neg (Nat.succ_ne_zero e),
      Nat.sub_add_cancel low, Nat.add_sub_cancel]
  · have pattern : e * binade + digits = (e + 2) * binade + 0 := by
      rw [full]
      ring
    have positive : 0 < binade := by decide
    rw [pattern, magnitudeUnits_of_lt (e + 2) positive, if_neg (Nat.succ_ne_zero _), full]
    have exponent : e + 2 - 1 = e + 1 := rfl
    rw [exponent, Nat.pow_succ']
    ring

theorem magnitudeUnits_lt_succ (pattern : Nat) :
    magnitudeUnits pattern < magnitudeUnits (pattern + 1) := by
  have positive : 0 < binade := by decide
  have split := Nat.div_add_mod' pattern binade
  have short := Nat.mod_lt pattern positive
  rw [← split]
  generalize pattern / binade = e at *
  generalize pattern % binade = fraction at *
  rw [magnitudeUnits_of_lt e short]
  rcases Nat.lt_or_eq_of_le short with stays | carries
  · rw [Nat.add_assoc, magnitudeUnits_of_lt e stays]
    split
    · exact Nat.lt_succ_self fraction
    · exact Nat.mul_lt_mul_of_pos_right (by omega) (Nat.two_pow_pos _)
  · rw [Nat.add_assoc, show fraction + 1 = binade from carries,
      magnitudeUnits_digits e (Nat.le_refl _) (by omega)]
    cases e with
    | zero =>
      rw [if_pos rfl, Nat.pow_zero]
      omega
    | succ e =>
      rw [if_neg (Nat.succ_ne_zero e), Nat.add_sub_cancel, Nat.pow_succ', ← Nat.mul_assoc]
      exact Nat.mul_lt_mul_of_pos_right (by omega) (Nat.two_pow_pos e)

theorem magnitudeUnits_strictMono : StrictMono magnitudeUnits :=
  strictMono_nat_of_lt_succ magnitudeUnits_lt_succ

namespace Binary64

/-- The value of a number, counted in the smallest positive one. -/
def units (x : Binary64) : Int :=
  let size : Nat := x.significandExponent.1 * 2 ^ (x.significandExponent.2 + 1074).toNat
  if x.negative then -size else size

theorem units_eq (x : Binary64) :
    x.units =
      if x.negative then -(magnitudeUnits x.magnitude : Int) else magnitudeUnits x.magnitude := by
  have size : x.significandExponent.1 * 2 ^ (x.significandExponent.2 + 1074).toNat =
      magnitudeUnits x.magnitude := by
    unfold significandExponent magnitudeUnits
    dsimp only
    by_cases subnormal : x.magnitude / binade = 0
    · rw [if_pos subnormal, if_pos subnormal]
      exact Nat.mul_one _
    · have exponent : ((x.magnitude / binade : Nat) - 1075 + 1074 : Int).toNat =
          x.magnitude / binade - 1 := by omega
      rw [if_neg subnormal, if_neg subnormal, exponent]
  unfold units
  dsimp only
  rw [size]

/-- Numbers stand in the order of their values. -/
theorem place_lt_place_iff (x y : Binary64) : x.place < y.place ↔ x.units < y.units := by
  have forward := magnitudeUnits_strictMono.lt_iff_lt (a := x.magnitude) (b := y.magnitude)
  have backward := magnitudeUnits_strictMono.lt_iff_lt (a := y.magnitude) (b := x.magnitude)
  have left := magnitudeUnits_strictMono.lt_iff_lt (a := 0) (b := x.magnitude)
  have right := magnitudeUnits_strictMono.lt_iff_lt (a := 0) (b := y.magnitude)
  have zero : magnitudeUnits 0 = 0 := rfl
  rw [units_eq, units_eq]
  unfold place
  cases x.negative <;> cases y.negative <;> simp only [if_true, Bool.false_eq_true, if_false] <;>
    omega

theorem place_eq_place_iff (x y : Binary64) : x.place = y.place ↔ x.units = y.units := by
  have forward := place_lt_place_iff x y
  have backward := place_lt_place_iff y x
  omega

end Binary64

/-! Whole numbers as floats -/

theorem lastPlace_one {n : Nat} (nonzero : n ≠ 0) : lastPlace n 1 = (n.log2 : Int) - 52 := by
  have leading := Nat.log2_self_le nonzero
  have one : Nat.log2 1 = 0 := rfl
  have reaches : 1 * Nat.pow 2 ((n.log2 : Int) - (0 : Nat)).toNat ≤
      n * Nat.pow 2 (-((n.log2 : Int) - (0 : Nat))).toNat := by
    have upward : ((n.log2 : Int) - (0 : Nat)).toNat = n.log2 := by omega
    have downward : (-((n.log2 : Int) - (0 : Nat))).toNat = 0 := by omega
    rw [upward, downward]
    simpa using leading
  unfold lastPlace
  dsimp only
  rw [one, if_pos reaches]
  omega

/-- The pattern of a whole number: its exponent, and its leading 53 digits. -/
theorem nearestMagnitude_one {n : Nat} (nonzero : n ≠ 0) :
    nearestMagnitude n 1 = (n.log2 + 1022) * binade +
      divNearestEven (n * 2 ^ (52 - n.log2)) (2 ^ excess n) := by
  have upward : ((n.log2 : Int) - 52).toNat = excess n := by
    unfold excess
    omega
  have downward : (-((n.log2 : Int) - 52)).toNat = 52 - n.log2 := by omega
  have exponent : ((n.log2 : Int) - 52 + 1074).toNat = n.log2 + 1022 := by omega
  unfold nearestMagnitude
  dsimp only
  rw [if_neg nonzero, lastPlace_one nonzero, upward, downward, exponent, Nat.one_mul]
  rfl

theorem digits_mem {n : Nat} (nonzero : n ≠ 0) :
    binade ≤ divNearestEven (n * 2 ^ (52 - n.log2)) (2 ^ excess n) ∧
      divNearestEven (n * 2 ^ (52 - n.log2)) (2 ^ excess n) ≤ 2 * binade := by
  have low := Nat.log2_self_le nonzero
  have high := Nat.lt_log2_self (n := n)
  -- the digits fill the 53 places, whether there are too many of them or too few
  have places : 52 + excess n = n.log2 + (52 - n.log2) := by
    unfold excess
    omega
  have above : 2 ^ 52 * 2 ^ excess n ≤ n * 2 ^ (52 - n.log2) := by
    rw [← Nat.pow_add, places, Nat.pow_add]
    exact Nat.mul_le_mul_right _ low
  have below : n * 2 ^ (52 - n.log2) < 2 ^ 53 * 2 ^ excess n := by
    rw [← Nat.pow_add, show 53 + excess n = n.log2 + 1 + (52 - n.log2) by omega, Nat.pow_add]
    exact Nat.mul_lt_mul_of_pos_right high (Nat.two_pow_pos _)
  exact divNearestEven_mem (Nat.two_pow_pos (excess n)) above below

theorem magnitudeUnits_nearestMagnitude (n : Nat) :
    magnitudeUnits (nearestMagnitude n 1) = rounded n * 2 ^ fineness := by
  by_cases nonzero : n = 0
  · subst nonzero
    have none : rounded 0 = 0 := rfl
    rw [none, Nat.zero_mul]
    rfl
  · obtain ⟨low, high⟩ := digits_mem nonzero
    rw [nearestMagnitude_one nonzero, magnitudeUnits_digits _ low high, rounded, leadingDigits]
    rcases Nat.le_total n.log2 52 with short | long
    · have whole : excess n = 0 := Nat.sub_eq_zero_of_le short
      have exponent : 52 - n.log2 + (n.log2 + 1022) = fineness := by
        unfold fineness
        omega
      rw [whole, Nat.pow_zero, divNearestEven_one, divNearestEven_one, Nat.mul_one, Nat.mul_assoc,
        ← Nat.pow_add, exponent]
    · have none : 52 - n.log2 = 0 := Nat.sub_eq_zero_of_le long
      have exponent : n.log2 + 1022 = excess n + fineness := by
        unfold excess fineness
        omega
      rw [none, Nat.pow_zero, Nat.mul_one, Nat.mul_assoc, ← Nat.pow_add, exponent]

theorem nearestMagnitude_finite {n : Nat} (wide : n ≤ 2 ^ 64) :
    nearestMagnitude n 1 < 2047 * binade := by
  by_cases nonzero : n = 0
  · subst nonzero
    decide
  · obtain ⟨-, high⟩ := digits_mem nonzero
    have order : n.log2 ≤ 64 := by
      have leading := Nat.log2_self_le nonzero
      exact (Nat.pow_le_pow_iff_right (Nat.lt_add_one 1)).mp (Nat.le_trans leading wide)
    have exponent : (n.log2 + 1022) * binade ≤ 1086 * binade :=
      Nat.mul_le_mul_right binade (by omega)
    have positive : 0 < binade := by decide
    rw [nearestMagnitude_one nonzero]
    omega

namespace Binary64

/-- A whole number of 64 bits becomes the nearest one that binary64 holds. -/
theorem units_ofInt {i : Int} (wide : i.natAbs ≤ 2 ^ 64) :
    (ofInt i).units = nearestWhole i * 2 ^ fineness := by
  have made : ofInt i =
      ⟨decide (i < 0), nearestMagnitude i.natAbs 1, nearestMagnitude_finite wide⟩ := by
    rw [ofInt, ofRatio?, dif_pos (nearestMagnitude_finite wide), Option.getD_some]
  rw [made, units_eq, magnitudeUnits_nearestMagnitude, nearestWhole]
  simp only [decide_eq_true_eq]
  split
  · push_cast
    rw [Int.neg_mul]
  · push_cast
    rfl

theorem place_ofInt_lt_iff {i j : Int} (wide : i.natAbs ≤ 2 ^ 64) (wide' : j.natAbs ≤ 2 ^ 64) :
    (ofInt i).place < (ofInt j).place ↔ nearestWhole i < nearestWhole j := by
  have positive : (0 : Int) < 2 ^ fineness := Int.pow_pos (by decide)
  rw [place_lt_place_iff, units_ofInt wide, units_ofInt wide', Int.mul_lt_mul_right positive]

theorem place_ofInt_eq_iff {i j : Int} (wide : i.natAbs ≤ 2 ^ 64) (wide' : j.natAbs ≤ 2 ^ 64) :
    (ofInt i).place = (ofInt j).place ↔ nearestWhole i = nearestWhole j := by
  have nonzero : (2 : Int) ^ fineness ≠ 0 := Int.ne_of_gt (Int.pow_pos (by decide))
  rw [place_eq_place_iff, units_ofInt wide, units_ofInt wide', Int.mul_eq_mul_right_iff nonzero]

end Binary64

end ChannelGuard.Number
