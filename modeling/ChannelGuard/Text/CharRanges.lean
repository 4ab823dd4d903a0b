/-! Sets of characters given as a table of ranges. -/
namespace ChannelGuard.Text

/-- A set of characters as ranges of code points, both ends included. -/
abbrev CharRanges := List (Nat × Nat)

/-- Whether some range holds the code point of `c`. -/
def CharRanges.contains (ranges : CharRanges) (c : Char) : Bool :=
  ranges.any fun (low, high) => low ≤ c.toNat && c.toNat ≤ high

theorem CharRanges.contains_iff {ranges : CharRanges} {c : Char} :
    ranges.contains c = true ↔ ∃ r ∈ ranges, r.1 ≤ c.toNat ∧ c.toNat ≤ r.2 := by
  simp [contains]

/-- Tables without a code point in common hold different characters. -/
theorem CharRanges.not_contains {ranges ranges' : CharRanges}
    (apart : (ranges.all fun r => ranges'.all fun r' => r.2 < r'.1 || r'.2 < r.1) = true) {c : Char}
    (inside : ranges.contains c = true) : ranges'.contains c = false := by
  rw [Bool.eq_false_iff]
  intro inside'
  obtain ⟨r, listed, low, high⟩ := CharRanges.contains_iff.mp inside
  obtain ⟨r', listed', low', high'⟩ := CharRanges.contains_iff.mp inside'
  have outside := List.all_eq_true.mp (List.all_eq_true.mp apart r listed) r' listed'
  simp only [Bool.or_eq_true, decide_eq_true_eq] at outside
  omega

end ChannelGuard.Text
