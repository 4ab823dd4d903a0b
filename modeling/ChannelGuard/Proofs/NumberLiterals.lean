import ChannelGuard.Proofs.LexicalGrammar
import ChannelGuard.Proofs.Splitting

/-!
# Number literals

A literal is divided into its sign, its first digits and what follows them. The reader of literals
finds a number in a text exactly if the grammar says that the text stands for it.
-/

namespace ChannelGuard.Condition

open Number (Decimal digitsValue)

variable {written digits rest : List Char} {negative : Bool}

/-- A row of digits, whatever follows it, starts with no minus sign. -/
theorem DigitRow.ne_minus (row : DigitRow digits) (nonempty : digits ≠ []) (rest body : List Char) :
    digits ++ rest ≠ '-' :: body := by
  cases digits with
  | nil => exact absurd rfl nonempty
  | cons d digits =>
    rintro ⟨⟩
    exact absurd (row '-' List.mem_cons_self) (by decide)

private theorem numberLiteral?_digits (nonempty : digits ≠ []) (row : DigitRow digits) :
    numberLiteral? (signText negative ++ digits) =
      if fits : -0x8000000000000000 ≤ signed negative (digitsValue digits) ∧
          signed negative (digitsValue digits) < 0x8000000000000000 then
        some (.integer ⟨signed negative (digitsValue digits), fits.1,
          Int.lt_trans fits.2 (by decide)⟩)
      else ((Decimal.ofDigits digits []).toBinary64? negative).map .float := by
  have taken : digits.takeWhile Char.isDigit = digits := List.takeWhile_eq_self_iff.mpr row
  have dropped : digits.dropWhile Char.isDigit = [] := List.dropWhile_eq_nil_iff.mpr row
  cases negative with
  | true => simp [numberLiteral?, signText, signed, taken, dropped, nonempty]
  | false =>
    have unsigned := row.ne_minus nonempty []
    rw [List.append_nil] at unsigned
    simp [numberLiteral?, signText, signed, taken, dropped, nonempty]

theorem numberLiteral?_of_fits (nonempty : digits ≠ []) (row : DigitRow digits) {i : WideInt}
    (value : i.value = signed negative (digitsValue digits)) (fits : IsInt64 i.value) :
    numberLiteral? (signText negative ++ digits) = some (.integer i) := by
  obtain ⟨v, range⟩ := i
  obtain rfl : v = _ := value
  rw [numberLiteral?_digits nonempty row]
  exact dif_pos fits

theorem numberLiteral?_of_wide (nonempty : digits ≠ []) (row : DigitRow digits)
    (wide : ¬IsInt64 (signed negative (digitsValue digits))) :
    numberLiteral? (signText negative ++ digits) =
      ((Decimal.ofDigits digits []).toBinary64? negative).map .float := by
  rw [numberLiteral?_digits nonempty row]
  exact dif_neg wide

theorem numberLiteral?_pointed {fraction : List Char} (row : DigitRow digits) :
    numberLiteral? (signText negative ++ (digits ++ '.' :: fraction)) =
      if fraction.all Char.isDigit && !(digits.isEmpty && fraction.isEmpty) then
        ((Decimal.ofDigits digits fraction).toBinary64? negative).map .float
      else none := by
  have stops : ∀ c ∈ ('.' :: fraction).head?, c.isDigit = false := by simp
  have taken := takeWhile_run row stops
  have dropped := dropWhile_run row stops
  cases negative with
  | true =>
    simp only [numberLiteral?, signText, if_true, List.cons_append, List.nil_append, taken, dropped]
  | false =>
    have unsigned (body : List Char) : digits ++ '.' :: fraction ≠ '-' :: body := by
      cases digits with
      | nil => simp
      | cons d digits => exact row.ne_minus (by simp) _ body
    simp only [numberLiteral?, signText, Bool.false_eq_true, if_false, List.nil_append, taken,
      dropped]

theorem numberLiteral?_stray {c : Char} (row : DigitRow digits) (other : c.isDigit = false)
    (noPoint : c ≠ '.') (unsigned : negative = false → digits ≠ [] ∨ c ≠ '-') :
    numberLiteral? (signText negative ++ (digits ++ c :: rest)) = none := by
  have stops : ∀ d ∈ (c :: rest).head?, d.isDigit = false := by simp [other]
  have dropped := dropWhile_run row stops
  cases negative with
  | true => simp [numberLiteral?, signText, dropped, noPoint]
  | false =>
    have unsigned' (body : List Char) : digits ++ c :: rest ≠ '-' :: body := by
      cases digits with
      | nil => simp [(unsigned rfl).resolve_left]
      | cons d digits => exact row.ne_minus (by simp) _ body
    simp [numberLiteral?, signText, dropped, noPoint]

/-- A text writes one integer at most. -/
theorem WholeText.unique {i j : Int} (h : WholeText written i) (h' : WholeText written j) :
    i = j := by
  cases h with
  | @mk negative digits nonempty row =>
    generalize same : signText negative ++ digits = text at h'
    cases h' with
    | @mk negative' digits' nonempty' row' =>
      have unsigned := row.ne_minus nonempty [] digits'
      have unsigned' := row'.ne_minus nonempty' [] digits
      cases negative <;> cases negative' <;> simp_all [signText]

theorem WholeText.point_not_mem {i : Int} (h : WholeText written i) : '.' ∉ written := by
  cases h with
  | mk negative nonempty row =>
    intro point
    rcases List.mem_append.mp point with point | point
    · cases negative <;> simp [signText] at point
    · exact absurd (row '.' point) (by decide)

/-- Every text is a sign, a row of digits and something that starts with no digit. -/
theorem exists_signed (written : List Char) :
    ∃ negative digits rest, written = signText negative ++ (digits ++ rest) ∧ DigitRow digits ∧
      (∀ c ∈ rest.head?, c.isDigit = false) ∧
      (negative = false → digits ≠ [] ∨ rest.head? ≠ some '-') := by
  have divided (body : List Char) : DigitRow (body.takeWhile Char.isDigit) ∧
      ∀ c ∈ (body.dropWhile Char.isDigit).head?, c.isDigit = false :=
    ⟨fun c => List.mem_takeWhile_imp, stops_dropWhile Char.isDigit body⟩
  by_cases minus : ∃ body, written = '-' :: body
  · obtain ⟨body, rfl⟩ := minus
    exact ⟨true, _, _, by rw [List.takeWhile_append_dropWhile]; rfl, (divided body).1,
      (divided body).2, by simp⟩
  · refine ⟨false, _, _, by rw [List.takeWhile_append_dropWhile]; rfl, (divided written).1,
      (divided written).2, fun _ => ?_⟩
    cases written with
    | nil => simp
    | cons c body =>
      by_cases digit : c.isDigit = true
      · simp [digit]
      · refine .inr ?_
        simp only [List.dropWhile_cons, digit]
        rintro ⟨⟩
        exact minus ⟨body, rfl⟩

theorem numberLiteral?_of_numberText {n : JsonNumber} (h : NumberText written n) :
    numberLiteral? written = some n := by
  cases h with
  | @integer i whole fits =>
    generalize value : i.value = v at whole
    cases whole with
    | mk negative nonempty row => exact numberLiteral?_of_fits nonempty row value fits
  | @float negative decimal x wide value nearest =>
    cases value with
    | whole _ nonempty row =>
      rw [numberLiteral?_of_wide nonempty row (wide _ (.mk negative nonempty row)), nearest]
      rfl
    | @pointed _ digits fraction nonempty row row' =>
      have proper : (fraction.all Char.isDigit && !(digits.isEmpty && fraction.isEmpty)) = true := by
        have inside : fraction.all Char.isDigit = true := List.all_eq_true.mpr row'
        rcases nonempty with nonempty | nonempty <;> simp [inside, nonempty]
      rw [numberLiteral?_pointed row, if_pos proper, nearest]
      rfl

/-- What the reader finds is what the text stands for. -/
theorem numberText_of_numberLiteral? {n : JsonNumber} (h : numberLiteral? written = some n) :
    NumberText written n := by
  obtain ⟨negative, digits, rest, rfl, row, stops, unsigned⟩ := exists_signed written
  cases rest with
  | nil =>
    rw [List.append_nil] at h ⊢
    by_cases nonempty : digits = []
    · subst nonempty
      cases negative <;> simp [numberLiteral?, signText] at h
    · have whole := WholeText.mk negative nonempty row
      by_cases fits : IsInt64 (signed negative (digitsValue digits))
      · rw [numberLiteral?_of_fits nonempty row
          (i := ⟨_, fits.1, Int.lt_trans fits.2 (by decide)⟩) rfl fits] at h
        cases h
        exact .integer whole fits
      · rw [numberLiteral?_of_wide nonempty row fits] at h
        obtain ⟨x, nearest, rfl⟩ := Option.map_eq_some_iff.mp h
        refine .float (fun i other => ?_) (.whole negative nonempty row) nearest
        rw [other.unique whole]
        exact fits
  | cons c fraction =>
    by_cases point : c = '.'
    · subst point
      rw [numberLiteral?_pointed row] at h
      split at h
      · next proper =>
        simp only [Bool.and_eq_true, List.all_eq_true, Bool.not_eq_true', Bool.and_eq_false_iff,
          List.isEmpty_eq_false_iff] at proper
        obtain ⟨x, nearest, rfl⟩ := Option.map_eq_some_iff.mp h
        refine .float (fun i other => ?_) (.pointed negative proper.2 row proper.1) nearest
        exact absurd (by simp) other.point_not_mem
      · cases h
    · rw [numberLiteral?_stray row (stops c rfl) point (by simpa using unsigned)] at h
      cases h

end ChannelGuard.Condition
