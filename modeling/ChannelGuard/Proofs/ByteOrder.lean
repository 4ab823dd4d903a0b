import Mathlib.Data.List.Basic

/-!
# Texts in the order of their bytes

Texts are compared character by character. In UTF-8 that is the same as comparing them byte by
byte: a longer encoding starts with a larger byte, and among encodings of one length the bits of
the character stand in order.
-/

namespace ChannelGuard.Text

open String (utf8EncodeChar)

/-- The bytes of a text in UTF-8. -/
def bytes (text : String) : List UInt8 := text.toUTF8.data.toList

theorem bytes_eq (text : String) : bytes text = text.toList.flatMap utf8EncodeChar := by
  rw [bytes, String.toUTF8_eq_toByteArray, ← String.utf8Encode_toList, List.utf8Encode,
    List.toList_data_toByteArray]

/-- The last `count` bytes of a number's encoding, six bits in each. -/
private def continuation : Nat → Nat → List UInt8
  | 0, _ => []
  | count + 1, v => continuation count (v / 64) ++ [UInt8.ofNat (v % 64 + 128)]

/-- What the last `count` bytes leave for the first one. -/
private def leading : Nat → Nat → Nat
  | 0, v => v
  | count + 1, v => leading count (v / 64)

private theorem cons_lt_cons {m n : Nat} (h : m < n) (small : n < 256) (left right : List UInt8) :
    UInt8.ofNat m :: left < UInt8.ofNat n :: right := by
  rw [List.cons_lt_cons_iff, UInt8.lt_iff_toNat_lt, UInt8.toNat_ofNat', UInt8.toNat_ofNat']
  exact .inl (by omega)

private theorem continuation_lt {count m n : Nat} (h : m < n)
    (same : leading count m = leading count n) (left right : List UInt8) :
    continuation count m ++ left < continuation count n ++ right := by
  induction count generalizing m n left right with
  | zero => exact absurd same (Nat.ne_of_lt h)
  | succ count ih =>
    simp only [continuation, List.append_assoc, List.singleton_append]
    by_cases higher : m / 64 < n / 64
    · exact ih higher same _ _
    · have equal : m / 64 = n / 64 := by omega
      rw [equal]
      exact List.append_left_lt (cons_lt_cons (by omega) (by omega) left right)

private theorem toNat_lt (c : Char) : c.toNat < 0x110000 := by
  rcases c.valid with small | ⟨-, small⟩
  · exact Nat.lt_trans small (by decide)
  · exact small

/-- The first byte of an encoding tells how many follow. -/
private theorem exists_encoding (c : Char) :
    ∃ count first, utf8EncodeChar c = UInt8.ofNat first :: continuation count c.toNat ∧
      (count = 0 ∧ c.toNat < 0x80 ∧ first = leading 0 c.toNat ∨
        count = 1 ∧ 0x80 ≤ c.toNat ∧ c.toNat < 0x800 ∧ first = 192 + leading 1 c.toNat ∨
        count = 2 ∧ 0x800 ≤ c.toNat ∧ c.toNat < 0x10000 ∧ first = 224 + leading 2 c.toNat ∨
        count = 3 ∧ 0x10000 ≤ c.toNat ∧ first = 240 + leading 3 c.toNat) := by
  have bound := toNat_lt c
  have spelled : utf8EncodeChar c =
      if c.toNat ≤ 0x7f then [UInt8.ofNat c.toNat]
      else if c.toNat ≤ 0x7ff then UInt8.ofNat (c.toNat / 64 % 32 + 192) :: continuation 1 c.toNat
      else if c.toNat ≤ 0xffff then
        UInt8.ofNat (c.toNat / 4096 % 16 + 224) :: continuation 2 c.toNat
      else UInt8.ofNat (c.toNat / 262144 % 8 + 240) :: continuation 3 c.toNat := by
    simp only [continuation, List.nil_append, List.cons_append, Nat.div_div_eq_div_mul]
    rfl
  generalize c.toNat = v at *
  rw [spelled]
  split
  · exact ⟨0, v, rfl, .inl ⟨rfl, by omega, rfl⟩⟩
  · split
    · refine ⟨1, _, rfl, .inr (.inl ⟨rfl, by omega, by omega, ?_⟩)⟩
      simp only [leading]
      omega
    · split
      · refine ⟨2, _, rfl, .inr (.inr (.inl ⟨rfl, by omega, by omega, ?_⟩))⟩
        simp only [leading]
        omega
      · refine ⟨3, _, rfl, .inr (.inr (.inr ⟨rfl, by omega, ?_⟩))⟩
        simp only [leading]
        omega

private theorem encoding_lt {c d : Char} (h : c < d) (left right : List UInt8) :
    utf8EncodeChar c ++ left < utf8EncodeChar d ++ right := by
  have less : c.toNat < d.toNat := h
  have bound := toNat_lt d
  obtain ⟨count, first, encoded, shape⟩ := exists_encoding c
  obtain ⟨count', first', encoded', shape'⟩ := exists_encoding d
  rw [encoded, encoded', List.cons_append, List.cons_append]
  by_cases lower : first < first'
  · refine cons_lt_cons lower ?_ _ _
    simp only [leading] at shape'
    omega
  · -- a larger character never has a smaller first byte, and with the same one it is as long
    have agree : first = first' ∧ count = count' ∧
        leading count c.toNat = leading count d.toNat := by
      rcases shape with ⟨rfl, h⟩ | ⟨rfl, h⟩ | ⟨rfl, h⟩ | ⟨rfl, h⟩ <;>
        rcases shape' with ⟨rfl, h'⟩ | ⟨rfl, h'⟩ | ⟨rfl, h'⟩ | ⟨rfl, h'⟩ <;>
        refine ⟨?_, ?_, ?_⟩ <;> simp only [leading] at h h' ⊢ <;> omega
    obtain ⟨rfl, rfl, same⟩ := agree
    rw [List.cons_lt_cons_iff]
    exact .inr ⟨rfl, continuation_lt less same left right⟩

private theorem flatMap_lt {left right : List Char} (h : left < right) :
    left.flatMap utf8EncodeChar < right.flatMap utf8EncodeChar := by
  induction h with
  | @nil c rest =>
    obtain ⟨count, first, encoded, -⟩ := exists_encoding c
    rw [List.flatMap_cons, encoded]
    exact List.nil_lt_cons _ _
  | rel h => exact encoding_lt h _ _
  | cons h ih => exact List.append_left_lt ih

/-- Texts in order have their bytes in order, so the two orders are one. -/
theorem bytes_lt_bytes {s t : String} (h : s < t) : bytes s < bytes t := by
  rw [bytes_eq, bytes_eq]
  exact flatMap_lt (String.lt_iff.mp h)

end ChannelGuard.Text
