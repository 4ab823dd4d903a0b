import ChannelGuard.Proofs.RenderedConditions

/-!
# Offsets of unexpected characters

A condition is refused for a character that begins no lexeme. The message tells the character and
how many bytes stand before it. The text up to there is a row of longest lexemes still when it ends
there, since the end of a text makes no lexeme longer.
-/

namespace ChannelGuard.Condition

variable {c : Char} {rest : List Char} {pieces : List Piece} {source : String} {e : SyntaxError}
  {offset : Nat}

theorem intText_injective {i j : Int} (same : intText i = intText j) : i = j := by
  have written := wholeText_intText i
  rw [same] at written
  exact written.unique (wholeText_intText j)

/-- The text of an error names an unexpected character only where there is one. -/
theorem SyntaxError.message_eq_iff : e.message = (unexpectedCharacter c offset).message ↔
    e = .unexpectedCharacter c offset := by
  refine ⟨fun same => ?_, fun same => by rw [same]⟩
  have letters := congrArg String.toList same
  unfold message at letters
  cases e with
  | unexpectedCharacter d n =>
    simp only [String.toList_append, Char.toString, String.toList_singleton,
      List.append_assoc, List.append_cancel_left_eq, List.cons_append, List.nil_append,
      List.cons.injEq] at letters
    obtain ⟨rfl, numbers⟩ := letters
    have sizes := intText_injective (String.toList_injective numbers)
    rw [Int.ofNat_inj.mp sizes]
  | _ => simp at letters

theorem byteCount_append (before after : List Char) :
    byteCount (before ++ after) = byteCount before + byteCount after := by
  simp only [byteCount_eq, String.ofList_append, String.utf8ByteSize_append]

/-- Where the scanner is stuck at an unexpected character, it is this character that comes next. -/
theorem Stuck.eq_cons_of_unexpected (stuck : Stuck rest)
    (refused : tokensWithin source.toList rest = .error (.unexpectedCharacter c offset)) :
    ∃ after, rest = c :: after ∧
      offset = byteCount source.toList - byteCount rest := by
  obtain ⟨d, after, rfl, inked, nothing⟩ := stuck
  rw [tokensWithin, inked] at refused
  cases read : lexeme d after with
  | token token left shorter => exact absurd read (nothing token left shorter)
  | stray =>
    rw [read] at refused
    cases refused
    exact ⟨after, rfl, rfl⟩
  | fault e =>
    rw [read] at refused
    cases refused
    rcases lexeme_eq_fault read with quoted | invalid
    · rcases quotedBody_eq_error quoted with same | ⟨d, same⟩ <;> cases same
    · cases invalid

/-- The scanner has read everything before an unexpected character. -/
theorem exists_read_before
    (refused : tokens source = .error (.unexpectedCharacter c offset)) :
    ∃ before after : List Char, source.toList = before ++ c :: after ∧ byteCount before = offset ∧
      ∃ row, tokens (String.ofList before) = .ok row := by
  obtain ⟨pieces, rest, whole, apart, stops⟩ := exists_pieces source.toList
  have read : tokens source = _ := whole ▸ tokensWithin_pieces source.toList apart
  rw [refused] at read
  have refused' := Attempts.map_eq_error_iff.mp read.symm
  rcases stops with rfl | stuck
  · rw [tokensWithin] at refused'
    cases refused'
  · obtain ⟨after, rfl, place⟩ := stuck.eq_cons_of_unexpected refused'
    refine ⟨textOf pieces, after, whole.symm, ?_, tokensOf pieces, tokens_eq_ok_iff.mpr ?_⟩
    · rw [place, ← whole, byteCount_append, Nat.add_sub_cancel]
    · exact ⟨pieces, (String.toList_ofList).symm, rfl, apart.replace (by simp)⟩

/-- A condition whose refusal says that a character is unexpected at an offset has this character
there, so many bytes from its beginning, and what stands before it has tokens by itself. -/
theorem offsets_point_at_faults {source : String} {e : SyntaxError} {c : Char} {offset : Nat}
    (refused : tokens source = .error e)
    (told : e.message = "unexpected character `" ++ c.toString ++ "` at offset " ++ intText offset) :
    ∃ (p : source.Pos) (inside : p ≠ source.endPos), p.offset.byteIdx = offset ∧
      p.get inside = c ∧ ∃ row, tokens (source.sliceTo p).copy = .ok row := by
  obtain rfl := SyntaxError.message_eq_iff.mp told
  obtain ⟨before, after, whole, place, row, read⟩ := exists_read_before refused
  have divided : source = String.ofList before ++ (String.singleton c ++ String.ofList after) := by
    rw [← String.ofList_cons, ← String.ofList_append, ← whole, String.ofList_toList]
  have splits := String.Pos.splits_ofEqAppend divided
  have inside := splits.ne_endPos_of_singleton
  refine ⟨_, inside, ?_, splits.next.get_eq_of_singleton, row, ?_⟩
  · rw [splits.offset_eq_rawEndPos, ← place, byteCount_eq]
    rfl
  · rwa [splits.copy_sliceTo_eq]

/-- The equality sign that stands alone comes after a letter of two bytes and a blank. -/
theorem offsets_point_at_faults_accented :
    tokens "é = 1" = .error (.unexpectedCharacter '=' 3) ∧
    (SyntaxError.unexpectedCharacter '=' 3).message =
      "unexpected character `" ++ '='.toString ++ "` at offset " ++ intText 3 ∧
    ∃ (p : "é = 1".Pos) (inside : p ≠ "é = 1".endPos), p.offset.byteIdx = 3 ∧
      p.get inside = '=' ∧ ∃ row, tokens ("é = 1".sliceTo p).copy = .ok row := by
  have named : IsName ['é'] := ⟨by decide +kernel, by simp⟩
  have word : Writes ['é'] (.name "é") := .name named (by decide)
  have blank : Text.isBlank ' ' = true := by decide +kernel
  have ends : ∀ d ∈ [' ', '=', ' ', '1'].head?, ¬(Token.name "é").Prolonged d := by
    rintro d ⟨⟩
    change ¬isNamePart ' ' = true
    decide +kernel
  have inked : Text.isBlank '=' = false := by decide +kernel
  have stray : lexeme '=' [' ', '1'] = .stray := rfl
  have refused : tokens "é = 1" = .error (.unexpectedCharacter '=' 3) := by
    refine (tokensWithin_lexeme "é = 1".toList word ends).trans ?_
    rw [tokensWithin_blank _ blank, tokensWithin, inked, stray]
    rfl
  exact ⟨refused, rfl, offsets_point_at_faults refused rfl⟩

end ChannelGuard.Condition
