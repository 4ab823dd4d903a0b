import ChannelGuard.Policy.Error
import ChannelGuard.Proofs.Attempts
import ChannelGuard.Proofs.LexemeReading

/-!
# The scanner finds the longest lexemes

What stands at the beginning of a text is a blank, one longest lexeme or something that the scanner
cannot read, and only one of these. So a text that is a row of pieces is that row in one way only,
and every other text has a first place at which the scanner gets stuck.
-/

namespace ChannelGuard.Condition

variable {c : Char} {rest source written : List Char} {token : Token} {pieces : List Piece}

/-- Two lexemes at the start of one text, neither of which can be longer, are the same. -/
theorem Writes.unique {written' rest' : List Char} {token' : Token} (writes : Writes written token)
    (ends : ∀ d ∈ rest.head?, ¬token.Prolonged d) (writes' : Writes written' token')
    (ends' : ∀ d ∈ rest'.head?, ¬token'.Prolonged d) (same : written ++ rest = written' ++ rest') :
    written = written' ∧ token = token' ∧ rest = rest' := by
  obtain ⟨c, tail, rfl, -, shorter, read⟩ := lexeme_of_writes writes ends
  obtain ⟨c', tail', rfl, -, shorter', read'⟩ := lexeme_of_writes writes' ends'
  rw [List.cons_append, List.cons_append] at same
  obtain ⟨rfl, others⟩ := List.cons.inj same
  generalize divided : tail' ++ rest' = after at shorter' read' others
  subst others
  cases read.symm.trans read'
  exact ⟨by rw [List.append_cancel_right divided], rfl, rfl⟩

/-- No longer beginning of a text is a lexeme. -/
theorem Writes.eq_nil_of_append {more : List Char} {token' : Token} (writes : Writes written token)
    (ends : ∀ d ∈ more.head?, ¬token.Prolonged d) (longer : Writes (written ++ more) token') :
    more = [] :=
  (writes.unique ends longer (by simp) (List.append_nil _).symm).2.2

theorem Writes.exists_cons (writes : Writes written token) :
    ∃ c tail, written = c :: tail ∧ Text.isBlank c = false := by
  have ends : ∀ d ∈ ([] : List Char).head?, ¬token.Prolonged d := by simp
  obtain ⟨c, tail, same, inked, -⟩ := lexeme_of_writes writes ends
  exact ⟨c, tail, same, inked⟩

/-- A blank is no beginning of a lexeme. -/
theorem Writes.ne_blank_cons (writes : Writes written token) (blank : Text.isBlank c = true)
    (rest after : List Char) : c :: after ≠ written ++ rest := by
  obtain ⟨d, tail, rfl, inked⟩ := writes.exists_cons
  rintro ⟨⟩
  rw [blank] at inked
  cases inked

theorem textOf_cons_ne_nil (piece : Piece) (others : List Piece) :
    textOf (piece :: others) ≠ [] := by
  cases piece with
  | blank c blank => simp [Piece.text]
  | lexeme written token writes =>
    obtain ⟨c, tail, rfl, -⟩ := writes.exists_cons
    simp [Piece.text]

/-- A text is divided in one way at most. -/
theorem eq_of_textOf_eq {pieces pieces' : List Piece} (apart : Apart [] pieces)
    (apart' : Apart [] pieces') (same : textOf pieces = textOf pieces') : pieces = pieces' := by
  induction pieces generalizing pieces' with
  | nil =>
    cases pieces' with
    | nil => rfl
    | cons piece others => exact absurd same.symm (textOf_cons_ne_nil piece others)
  | cons piece others ih =>
    cases pieces' with
    | nil => exact absurd same (textOf_cons_ne_nil piece others)
    | cons piece' others' =>
      cases piece with
      | blank c blank =>
        cases piece' with
        | blank d blank' =>
          obtain ⟨rfl, same'⟩ := List.cons.inj same
          rw [ih apart.2 apart'.2 same']
        | lexeme written token writes => exact absurd same (writes.ne_blank_cons blank _ _)
      | lexeme written token writes =>
        cases piece' with
        | blank d blank => exact absurd same.symm (writes.ne_blank_cons blank _ _)
        | lexeme written' token' writes' =>
          have ends : ∀ d ∈ (textOf others).head?, ¬token.Prolonged d := fun d head =>
            (Piece.prolonged_lexeme_iff writes).not.mp (apart.1 d (by rwa [List.append_nil]))
          have ends' : ∀ d ∈ (textOf others').head?, ¬token'.Prolonged d := fun d head =>
            (Piece.prolonged_lexeme_iff writes').not.mp (apart'.1 d (by rwa [List.append_nil]))
          obtain ⟨rfl, rfl, same'⟩ := writes.unique ends writes' ends' same
          rw [ih apart.2 apart'.2 same']

/-! The scanner -/

theorem tokensWithin_blank (source : List Char) (blank : Text.isBlank c = true)
    (after : List Char) : tokensWithin source (c :: after) = tokensWithin source after := by
  rw [tokensWithin, if_pos blank]

theorem tokensWithin_lexeme (source : List Char) (writes : Writes written token)
    (ends : ∀ d ∈ rest.head?, ¬token.Prolonged d) :
    tokensWithin source (written ++ rest) = (tokensWithin source rest).map (token :: ·) := by
  obtain ⟨c, tail, rfl, inked, shorter, read⟩ := lexeme_of_writes writes ends
  rw [List.cons_append, tokensWithin, inked, read]
  rfl

/-- Pieces that stand apart are read one after the other. -/
theorem tokensWithin_pieces (source : List Char) (apart : Apart rest pieces) :
    tokensWithin source (textOf pieces ++ rest) =
      (tokensWithin source rest).map (tokensOf pieces ++ ·) := by
  induction pieces with
  | nil =>
    rw [textOf_nil, List.nil_append]
    cases tokensWithin source rest <;> rfl
  | cons piece others ih =>
    obtain ⟨ends, apart'⟩ := apart
    rw [textOf_cons, List.append_assoc]
    cases piece with
    | blank c blank => exact (tokensWithin_blank source blank _).trans (ih apart')
    | lexeme written token writes =>
      have ends' : ∀ d ∈ (textOf others ++ rest).head?, ¬token.Prolonged d :=
        fun d head => (Piece.prolonged_lexeme_iff writes).not.mp (ends d head)
      rw [Piece.text, tokensWithin_lexeme source writes ends', ih apart']
      cases tokensWithin source rest <;> rfl

/-- Here the scanner can go on neither by a blank nor by a lexeme. -/
def Stuck (rest : List Char) : Prop :=
  ∃ c after, rest = c :: after ∧ Text.isBlank c = false ∧
    ∀ token left shorter, lexeme c after ≠ .token token left shorter

/-- The scanner comes to the end of a text or gets stuck. -/
theorem exists_pieces (text : List Char) :
    ∃ pieces rest, textOf pieces ++ rest = text ∧ Apart rest pieces ∧ (rest = [] ∨ Stuck rest) := by
  match text with
  | [] => exact ⟨[], [], rfl, trivial, .inl rfl⟩
  | c :: after =>
    by_cases blank : Text.isBlank c = true
    · obtain ⟨pieces, rest, rfl, apart, stops⟩ := exists_pieces after
      exact ⟨.blank c blank :: pieces, rest, rfl,
        ⟨fun d _ => Piece.not_prolonged_blank blank, apart⟩, stops⟩
    · by_cases found : ∃ token left shorter, lexeme c after = .token token left shorter
      · obtain ⟨token, left, shorter, read⟩ := found
        obtain ⟨tail, rfl, writes, ends⟩ := writes_of_lexeme read
        obtain ⟨pieces, rest, rfl, apart, stops⟩ := exists_pieces left
        refine ⟨.lexeme (c :: tail) token writes :: pieces, rest, by simp [Piece.text],
          ⟨fun d head => ?_, apart⟩, stops⟩
        rw [Piece.prolonged_lexeme_iff]
        exact ends d head
      · refine ⟨[], c :: after, rfl, trivial, .inr ⟨c, after, rfl, by simpa using blank, ?_⟩⟩
        intro token left shorter read
        exact found ⟨token, left, shorter, read⟩
termination_by text.length

/-! Where the scanner gets stuck -/

theorem quotedBody_eq_error {text : List Char} {e : SyntaxError} (h : quotedBody text = .error e) :
    e = .unterminatedText ∨ ∃ c, e = .unknownEscape c := by
  fun_induction quotedBody text with
  | case1 | case3 =>
    cases h
    exact .inl rfl
  | case2 => cases h
  | case4 _ _ _ ih | case5 _ _ ih | case7 _ _ _ _ _ ih =>
    exact ih (Attempts.map_eq_error_iff.mp h)
  | case6 c =>
    cases h
    exact .inr ⟨c, rfl⟩

theorem pair_eq_fault {second : Char} {double : Token} {after : List Char} {alone : Lexeme after}
    {e : SyntaxError} (h : Lexeme.pair second double after alone = .fault e) :
    alone = .fault e := by
  cases after with
  | nil => exact h
  | cons d after =>
    by_cases same : d = second
    · simp [Lexeme.pair, same] at h
    · simpa only [Lexeme.pair, if_neg same] using h

/-- A lexeme goes wrong inside a quoted text, or as a row of digits and points that is no number. -/
theorem lexeme_eq_fault {after : List Char} {e : SyntaxError} (h : lexeme c after = .fault e) :
    quotedBody after = .error e ∨
      e = .invalidNumber (String.ofList (c :: after.takeWhile isNumberPart)) := by
  unfold lexeme at h
  split at h
  case h_4 =>
    split at h
    · cases h
    · next fault =>
      cases h
      exact .inl fault
  case h_11 =>
    by_cases number : isNumberStart c = true
    · simp only [number, if_true] at h
      split at h
      · cases h
      · cases h
        exact .inr rfl
    · simp only [number, Bool.false_eq_true, if_false] at h
      split at h <;> cases h
  all_goals first | cases h | cases pair_eq_fault h

theorem tokensWithin_of_stuck (source : List Char) (stuck : Stuck rest) :
    ∃ e, tokensWithin source rest = .error e ∧
      ∀ number, e = .invalidNumber number → ∃ after, rest = number.toList ++ after := by
  obtain ⟨c, after, rfl, inked, nothing⟩ := stuck
  rw [tokensWithin, inked]
  cases read : lexeme c after with
  | token token left shorter => exact absurd read (nothing token left shorter)
  | stray => exact ⟨_, rfl, by simp⟩
  | fault e =>
    refine ⟨e, rfl, ?_⟩
    rintro number rfl
    rcases lexeme_eq_fault read with quoted | invalid
    · rcases quotedBody_eq_error quoted with same | ⟨d, same⟩ <;> cases same
    · cases invalid
      exact ⟨after.dropWhile isNumberPart, by simp⟩

/-- The scanner reads the longest lexemes up to where it gets stuck, if it does. -/
theorem exists_scanned (source : String) :
    ∃ pieces rest, textOf pieces ++ rest = source.toList ∧ Apart rest pieces ∧
      (rest = [] ∧ tokens source = .ok (tokensOf pieces) ∨
        rest ≠ [] ∧ ∃ e, tokens source = .error e ∧
          ∀ number, e = .invalidNumber number → ∃ after, rest = number.toList ++ after) := by
  obtain ⟨pieces, rest, whole, apart, stops⟩ := exists_pieces source.toList
  have read : tokens source = _ := whole ▸ tokensWithin_pieces source.toList apart
  refine ⟨pieces, rest, whole, apart, ?_⟩
  rcases stops with rfl | stuck
  · rw [tokensWithin] at read
    exact .inl ⟨rfl, by simpa [Except.map] using read⟩
  · obtain ⟨e, failed, invalid⟩ := tokensWithin_of_stuck source.toList stuck
    rw [failed] at read
    obtain ⟨c, after, rfl, -⟩ := stuck
    exact .inr ⟨by simp, e, read, invalid⟩

theorem tokens_eq_ok_iff {source : String} {row : List Token} :
    tokens source = .ok row ↔ Spells source.toList row [] := by
  constructor
  · intro h
    obtain ⟨pieces, rest, whole, apart, ⟨rfl, read⟩ | ⟨-, e, failed, -⟩⟩ := exists_scanned source
    · cases read.symm.trans h
      exact ⟨pieces, by simpa using whole, rfl, apart⟩
    · cases failed.symm.trans h
  · rintro ⟨pieces, whole, rfl, apart⟩
    have read := tokensWithin_pieces source.toList apart
    rw [List.append_nil, whole, tokensWithin] at read
    simpa [tokens, Except.map] using read

/-! Positions -/

theorem byteCount_eq (text : List Char) : byteCount text = (String.ofList text).utf8ByteSize := by
  induction text with
  | nil => rfl
  | cons c rest ih =>
    rw [String.ofList_cons, String.utf8ByteSize_append, String.utf8ByteSize_singleton, ← ih]
    rfl

/-- Between two positions of the source, `start` and `stop` bytes from its beginning, stands the
text `written`. A position is on the boundary of a character. -/
def CutsOut (source : String) (start stop : Nat) (written : List Char) : Prop :=
  ∃ p q : source.Pos, p.offset.byteIdx = start ∧ q.offset.byteIdx = stop ∧
    source.extract p q = String.ofList written

theorem cutsOut_append (before written after : String) :
    CutsOut (before ++ (written ++ after)) before.utf8ByteSize
      (before.utf8ByteSize + written.utf8ByteSize) written.toList := by
  have first : String.Pos.Raw.IsValid (before ++ (written ++ after)) ⟨before.utf8ByteSize⟩ :=
    String.Pos.Raw.isValid_iff_exists_append.mpr ⟨before, written ++ after, rfl, rfl⟩
  have last : String.Pos.Raw.IsValid (before ++ (written ++ after))
      ⟨before.utf8ByteSize + written.utf8ByteSize⟩ := by
    refine String.Pos.Raw.isValid_iff_exists_append.mpr
      ⟨before ++ written, after, by rw [String.append_assoc], ?_⟩
    rw [← String.utf8ByteSize_append]
    rfl
  refine ⟨⟨_, first⟩, ⟨_, last⟩, rfl, rfl, ?_⟩
  rw [String.ofList_toList, ← String.toByteArray_inj]
  simp only [String.extract, String.toByteArray_append]
  have skipped := ByteArray.extract_append_size_add' (a := before.toByteArray)
    (b := written.toByteArray ++ after.toByteArray) (i := 0) (j := written.utf8ByteSize)
    String.size_toByteArray.symm
  exact skipped.trans (ByteArray.extract_append_eq_left String.size_toByteArray.symm)

theorem cutsOut_of_toList_eq {source : String} {before after : List Char}
    (whole : source.toList = before ++ (written ++ after)) :
    CutsOut source (byteCount before) (byteCount before + byteCount written) written := by
  have divided : source =
      String.ofList before ++ (String.ofList written ++ String.ofList after) := by
    rw [← String.ofList_append, ← String.ofList_append, ← whole, String.ofList_toList]
  have cut := cutsOut_append (String.ofList before) (String.ofList written) (String.ofList after)
  rwa [← divided, ← byteCount_eq, ← byteCount_eq, String.toList_ofList] at cut

/-! The whole text -/

/-- The integer of 64 bits that a text writes is the number that it stands for. -/
theorem NumberText.eq_integer {i : Int} {n : JsonNumber} (value : NumberText written n)
    (whole : WholeText written i) (fits : IsInt64 i) : ∃ w : WideInt, w.value = i ∧ n = .integer w := by
  cases value with
  | integer whole' fits' => exact ⟨_, whole'.unique whole, rfl⟩
  | float wide => exact absurd fits (wide i whole)

/-- The tokens of a condition are those of its longest lexemes. A text has the tokens of `row` if it
is a row of blanks and of lexemes that write these tokens, none of which the next character makes
longer. Such a division is the only one, and none of its lexemes could reach further; any other text
is refused as an invalid condition. A text of digits that writes an integer of 64 bits stands for
that integer. What the scanner cuts out of a text, refused or not, starts and ends between
characters: the lexemes that it reads, and the number at which it gets stuck. -/
theorem tokens_follow_lexical_grammar :
    (∀ source row, tokens source = .ok row ↔ Spells source.toList row []) ∧
    (∀ source, (¬∃ row, Spells source.toList row []) → ∃ e : SyntaxError,
      tokens source = .error e ∧ (PolicyError.invalidCondition e).kind = "InvalidCondition") ∧
    (∀ pieces pieces', Apart [] pieces → Apart [] pieces' → textOf pieces = textOf pieces' →
      pieces = pieces') ∧
    (∀ written more token token', Writes written token → (∀ d ∈ more.head?, ¬token.Prolonged d) →
      Writes (written ++ more) token' → more = []) ∧
    (∀ written i n, WholeText written i → IsInt64 i → NumberText written n →
      ∃ w : WideInt, w.value = i ∧ n = .integer w) ∧
    (∀ source, ∃ pieces rest, textOf pieces ++ rest = source.toList ∧ Apart rest pieces ∧
      (∀ row, tokens source = .ok row ↔ rest = [] ∧ row = tokensOf pieces) ∧
      (∀ before piece after, pieces = before ++ piece :: after →
        CutsOut source (byteCount (textOf before))
          (byteCount (textOf before) + byteCount piece.text) piece.text) ∧
      (∀ number, tokens source = .error (.invalidNumber number) →
        CutsOut source (byteCount (textOf pieces))
          (byteCount (textOf pieces) + byteCount number.toList) number.toList)) := by
  refine ⟨fun source row => tokens_eq_ok_iff, ?_, fun _ _ => eq_of_textOf_eq,
    fun _ _ _ _ writes ends longer => writes.eq_nil_of_append ends longer,
    fun _ _ _ whole fits value => value.eq_integer whole fits, ?_⟩
  · intro source unspelled
    cases h : tokens source with
    | error e => exact ⟨e, rfl, rfl⟩
    | ok row => exact absurd ⟨row, tokens_eq_ok_iff.mp h⟩ unspelled
  · intro source
    obtain ⟨pieces, rest, whole, apart, outcome⟩ := exists_scanned source
    refine ⟨pieces, rest, whole, apart, ?_, ?_, ?_⟩
    · intro row
      rcases outcome with ⟨rfl, read⟩ | ⟨stuck, e, failed, -⟩
      · rw [read, Except.ok.injEq, eq_comm]
        simp
      · simp [failed, stuck]
    · rintro before piece after rfl
      rw [textOf_append, textOf_cons, List.append_assoc, List.append_assoc] at whole
      exact cutsOut_of_toList_eq whole.symm
    · intro number refused
      rcases outcome with ⟨-, read⟩ | ⟨-, e, failed, invalid⟩
      · cases read.symm.trans refused
      · cases failed.symm.trans refused
        obtain ⟨after, rfl⟩ := invalid number rfl
        exact cutsOut_of_toList_eq whole.symm

/-- Half an operator next to a number, half an operator that is no lexeme, and a number that is none,
cut out after a character of two bytes. -/
theorem tokens_follow_lexical_grammar_seams :
    tokens "<1" = .ok [.operator (.relation .lt), .number (.integer ⟨1, by decide⟩)] ∧
    (∃ e : SyntaxError, tokens "=" = .error e ∧
      (PolicyError.invalidCondition e).kind = "InvalidCondition") ∧
    (¬∃ pieces, Apart [] pieces ∧ textOf pieces = ['<', '1'] ∧ pieces.length = 1) ∧
    ¬Writes ['<', '1'] (.operator (.relation .lt)) ∧
    (¬∃ x, NumberText ['1'] (.float x)) ∧
    ∃ start, CutsOut "é 1.." start (start + 3) ['1', '.', '.'] := by
  obtain ⟨reads, refuses, divides, longest, integers, cuts⟩ := tokens_follow_lexical_grammar
  have row : DigitRow ['1'] := by simp [DigitRow]
  have whole : WholeText ['1'] 1 := .mk false (by simp) row
  have less : Writes ['<'] (.operator (.relation .lt)) := .operator (.relation .lt)
  have one : Writes ['1'] (.number (.integer ⟨1, by decide⟩)) :=
    .number (by decide) (by simp) (.integer whole (by simp [IsInt64]))
  have ends : ∀ d ∈ ['1'].head?, ¬(Token.operator (.relation .lt)).Prolonged d := by
    rintro d ⟨⟩
    simp [Token.Prolonged]
  have apart : Apart [] [.lexeme _ _ less, .lexeme _ _ one] :=
    ⟨fun d head => (Piece.prolonged_lexeme_iff less).not.mpr (ends d head), by simp, trivial⟩
  refine ⟨(reads "<1" _).mpr ⟨_, rfl, rfl, apart⟩, refuses "=" ?_, ?_, ?_, ?_, ?_⟩
  · rintro ⟨row, spelled⟩
    have read := tokens_eq_ok_iff.mpr spelled
    have inked : Text.isBlank '=' = false := by decide +kernel
    simp [tokens, tokensWithin, lexeme, Lexeme.pair, inked] at read
  · rintro ⟨pieces, apart', written, single⟩
    rw [divides pieces _ apart' apart written] at single
    cases single
  · intro longer
    cases longest _ _ _ _ less ends longer
  · rintro ⟨x, value⟩
    obtain ⟨w, -, same⟩ := integers _ _ _ whole (by simp [IsInt64]) value
    cases same
  · obtain ⟨pieces, rest, -, -, -, -, cut⟩ := cuts "é 1.."
    have named : IsName ['é'] := ⟨by decide +kernel, by simp⟩
    have word : Writes ['é'] (.name "é") := .name named (by decide)
    have blank : Text.isBlank ' ' = true := by decide +kernel
    have ends : ∀ d ∈ [' ', '1', '.', '.'].head?, ¬(Token.name "é").Prolonged d := by
      rintro d ⟨⟩
      change ¬isNamePart ' ' = true
      decide +kernel
    have inked : Text.isBlank '1' = false := by decide +kernel
    have invalid : lexeme '1' ['.', '.'] = .fault (.invalidNumber "1..") := rfl
    have number : tokensWithin "é 1..".toList ['1', '.', '.'] = .error (.invalidNumber "1..") := by
      rw [tokensWithin, inked, invalid]
      rfl
    refine ⟨_, cut "1.." ((tokensWithin_lexeme "é 1..".toList word ends).trans ?_)⟩
    rw [tokensWithin_blank _ blank, number]
    rfl

end ChannelGuard.Condition
