import ChannelGuard.Proofs.NumberLiterals

/-!
# Reading one lexeme

What is read at a character is a lexeme of the grammar which the next character does not make
longer, and every such lexeme is read whole. The classes of characters decide which kind of lexeme
comes: no character is in two of them.
-/

namespace ChannelGuard.Condition

/-! Quoted texts -/

theorem QuotedText.read {written meant : List Char} (h : QuotedText written meant)
    (rest : List Char) : quotedBody (written ++ '"' :: rest) = .ok (meant, rest) := by
  induction h with
  | nil => rfl
  | plain free _ ih => simp [quotedBody, free, ih, Except.map]
  | escape known _ ih => cases known <;> simp [quotedBody, ih, Except.map]

theorem quotedText_of_quotedBody {text meant rest : List Char}
    (h : quotedBody text = .ok (meant, rest)) :
    ∃ written, text = written ++ '"' :: rest ∧ QuotedText written meant := by
  fun_induction quotedBody text generalizing meant with
  | case1 | case3 | case6 => cases h
  | case2 after =>
    cases h
    exact ⟨[], rfl, .nil⟩
  | case4 c after known ih =>
    obtain ⟨body, read, rfl⟩ := exists_body_of_map_cons h
    obtain ⟨written, rfl, inside⟩ := ih read
    simp only [Bool.or_eq_true, decide_eq_true_eq] at known
    rcases known with rfl | rfl
    · exact ⟨_, rfl, .escape .quote inside⟩
    · exact ⟨_, rfl, .escape .backslash inside⟩
  | case5 after _ ih =>
    obtain ⟨body, read, rfl⟩ := exists_body_of_map_cons h
    obtain ⟨written, rfl, inside⟩ := ih read
    exact ⟨_, rfl, .escape .newline inside⟩
  | case7 c after noQuote noEnd noEscape ih =>
    obtain ⟨body, read, rfl⟩ := exists_body_of_map_cons h
    obtain ⟨written, rfl, inside⟩ := ih read
    have free : c ≠ '"' ∧ c ≠ '\\' := by
      refine ⟨noQuote, ?_⟩
      rintro rfl
      cases written with
      | nil => exact noEscape '"' rest rfl rfl
      | cons d written => exact noEscape d _ rfl rfl
    exact ⟨_, rfl, .plain free inside⟩

/-! Characters -/

/-- The characters that numbers start with. -/
def numberStartRanges : Text.CharRanges := [(0x2D, 0x2D), (0x30, 0x39)]

theorem contains_of_isNumberStart {c : Char} (starts : isNumberStart c = true) :
    numberStartRanges.contains c = true := by
  simp only [isNumberStart, Bool.or_eq_true, beq_iff_eq] at starts
  rcases starts with digit | rfl
  · have range := Char.isDigit_iff_toNat.mp digit
    exact Text.CharRanges.contains_iff.mpr ⟨(0x30, 0x39), by simp [numberStartRanges], range⟩
  · rfl

theorem isNameStart_eq_false {c : Char} (starts : isNumberStart c = true) :
    isNameStart c = false := by
  have listed := contains_of_isNumberStart starts
  have letter : Text.isAlphabetic c = false :=
    Text.CharRanges.not_contains (by decide +kernel) listed
  have others : c ≠ '_' ∧ c ≠ '$' := by
    constructor
    · rintro rfl
      cases listed
    · rintro rfl
      cases listed
  simp [isNameStart, letter, others]

theorem isNamePart_eq_false_of_isBlank {c : Char} (blank : Text.isBlank c = true) :
    isNamePart c = false := by
  have letter : Text.isAlphabetic c = false :=
    Text.CharRanges.not_contains (by decide +kernel) blank
  have digit : Text.isNumeric c = false := Text.CharRanges.not_contains (by decide +kernel) blank
  have others : c ≠ '_' ∧ c ≠ '$' := by
    constructor
    · rintro rfl
      cases blank
    · rintro rfl
      cases blank
  simp [isNamePart, letter, digit, others]

theorem isNamePart_of_isNameStart {c : Char} (starts : isNameStart c = true) :
    isNamePart c = true := by
  simp only [isNameStart, Bool.or_eq_true] at starts
  rcases starts with (letter | low) | dollar <;> simp [isNamePart, *]

theorem isBlank_eq_false_of_isNumberStart {c : Char} (starts : isNumberStart c = true) :
    Text.isBlank c = false :=
  Text.CharRanges.not_contains (by decide) (contains_of_isNumberStart starts)

theorem isBlank_eq_false_of_isNameStart {c : Char} (starts : isNameStart c = true) :
    Text.isBlank c = false := by
  rw [Bool.eq_false_iff]
  intro blank
  have part := isNamePart_of_isNameStart starts
  rw [isNamePart_eq_false_of_isBlank blank] at part
  cases part

/-! One lexeme -/

variable {c : Char} {tail rest : List Char} {token : Token}

theorem lexeme_number {n : JsonNumber} (starts : isNumberStart c = true)
    (inside : ∀ d ∈ tail, isNumberPart d = true) (value : NumberText (c :: tail) n)
    (ends : ∀ d ∈ rest.head?, isNumberPart d = false) :
    ∃ shorter, lexeme c (tail ++ rest) = .token (.number n) rest shorter := by
  have taken := takeWhile_run inside ends
  have dropped := dropWhile_run inside ends
  have literal := numberLiteral?_of_numberText value
  refine ⟨by simp, ?_⟩
  unfold lexeme
  split
  case h_11 => simp only [starts, if_true, taken, dropped, literal]
  all_goals exact absurd starts (by decide)

theorem lexeme_word (starts : isNameStart c = true) (inside : ∀ d ∈ tail, isNamePart d = true)
    (ends : ∀ d ∈ rest.head?, isNamePart d = false) :
    ∃ shorter, lexeme c (tail ++ rest) =
      .token (if String.ofList (c :: tail) = "in" then .operator (.relation .mem)
        else .name (String.ofList (c :: tail))) rest shorter := by
  have taken := takeWhile_run inside ends
  have dropped := dropWhile_run inside ends
  have noNumber : isNumberStart c = false := by
    rw [Bool.eq_false_iff]
    intro number
    rw [isNameStart_eq_false number] at starts
    cases starts
  refine ⟨by simp, ?_⟩
  unfold lexeme
  split
  case h_11 => simp only [noNumber, Bool.false_eq_true, if_false, starts, if_true, taken, dropped]
  all_goals exact absurd starts (by decide +kernel)

theorem lexeme_pair {second : Char} {double : Token} (alone : Lexeme rest)
    (other : ∀ d ∈ rest.head?, d ≠ second) : Lexeme.pair second double rest alone = alone := by
  cases rest with
  | nil => rfl
  | cons d rest => exact if_neg (other d rfl)

theorem lexeme_of_writes {written : List Char} (writes : Writes written token)
    (ends : ∀ d ∈ rest.head?, ¬token.Prolonged d) :
    ∃ c tail, written = c :: tail ∧ Text.isBlank c = false ∧
      ∃ shorter, lexeme c (tail ++ rest) = .token token rest shorter := by
  cases writes with
  | dot | openParen | closeParen => exact ⟨_, _, rfl, rfl, Nat.le_refl _, rfl⟩
  | bang => exact ⟨_, _, rfl, rfl, Nat.le_refl _, lexeme_pair _ ends⟩
  | operator op =>
    cases op with
    | connective c => cases c <;> exact ⟨_, _, rfl, rfl, Nat.le_succ _, rfl⟩
    | relation r =>
      cases r with
      | eq | ne | ge | le => exact ⟨_, _, rfl, rfl, Nat.le_succ _, rfl⟩
      | gt | lt => exact ⟨_, _, rfl, rfl, Nat.le_refl _, lexeme_pair _ ends⟩
      | mem =>
        have ends' : ∀ d ∈ rest.head?, isNamePart d = false :=
          fun d head => Bool.eq_false_iff.mpr (ends d head)
        have starts : isNameStart 'i' = true := by decide +kernel
        have inside : ∀ d ∈ ['n'], isNamePart d = true := by
          intro d listed
          rw [List.mem_singleton.mp listed]
          decide +kernel
        obtain ⟨shorter, read⟩ := lexeme_word starts inside ends'
        exact ⟨'i', ['n'], rfl, rfl, shorter, read⟩
  | @text written meant inside =>
    have read : quotedBody ((written ++ ['"']) ++ rest) = .ok (meant, rest) := by
      rw [List.append_assoc]
      exact inside.read rest
    refine ⟨_, _, rfl, rfl, by simp only [List.length_append]; omega, ?_⟩
    simp only [lexeme]
    split
    · next read' =>
      cases read.symm.trans read'
      rfl
    · next read' => cases read.symm.trans read'
  | @number c tail n starts inside value =>
    have ends' : ∀ d ∈ rest.head?, isNumberPart d = false :=
      fun d head => Bool.eq_false_iff.mpr (ends d head)
    exact ⟨c, tail, rfl, isBlank_eq_false_of_isNumberStart starts,
      lexeme_number starts inside value ends'⟩
  | name named free =>
    have ends' : ∀ d ∈ rest.head?, isNamePart d = false :=
      fun d head => Bool.eq_false_iff.mpr (ends d head)
    cases written with
    | nil => cases named
    | cons c tail =>
      obtain ⟨shorter, read⟩ := lexeme_word named.1 named.2 ends'
      rw [if_neg free] at read
      exact ⟨c, tail, rfl, isBlank_eq_false_of_isNameStart named.1, shorter, read⟩

theorem pair_eq_token {second : Char} {double : Token} {after : List Char} {alone : Lexeme after}
    {shorter : rest.length ≤ after.length}
    (h : Lexeme.pair second double after alone = .token token rest shorter) :
    after = second :: rest ∧ token = double ∨
      alone = .token token rest shorter ∧ ∀ d ∈ after.head?, d ≠ second := by
  cases after with
  | nil => exact .inr ⟨h, by simp⟩
  | cons d after =>
    by_cases same : d = second
    · subst same
      simp only [Lexeme.pair, if_true] at h
      cases h
      exact .inl ⟨rfl, rfl⟩
    · simp only [Lexeme.pair, if_neg same] at h
      exact .inr ⟨h, by simpa using same⟩

theorem writes_number {after : List Char} {n : JsonNumber} (starts : isNumberStart c = true)
    (literal : numberLiteral? (c :: after.takeWhile isNumberPart) = some n) :
    Writes (c :: after.takeWhile isNumberPart) (.number n) ∧
      ∀ d ∈ (after.dropWhile isNumberPart).head?, ¬(Token.number n).Prolonged d := by
  have inside : ∀ d ∈ after.takeWhile isNumberPart, isNumberPart d = true :=
    fun d => List.mem_takeWhile_imp
  refine ⟨.number starts inside (numberText_of_numberLiteral? literal), ?_⟩
  intro d head
  simp [Token.Prolonged, stops_dropWhile isNumberPart after d head]

theorem writes_word (starts : isNameStart c = true) (after : List Char)
    (isWord : token = if String.ofList (c :: after.takeWhile isNamePart) = "in" then
      .operator (.relation .mem) else .name (String.ofList (c :: after.takeWhile isNamePart))) :
    Writes (c :: after.takeWhile isNamePart) token ∧
      ∀ d ∈ (after.dropWhile isNamePart).head?, ¬token.Prolonged d := by
  have inside : ∀ d ∈ after.takeWhile isNamePart, isNamePart d = true :=
    fun d => List.mem_takeWhile_imp
  have ends := stops_dropWhile isNamePart after
  by_cases member : String.ofList (c :: after.takeWhile isNamePart) = "in"
  · have letters := congrArg String.toList member
    rw [String.toList_ofList] at letters
    rw [isWord, if_pos member, letters]
    exact ⟨.operator (.relation .mem), fun d head => by simp [Token.Prolonged, ends d head]⟩
  · rw [isWord, if_neg member]
    exact ⟨.name ⟨starts, inside⟩ member, fun d head => by simp [Token.Prolonged, ends d head]⟩

/-- What is read at a character is the lexeme there, as long as it can be. -/
theorem writes_of_lexeme {after : List Char} {shorter : rest.length ≤ after.length}
    (h : lexeme c after = .token token rest shorter) :
    ∃ tail, after = tail ++ rest ∧ Writes (c :: tail) token ∧
      ∀ d ∈ rest.head?, ¬token.Prolonged d := by
  unfold lexeme at h
  split at h
  · cases h
    exact ⟨[], rfl, .dot, fun _ _ => id⟩
  · cases h
    exact ⟨[], rfl, .openParen, fun _ _ => id⟩
  · cases h
    exact ⟨[], rfl, .closeParen, fun _ _ => id⟩
  · split at h
    · next read =>
      cases h
      obtain ⟨written, rfl, inside⟩ := quotedText_of_quotedBody read
      exact ⟨written ++ ['"'], by simp, .text inside, fun _ _ => id⟩
    · cases h
  · rcases pair_eq_token h with ⟨rfl, rfl⟩ | ⟨alone, -⟩
    · exact ⟨['='], rfl, .operator (.relation .eq), fun _ _ => id⟩
    · cases alone
  · rcases pair_eq_token h with ⟨rfl, rfl⟩ | ⟨alone, ends⟩
    · exact ⟨['='], rfl, .operator (.relation .ne), fun _ _ => id⟩
    · cases alone
      exact ⟨[], rfl, .bang, ends⟩
  · rcases pair_eq_token h with ⟨rfl, rfl⟩ | ⟨alone, ends⟩
    · exact ⟨['='], rfl, .operator (.relation .ge), fun _ _ => id⟩
    · cases alone
      exact ⟨[], rfl, .operator (.relation .gt), ends⟩
  · rcases pair_eq_token h with ⟨rfl, rfl⟩ | ⟨alone, ends⟩
    · exact ⟨['='], rfl, .operator (.relation .le), fun _ _ => id⟩
    · cases alone
      exact ⟨[], rfl, .operator (.relation .lt), ends⟩
  · rcases pair_eq_token h with ⟨rfl, rfl⟩ | ⟨alone, -⟩
    · exact ⟨['&'], rfl, .operator (.connective .and), fun _ _ => id⟩
    · cases alone
  · rcases pair_eq_token h with ⟨rfl, rfl⟩ | ⟨alone, -⟩
    · exact ⟨['|'], rfl, .operator (.connective .or), fun _ _ => id⟩
    · cases alone
  · by_cases number : isNumberStart c = true
    · simp only [number, if_true] at h
      split at h
      · next n literal =>
        cases h
        exact ⟨after.takeWhile isNumberPart, by simp, writes_number number literal⟩
      · cases h
    · simp only [number] at h
      by_cases named : isNameStart c = true
      · simp only [named, if_true] at h
        cases h
        exact ⟨after.takeWhile isNamePart, by simp, writes_word named after rfl⟩
      · simp [named] at h

end ChannelGuard.Condition
