import ChannelGuard.Proofs.LongestMatch
import ChannelGuard.Proofs.ParsingByGrammar

/-!
# Conditions made of conditions

A condition in parentheses is an operand, whatever comes before and after it: its last lexeme ends
at the closing parenthesis, and the grammar derives a group anywhere it derives an operand. So
conditions can be joined by operators and negated without a look at what they say.
-/

namespace ChannelGuard.Condition

/-! Lexemes in a row -/

variable {text rest : List Char} {row : List Token} {e : Expr}

/-- A character that makes no lexeme longer. -/
def Closes (c : Char) : Prop := isNumberPart c = false ∧ isNamePart c = false ∧ c ≠ '='

theorem Closes.not_prolonged {c : Char} (closes : Closes c) (token : Token) :
    ¬token.Prolonged c := by
  obtain ⟨noNumber, noName, noEqual⟩ := closes
  match token with
  | .number _ => simp [Token.Prolonged, noNumber]
  | .name _ | .operator (.relation .mem) => simp [Token.Prolonged, noName]
  | .bang | .operator (.relation .gt) | .operator (.relation .lt) =>
    simpa [Token.Prolonged] using noEqual
  | .text _ | .dot | .openParen | .closeParen | .operator (.connective _)
  | .operator (.relation .eq) | .operator (.relation .ne) | .operator (.relation .ge)
  | .operator (.relation .le) => exact id

theorem closes_openParen : Closes '(' := ⟨rfl, by decide +kernel, by decide⟩

theorem closes_closeParen : Closes ')' := ⟨rfl, by decide +kernel, by decide⟩

theorem closes_of_isBlank {c : Char} (blank : Text.isBlank c = true) : Closes c := by
  refine ⟨?_, isNamePart_eq_false_of_isBlank blank, ?_⟩
  · rw [Bool.eq_false_iff]
    intro part
    simp only [isNumberPart, Bool.or_eq_true, beq_iff_eq] at part
    rcases part with digit | rfl
    · have inked := isBlank_eq_false_of_isNumberStart (c := c) (by simp [isNumberStart, digit])
      rw [blank] at inked
      cases inked
    · cases blank
  · rintro rfl
    cases blank

theorem Spells.replace {rest' : List Char} (h : Spells text row rest)
    (closes : ∀ c ∈ rest'.head?, Closes c) : Spells text row rest' := by
  obtain ⟨pieces, written, tokens, apart⟩ := h
  exact ⟨pieces, written, tokens, apart.replace fun c head => (closes c head).not_prolonged⟩

theorem spells_lexeme {token : Token} (writes : Writes text token)
    (ends : ∀ c ∈ rest.head?, ¬token.Prolonged c) : Spells text [token] rest := by
  refine ⟨[.lexeme text token writes], by simp [Piece.text], rfl, fun c head => ?_, trivial⟩
  rw [Piece.prolonged_lexeme_iff]
  exact ends c head

theorem spells_blank (blank : ∀ c ∈ text, Text.isBlank c = true) : Spells text [] rest := by
  induction text with
  | nil => exact ⟨[], rfl, rfl, trivial⟩
  | cons c text ih =>
    obtain ⟨first, others⟩ := List.forall_mem_cons.mp blank
    obtain ⟨pieces, rfl, none, apart⟩ := ih others
    exact ⟨.blank c first :: pieces, rfl, none, fun d _ => Piece.not_prolonged_blank first, apart⟩

/-- A text in parentheses, whatever comes after it. -/
theorem Spells.group (h : Spells text row []) (rest : List Char) :
    Spells ('(' :: (text ++ [')'])) (.openParen :: (row ++ [.closeParen])) rest := by
  have opened : Spells ['('] [.openParen] (text ++ [')'] ++ rest) :=
    spells_lexeme .openParen fun _ _ => id
  have closed : Spells [')'] [.closeParen] rest := spells_lexeme .closeParen fun _ _ => id
  have inside : Spells text row ([')'] ++ rest) := h.replace (by
    rintro c ⟨⟩
    exact closes_closeParen)
  exact opened.append (inside.append closed)

/-! Derivations of operands -/

theorem Derives.group (h : Derives (.joined .or) row e) :
    Derives .primary (.openParen :: (row ++ [.closeParen])) e := by
  obtain ⟨t, rfl, rfl⟩ := h
  exact ⟨.group t, rfl, rfl⟩

theorem Derives.negation (h : Derives .unary row e) : Derives .unary (.bang :: row) (.not e) := by
  obtain ⟨t, rfl, rfl⟩ := h
  exact ⟨.negation t, rfl, rfl⟩

/-- Two operands joined by an operator are a condition. -/
theorem Derives.binary {row' : List Token} {e' : Expr} (h : Derives .primary row e)
    (h' : Derives .primary row' e') (op : Operator) :
    Derives (.joined .or) (row ++ .operator op :: row') (.binary op e e') := by
  have left : Derives .unary row e := h.loosen (Nat.le_refl 4) (by simp)
  have right : Derives op.operand row' e' := by
    refine h'.loosen ?_ ?_
    · rw [Operator.precedence_operand]
      exact Nat.succ_le_succ op.precedence_le
    · match op with
      | .relation _ | .connective .and | .connective .or => simp [Operator.operand]
  have joined := left.extend (by simp) (Nat.lt_succ_of_le op.precedence_le) right
  refine joined.loosen ?_ (by simp)
  match op with
  | .relation _ => exact Nat.le_add_left 1 2
  | .connective .and | .connective .or => decide

/-! Whole conditions -/

/-- A text is a condition if its longest lexemes have a derivation. -/
theorem parse_eq_ok_iff {source : String} :
    parse source = .ok e ↔ ∃ row, Spells source.toList row [] ∧ Derives (.joined .or) row e := by
  unfold parse
  rw [Attempts.bind_eq_ok_iff]
  constructor
  · rintro ⟨row, scanned, parsed⟩
    exact ⟨row, tokens_eq_ok_iff.mp scanned, derives_of_parseTokens parsed⟩
  · rintro ⟨row, spelled, t, rfl, rfl⟩
    refine ⟨t.tokens, tokens_eq_ok_iff.mpr spelled, ?_⟩
    rw [parseTokens_of_ne_nil (underivable_nil t), readBinary_of_derivation]
    rfl

section Composition

variable {source source' gap gap' : String} {e' : Expr}

/-- A lexeme that is an operand is a condition by itself. -/
theorem parse_of_writes {token : Token} (writes : Writes source.toList token)
    (derived : Derives .primary [token] e) : parse source = .ok e := by
  refine parse_eq_ok_iff.mpr ⟨[token], spells_lexeme writes (by simp), ?_⟩
  exact derived.loosen (by decide) (by simp)

theorem parse_group (h : parse source = .ok e) : parse ("(" ++ source ++ ")") = .ok e := by
  obtain ⟨row, spelled, derived⟩ := parse_eq_ok_iff.mp h
  refine parse_eq_ok_iff.mpr ⟨.openParen :: (row ++ [.closeParen]), ?_, ?_⟩
  · simpa using spelled.group []
  · exact derived.group.loosen (by decide) (by simp)

theorem parse_negation (h : parse source = .ok e) :
    parse ("!(" ++ source ++ ")") = .ok (.not e) := by
  obtain ⟨row, spelled, derived⟩ := parse_eq_ok_iff.mp h
  have operand : Derives .unary _ e := derived.group.loosen (by decide) (by simp)
  refine parse_eq_ok_iff.mpr ⟨_, ?_, operand.negation.loosen (by decide) (by simp)⟩
  have bang : Spells ['!'] [.bang] ('(' :: (source.toList ++ [')']) ++ []) :=
    spells_lexeme .bang (by
      rintro c ⟨⟩
      exact closes_openParen.not_prolonged _)
  simpa using bang.append (spelled.group [])

theorem parse_binary (h : parse source = .ok e) (h' : parse source' = .ok e') (op : Operator)
    (blank : ∀ c ∈ gap.toList, Text.isBlank c = true)
    (blank' : ∀ c ∈ gap'.toList, Text.isBlank c = true) :
    parse ("(" ++ source ++ ")" ++ gap ++ op.symbol ++ gap' ++ "(" ++ source' ++ ")") =
      .ok (.binary op e e') := by
  obtain ⟨row, spelled, derived⟩ := parse_eq_ok_iff.mp h
  obtain ⟨row', spelled', derived'⟩ := parse_eq_ok_iff.mp h'
  refine parse_eq_ok_iff.mpr ⟨_, ?_, derived.group.binary derived'.group op⟩
  have second : Spells (gap'.toList ++ '(' :: (source'.toList ++ [')'])) _ [] :=
    (spells_blank blank').append (spelled'.group [])
  have ends : ∀ c ∈ (gap'.toList ++ '(' :: (source'.toList ++ [')']) ++ []).head?, Closes c := by
    cases start : gap'.toList with
    | nil =>
      rintro c ⟨⟩
      exact closes_openParen
    | cons d others =>
      rintro c ⟨⟩
      exact closes_of_isBlank (blank' _ (by simp [start]))
  have operator : Spells (op.symbol.toList ++ _) _ [] :=
    (spells_lexeme (.operator op) fun c head => (ends c head).not_prolonged _).append second
  have whole := (spelled.group _).append ((spells_blank blank).append operator)
  simpa using whole

/-- Blanks around a condition do not matter. -/
theorem parse_padded (h : parse source = .ok e) (blank : ∀ c ∈ gap.toList, Text.isBlank c = true)
    (blank' : ∀ c ∈ gap'.toList, Text.isBlank c = true) :
    parse (gap ++ source ++ gap') = .ok e := by
  obtain ⟨row, spelled, derived⟩ := parse_eq_ok_iff.mp h
  refine parse_eq_ok_iff.mpr ⟨row, ?_, derived⟩
  have closed : ∀ c ∈ (gap'.toList ++ []).head?, Closes c := by
    intro c head
    rw [List.append_nil] at head
    exact closes_of_isBlank (blank' c (List.mem_of_mem_head? head))
  have padded := (spelled.replace closed).append (spells_blank blank')
  simpa using (spells_blank blank).append padded

/-- Conditions are made of conditions: in parentheses they are joined by every operator, negated and
grouped, with the expressions that this says, and blanks around a condition change nothing. -/
theorem conditions_compose {left right : Expr} (h : parse source = .ok left)
    (h' : parse source' = .ok right) :
    (∀ op : Operator, parse ("(" ++ source ++ ") " ++ op.symbol ++ " (" ++ source' ++ ")") =
      .ok (.binary op left right)) ∧
    parse ("!(" ++ source ++ ")") = .ok (.not left) ∧
    parse ("(" ++ source ++ ")") = .ok left ∧
    (∀ before after : String, (∀ c ∈ before.toList, Text.isBlank c = true) →
      (∀ c ∈ after.toList, Text.isBlank c = true) →
      parse (before ++ source ++ after) = .ok left) := by
  refine ⟨fun op => ?_, parse_negation h, parse_group h, fun _ _ => parse_padded h⟩
  have space : ∀ c ∈ (" " : String).toList, Text.isBlank c = true := by
    rintro c listed
    rw [List.mem_singleton.mp listed]
    rfl
  have joined := parse_binary h h' op space space
  have closed : (") " : String) = ")" ++ " " := rfl
  have opened : (" (" : String) = " " ++ "(" := rfl
  simp only [closed, opened, String.append_assoc] at joined ⊢
  exact joined

/-- Parentheses and operators inside texts are of no account. -/
theorem conditions_compose_texts :
    parse "(\")\") in (\"&& (\")" =
      .ok (.binary (.relation .mem) (.literal (.string ")")) (.literal (.string "&& ("))) ∧
    parse "!(\")\")" = .ok (.not (.literal (.string ")"))) ∧
    parse "\u3000\")\"\n" = .ok (.literal (.string ")")) := by
  have closing : parse "\")\"" = .ok (.literal (.string ")")) :=
    parse_of_writes (.text (.plain (by decide) .nil)) ⟨.text ")", rfl, rfl⟩
  have opening : parse "\"&& (\"" = .ok (.literal (.string "&& (")) :=
    parse_of_writes (.text (.plain (by decide) (.plain (by decide) (.plain (by decide)
      (.plain (by decide) .nil))))) ⟨.text "&& (", rfl, rfl⟩
  have ideographic : Text.isBlank '\u3000' = true := by decide +kernel
  have newline : Text.isBlank '\n' = true := by decide +kernel
  obtain ⟨joined, negated, -, padded⟩ := conditions_compose closing opening
  exact ⟨joined (.relation .mem), negated,
    padded "\u3000" "\n" (by simpa using ideographic) (by simpa using newline)⟩

end Composition

end ChannelGuard.Condition
