import ChannelGuard.Proofs.ComposedConditions

/-!
# Conditions written out

Which expressions conditions stand for, and a text for each of them. Everything that is read is well
formed, and a well-formed expression whose numbers are integers of 64 bits is written out, with its
operands in parentheses, as a text that is read as that expression again.
-/

namespace ChannelGuard.Condition

open Number (decimalDigits digitsValue)

/-- A word that may stand in a path. -/
def IsIdentifier (word : String) : Prop := IsName word.toList ∧ word ≠ "in"

/-- An expression that a condition can stand for: its literals are no arrays and no objects, and its
paths are rows of identifiers that start with no value. -/
inductive WellFormed : Expr → Prop where
  | null : WellFormed (.literal .null)
  | bool (b : Bool) : WellFormed (.literal (.bool b))
  | number (n : JsonNumber) : WellFormed (.literal (.number n))
  | string (s : String) : WellFormed (.literal (.string s))
  | path {first : String} {more : List String} (words : ∀ word ∈ first :: more, IsIdentifier word)
      (free : ∀ k : Keyword, first ≠ k.word) : WellFormed (.path (first :: more))
  | not {inner : Expr} (h : WellFormed inner) : WellFormed (.not inner)
  | binary {left right : Expr} (op : Operator) (h : WellFormed left) (h' : WellFormed right) :
      WellFormed (.binary op left right)

/-- The numbers that stand in an expression. -/
def Expr.numbers : Expr → List JsonNumber
  | literal (.number n) => [n]
  | literal _ | path _ => []
  | not inner => inner.numbers
  | binary _ left right => left.numbers ++ right.numbers

/-- The inside of a quoted text, with a backslash before each quote and each backslash. -/
def escaped : List Char → List Char
  | [] => []
  | c :: rest => if c = '"' ∨ c = '\\' then '\\' :: c :: escaped rest else c :: escaped rest

/-- A literal as it stands in a condition; other values than these have none. -/
def literalText : Json → String
  | .string s => String.ofList ('"' :: (escaped s.toList ++ ['"']))
  | value => value.render

/-- The expression as a condition, with every operand in parentheses and `gap` around the operators
that join two of them. -/
def Expr.render (gap : String) : Expr → String
  | literal value => literalText value
  | path segments => ".".intercalate segments
  | not inner => "!(" ++ inner.render gap ++ ")"
  | binary op left right =>
    "(" ++ left.render gap ++ ")" ++ gap ++ op.symbol ++ gap ++ "(" ++ right.render gap ++ ")"

/-! What is read is well formed -/

theorem isIdentifier_of_spells {text rest : List Char} {row : List Token} {word : String}
    (h : Spells text row rest) (member : .name word ∈ row) : IsIdentifier word := by
  obtain ⟨pieces, -, rfl, -⟩ := h
  obtain ⟨piece, listed, token⟩ := List.mem_filterMap.mp member
  cases piece with
  | blank c blank => cases token
  | lexeme written token' writes =>
    cases token
    cases writes with
    | name named free => exact ⟨by rwa [String.toList_ofList], free⟩

theorem name_mem_segmentTokens {word : String} {segments : List String} (member : word ∈ segments) :
    .name word ∈ segmentTokens segments :=
  List.mem_flatMap.mpr ⟨word, member, by simp⟩

theorem wellFormed_value (k : Keyword) : WellFormed (.literal k.value) := by
  cases k with
  | true => exact .bool true
  | false => exact .bool false
  | null => exact .null

mutual

theorem Tree.wellFormed {l : Layer} (t : Tree l)
    (words : ∀ word, .name word ∈ t.tokens → IsIdentifier word) : WellFormed t.expr := by
  match t with
  | .joined first more =>
    simp only [Tree.tokens, List.mem_append] at words
    exact more.wellFormed (fun word member => words word (.inr member))
      (first.wellFormed fun word member => words word (.inl member))
  | .single operand => exact operand.wellFormed words
  | .related r left right =>
    simp only [Tree.tokens, List.mem_append, List.mem_cons] at words
    exact .binary _ (left.wellFormed fun word member => words word (.inl member))
      (right.wellFormed fun word member => words word (.inr (.inr member)))
  | .negation inner =>
    simp only [Tree.tokens, List.mem_cons] at words
    exact .not (inner.wellFormed fun word member => words word (.inr member))
  | .plain inner => exact inner.wellFormed words
  | .number n => exact .number n
  | .text s => exact .string s
  | .keyword k => exact wellFormed_value k
  | .path first free more =>
    refine .path (fun word member => words word ?_) free
    rcases List.mem_cons.mp member with rfl | member
    · exact List.mem_cons_self
    · exact List.mem_cons_of_mem _ (name_mem_segmentTokens member)
  | .group inner =>
    simp only [Tree.tokens, List.mem_append, List.mem_cons] at words
    exact inner.wellFormed fun word member => words word (.inr (.inl member))

theorem Tail.wellFormed {c : Connective} (t : Tail c) {left : Expr}
    (words : ∀ word, .name word ∈ t.tokens → IsIdentifier word) (h : WellFormed left) :
    WellFormed (t.extend left) := by
  match t with
  | .done => exact h
  | .more next others =>
    simp only [Tail.tokens, List.mem_append, List.mem_cons] at words
    have operand := next.wellFormed fun word member => words word (.inr (.inl member))
    exact others.wellFormed (fun word member => words word (.inr (.inr member)))
      (.binary _ h operand)

end

theorem wellFormed_of_parse {source : String} {e : Expr} (h : parse source = .ok e) :
    WellFormed e := by
  obtain ⟨row, spelled, t, rfl, rfl⟩ := parse_eq_ok_iff.mp h
  exact t.wellFormed fun word member => isIdentifier_of_spells spelled member

/-! Literals and paths are read back -/

variable {source gap : String} {e : Expr}

theorem quotedText_escaped (text : List Char) : QuotedText (escaped text) text := by
  induction text with
  | nil => exact .nil
  | cons c text ih =>
    by_cases special : c = '"' ∨ c = '\\'
    · rw [escaped, if_pos special]
      rcases special with rfl | rfl
      · exact .escape .quote ih
      · exact .escape .backslash ih
    · rw [escaped, if_neg special]
      exact .plain (not_or.mp special) ih

theorem digitRow_decimalDigits (n : Nat) : DigitRow (decimalDigits n) := by
  intro c member
  exact Nat.isDigit_of_mem_toDigits (by decide) (by decide) member

theorem digitsValue_decimalDigits (n : Nat) : digitsValue (decimalDigits n) = n :=
  Nat.ofDigitChars_ten_toDigits

theorem toList_intText (i : Int) :
    (intText i).toList = signText (decide (i < 0)) ++ decimalDigits i.natAbs := by
  by_cases negative : i < 0 <;> simp [intText, signText, negative]

theorem wholeText_intText (i : Int) : WholeText (intText i).toList i := by
  have nonempty : decimalDigits i.natAbs ≠ [] := Nat.toDigits_ne_nil
  have value : signed (decide (i < 0)) (digitsValue (decimalDigits i.natAbs)) = i := by
    rw [digitsValue_decimalDigits, signed]
    by_cases negative : i < 0
    · rw [if_pos (decide_eq_true negative)]
      omega
    · rw [if_neg (by simpa using negative)]
      omega
  have whole := WholeText.mk (decide (i < 0)) nonempty (digitRow_decimalDigits i.natAbs)
  rwa [value, ← toList_intText] at whole

/-- Integers are written with characters of numbers only. -/
theorem WholeText.exists_cons {written : List Char} {i : Int} (whole : WholeText written i) :
    ∃ c rest, written = c :: rest ∧ isNumberStart c = true ∧
      ∀ d ∈ rest, isNumberPart d = true := by
  cases whole with
  | @mk negative digits nonempty row =>
    have part : ∀ d ∈ digits, isNumberPart d = true := by
      intro d member
      simp [isNumberPart, row d member]
    cases negative with
    | true => exact ⟨'-', digits, rfl, rfl, part⟩
    | false =>
      obtain ⟨d, digits, rfl⟩ := List.exists_cons_of_ne_nil nonempty
      refine ⟨d, digits, rfl, ?_, fun d member => part d (List.mem_cons_of_mem _ member)⟩
      simp [isNumberStart, row d List.mem_cons_self]

theorem writes_intText {i : WideInt} (fits : IsInt64 i.value) :
    Writes (intText i.value).toList (.number (.integer i)) := by
  have whole := wholeText_intText i.value
  obtain ⟨c, rest, written, starts, inside⟩ := whole.exists_cons
  rw [written] at whole ⊢
  exact .number starts inside (.integer whole fits)

theorem Keyword.writes (k : Keyword) : Writes k.word.toList (.name k.word) := by
  have named : IsName k.word.toList := by
    cases k with
    | true => exact ⟨by decide +kernel, by simp; decide +kernel⟩
    | false => exact ⟨by decide +kernel, by simp; decide +kernel⟩
    | null => exact ⟨by decide +kernel, by simp; decide +kernel⟩
  have free : k.word ≠ "in" := by cases k <;> decide
  simpa using Writes.name named (by rwa [String.ofList_toList])

theorem parse_value (k : Keyword) : parse (literalText k.value) = .ok (.literal k.value) := by
  have written : literalText k.value = k.word := by cases k <;> rfl
  rw [written]
  exact parse_of_writes k.writes ⟨.keyword k, rfl, rfl⟩

theorem IsIdentifier.writes {word : String} (h : IsIdentifier word) :
    Writes word.toList (.name word) := by
  simpa using Writes.name h.1 (by rw [String.ofList_toList]; exact h.2)

theorem spells_path {first : String} {more : List String}
    (words : ∀ word ∈ first :: more, IsIdentifier word) :
    Spells (".".intercalate (first :: more)).toList (.name first :: segmentTokens more) [] := by
  induction more generalizing first with
  | nil =>
    have alone : Spells first.toList [.name first] [] :=
      spells_lexeme (words first List.mem_cons_self).writes (by simp)
    simpa [segmentTokens] using alone
  | cons second more ih =>
    obtain ⟨head, others⟩ := List.forall_mem_cons.mp words
    have noName : isNamePart '.' = false := by decide +kernel
    have dot : Spells ['.'] [.dot] ((".".intercalate (second :: more)).toList ++ []) :=
      spells_lexeme .dot fun _ _ => id
    have word : Spells first.toList [.name first]
        (['.'] ++ (".".intercalate (second :: more)).toList ++ []) :=
      spells_lexeme head.writes (by
        rintro c ⟨⟩
        simp [Token.Prolonged, noName])
    have whole := word.append (dot.append (ih others))
    simpa [segmentTokens, String.intercalate_cons_cons] using whole

theorem parse_path {first : String} {more : List String}
    (words : ∀ word ∈ first :: more, IsIdentifier word) (free : ∀ k : Keyword, first ≠ k.word) :
    parse (".".intercalate (first :: more)) = .ok (.path (first :: more)) := by
  have derived : Derives .primary (.name first :: segmentTokens more) (.path (first :: more)) :=
    ⟨.path first free more, rfl, rfl⟩
  exact parse_eq_ok_iff.mpr ⟨_, spells_path words, derived.loosen (by decide) (by simp)⟩

/-- What is written out is read back. -/
theorem parse_render (h : WellFormed e)
    (integers : ∀ n ∈ e.numbers, ∃ i : WideInt, n = .integer i ∧ IsInt64 i.value)
    (blank : ∀ c ∈ gap.toList, Text.isBlank c = true) : parse (e.render gap) = .ok e := by
  induction h with
  | null => exact parse_value .null
  | bool b =>
    cases b with
    | true => exact parse_value .true
    | false => exact parse_value .false
  | number n =>
    obtain ⟨i, rfl, fits⟩ := integers n List.mem_cons_self
    exact parse_of_writes (writes_intText fits) ⟨.number (.integer i), rfl, rfl⟩
  | string s =>
    have writes : Writes ('"' :: (escaped s.toList ++ ['"'])) (.text s) := by
      simpa using Writes.text (quotedText_escaped s.toList)
    exact parse_of_writes (by simpa [Expr.render, literalText] using writes) ⟨.text s, rfl, rfl⟩
  | path words free => exact parse_path words free
  | not h ih => exact parse_negation (ih integers)
  | binary op h h' ih ih' =>
    have left := ih fun n member => integers n (List.mem_append_left _ member)
    have right := ih' fun n member => integers n (List.mem_append_right _ member)
    exact parse_binary left right op blank blank

/-- Conditions stand for well-formed expressions only, and every well-formed expression whose numbers
are integers of 64 bits has a condition that is read as this expression: the expression written out
with its operands in parentheses, whatever blanks stand around the operators. -/
theorem rendered_conditions_read_back :
    (∀ source e, parse source = .ok e → WellFormed e) ∧
    (∀ e gap, WellFormed e →
      (∀ n ∈ e.numbers, ∃ i : WideInt, n = .integer i ∧ IsInt64 i.value) →
      (∀ c ∈ gap.toList, Text.isBlank c = true) → parse (e.render gap) = .ok e) :=
  ⟨fun _ _ => wellFormed_of_parse, fun _ _ h integers blank => parse_render h integers blank⟩

/-- A path with the word of a value in it, a text with a quote and a backslash, and a negative
number. -/
theorem rendered_conditions_read_back_negation :
    parse "!((a.true)!=(\"\\\"\\\\\"))" = .ok (.not (.binary (.relation .ne) (.path ["a", "true"])
      (.literal (.string "\"\\")))) ∧
    parse "(-1)>=(a.true)" = .ok (.binary (.relation .ge) (.literal (.number (.integer ⟨-1, by decide⟩)))
      (.path ["a", "true"])) ∧
    WellFormed (.binary (.relation .ge) (.literal (.number (.integer ⟨-1, by decide⟩)))
      (.path ["a", "true"])) := by
  have words : ∀ word ∈ ["a", "true"], IsIdentifier word := by
    intro word listed
    have cases : word = "a" ∨ word = "true" := by simpa using listed
    rcases cases with rfl | rfl
    · exact ⟨⟨by decide +kernel, by simp⟩, by decide⟩
    · exact ⟨⟨by decide +kernel, by simp; decide +kernel⟩, by decide⟩
  have free : ∀ k : Keyword, "a" ≠ k.word := by
    intro k
    cases k <;> decide
  have path : WellFormed (.path ["a", "true"]) := .path words free
  have negation := rendered_conditions_read_back.2 _ "" (.not (.binary (.relation .ne) path
    (.string "\"\\"))) (by simp [Expr.numbers]) (by simp)
  have number := rendered_conditions_read_back.2 _ "" (.binary (.relation .ge)
    (.number (.integer ⟨-1, by decide⟩)) path) (by simp [Expr.numbers, IsInt64]) (by simp)
  exact ⟨negation, number, rendered_conditions_read_back.1 _ _ number⟩

end ChannelGuard.Condition
