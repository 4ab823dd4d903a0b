import ChannelGuard.Condition.Parser
import ChannelGuard.Policy.Error
import ChannelGuard.Proofs.DerivableRows

/-!
# The parser and the grammar

The parser reads one operand and then operators by precedence, in one loop for all layers of the
grammar. It accepts exactly the rows of tokens that have a derivation, and builds the expression of
that derivation.
-/

namespace ChannelGuard.Condition

/-! Readings without the bound on what is left -/

section Readings

variable {α : Type}

/-- A reading with what is left as a mere row of tokens. -/
def plain {p : List Token → Prop} :
    Except SyntaxError (α × { rest : List Token // p rest }) → Except SyntaxError (α × List Token)
  | .ok (value, rest) => .ok (value, rest.val)
  | .error e => .error e

theorem of_plain_eq_ok {p : List Token → Prop}
    {reading : Except SyntaxError (α × { rest : List Token // p rest })} {value : α}
    {rest : List Token} (h : plain reading = .ok (value, rest)) : p rest := by
  cases reading with
  | error e => cases h
  | ok read =>
    cases h
    exact read.2.property

def readSegments (tokens : List Token) : Except SyntaxError (List String × List Token) :=
  plain (pathSegments tokens)

def readBinary (minimum : Nat) (tokens : List Token) : Except SyntaxError (Expr × List Token) :=
  plain (parseBinary minimum tokens)

def readOperators (minimum : Nat) (left : Expr) (tokens : List Token) :
    Except SyntaxError (Expr × List Token) :=
  plain (parseOperators minimum left tokens)

def readUnary (tokens : List Token) : Except SyntaxError (Expr × List Token) :=
  plain (parseUnary tokens)

def readPrimary (tokens : List Token) : Except SyntaxError (Expr × List Token) :=
  plain (parsePrimary tokens)

theorem readSegments_dot (segment : String) (rest : List Token) :
    readSegments (.dot :: .name segment :: rest) =
      (readSegments rest).map fun (segments, left) => (segment :: segments, left) := by
  unfold readSegments
  rw [pathSegments]
  cases pathSegments rest <;> rfl

theorem readBinary_eq (minimum : Nat) (tokens : List Token) :
    readBinary minimum tokens =
      (readUnary tokens).bind fun (left, rest) => readOperators minimum left rest := by
  unfold readBinary readUnary readOperators
  rw [parseBinary]
  cases parseUnary tokens with
  | error e => rfl
  | ok reading =>
    simp only [plain, Except.bind]
    cases parseOperators minimum reading.1 reading.2.val <;> rfl

theorem readOperators_operator (minimum : Nat) (left : Expr) (op : Operator) (after : List Token) :
    readOperators minimum left (.operator op :: after) =
      if op.precedence < minimum then .ok (left, .operator op :: after)
      else
        (readBinary (op.precedence + 1) after).bind fun (right, rest) =>
          if op.isRelation && startsWithRelation rest then .error .chainedRelation
          else readOperators minimum (.binary op left right) rest := by
  unfold readOperators readBinary
  rw [parseOperators]
  split
  · rfl
  · cases parseBinary (op.precedence + 1) after with
    | error e => rfl
    | ok reading =>
      by_cases chained : (op.isRelation && startsWithRelation reading.2.val) = true
      · simp only [plain, Except.bind, chained, if_true]
      · simp only [plain, Except.bind, chained]
        cases parseOperators minimum (.binary op left reading.1) reading.2.val <;> rfl

theorem readOperators_of_no_operator (minimum : Nat) (left : Expr) {tokens : List Token}
    (other : ∀ op after, tokens ≠ .operator op :: after) :
    readOperators minimum left tokens = .ok (left, tokens) := by
  unfold readOperators
  rw [parseOperators]
  · rfl
  · exact other

theorem readUnary_bang (after : List Token) :
    readUnary (.bang :: after) =
      (readUnary after).map fun (inner, rest) => (.not inner, rest) := by
  unfold readUnary
  rw [parseUnary]
  cases parseUnary after <;> rfl

theorem readUnary_of_no_bang {tokens : List Token} (other : ∀ after, tokens ≠ .bang :: after) :
    readUnary tokens = readPrimary tokens := by
  unfold readUnary readPrimary
  rw [parseUnary]
  exact other

theorem readPrimary_name (word : String) (after : List Token) :
    readPrimary (.name word :: after) =
      match wordLiteral? word with
      | some value => .ok (.literal value, after)
      | none =>
        (readSegments after).map fun (segments, rest) => (.path (word :: segments), rest) := by
  unfold readPrimary readSegments
  rw [parsePrimary]
  cases wordLiteral? word with
  | some value => rfl
  | none => cases pathSegments after <;> rfl

theorem readPrimary_openParen (after : List Token) :
    readPrimary (.openParen :: after) =
      (readBinary 1 after).bind fun (inner, rest) =>
        match rest with
        | .closeParen :: rest => .ok (inner, rest)
        | _ => .error .missingCloseParen := by
  unfold readPrimary readBinary
  rw [parsePrimary]
  cases parseBinary 1 after with
  | error e => rfl
  | ok reading =>
    obtain ⟨inner, rest, shorter⟩ := reading
    cases rest with
    | nil => rfl
    | cons token rest => cases token <;> rfl

theorem readPrimary_number (n : JsonNumber) (after : List Token) :
    readPrimary (.number n :: after) = .ok (.literal (.number n), after) := by
  unfold readPrimary
  rw [parsePrimary]
  rfl

theorem readPrimary_text (s : String) (after : List Token) :
    readPrimary (.text s :: after) = .ok (.literal (.string s), after) := by
  unfold readPrimary
  rw [parsePrimary]
  rfl

end Readings

/-! Derivations are read -/

/-- A derivation of a layer is read from the front of some tokens. Above unary operands, where the
parser has one loop for all layers, it goes on with the operators after it. -/
def Reads (l : Layer) (tokens : List Token) (e : Expr) (rest : List Token) : Prop :=
  match l with
  | .primary => readPrimary tokens = .ok (e, rest)
  | .unary => readUnary tokens = .ok (e, rest)
  | l => ∀ minimum ≤ l.precedence, readBinary minimum tokens = readOperators minimum e rest

theorem readBinary_of_readUnary {tokens rest : List Token} {e : Expr}
    (h : readUnary tokens = .ok (e, rest)) (minimum : Nat) :
    readBinary minimum tokens = readOperators minimum e rest := by
  rw [readBinary_eq, h]
  rfl

theorem Reads.binary {c : Connective} {tokens rest : List Token} {e : Expr}
    (h : Reads (.under c) tokens e rest) {minimum : Nat}
    (loose : minimum ≤ (Layer.under c).precedence) :
    readBinary minimum tokens = readOperators minimum e rest := by
  cases c <;> exact h minimum loose

/-- The loop stops where nothing prolongs the layer. -/
theorem readOperators_of_follows {l : Layer} {rest : List Token} (h : Follows l rest)
    (left : Expr) : readOperators l.precedence left rest = .ok (left, rest) := by
  match rest, h with
  | .operator op :: after, h =>
    have stops : op.precedence < l.precedence := h
    rw [readOperators_operator, if_pos stops]
  | [], _ | .name _ :: _, _ | .number _ :: _, _ | .text _ :: _, _ | .bang :: _, _
  | .openParen :: _, _ | .closeParen :: _, _ => exact readOperators_of_no_operator _ _ (by simp)

theorem startsWithRelation_of_follows {rest : List Token} (h : Follows .comparison rest) :
    startsWithRelation rest = false := by
  match rest, h with
  | .operator (.relation _) :: _, h => exact absurd h (Nat.lt_irrefl 3)
  | .operator (.connective _) :: _, _ | [], _ | .name _ :: _, _ | .number _ :: _, _
  | .text _ :: _, _ | .bang :: _, _ | .openParen :: _, _ | .closeParen :: _, _ => rfl

theorem readSegments_of_follows {l : Layer} {rest : List Token} (h : Follows l rest) :
    readSegments rest = .ok ([], rest) := by
  unfold readSegments
  match rest, h with
  | [], _ | .operator _ :: _, _ | .name _ :: _, _ | .number _ :: _, _ | .text _ :: _, _
  | .bang :: _, _ | .openParen :: _, _ | .closeParen :: _, _ => rfl

theorem readSegments_append {l : Layer} {rest : List Token} (h : Follows l rest)
    (segments : List String) :
    readSegments (segmentTokens segments ++ rest) = .ok (segments, rest) := by
  induction segments with
  | nil => exact readSegments_of_follows h
  | cons segment others ih =>
    have step := readSegments_dot segment (segmentTokens others ++ rest)
    rw [ih] at step
    exact step

theorem wordLiteral?_word (k : Keyword) : wordLiteral? k.word = some k.value := by
  cases k <;> rfl

theorem wordLiteral?_eq_none {word : String} (free : ∀ k : Keyword, word ≠ k.word) :
    wordLiteral? word = none := by
  unfold wordLiteral?
  split
  · exact absurd rfl (free .true)
  · exact absurd rfl (free .false)
  · exact absurd rfl (free .null)
  · rfl

mutual

theorem Tree.reads {l : Layer} (t : Tree l) {rest : List Token} (h : Follows l rest) :
    Reads l (t.tokens ++ rest) t.expr rest := by
  match t with
  | .joined (c := c) first more =>
    intro minimum loose
    have tighter := Layer.precedence_under c
    have firstRead := first.reads (h.under more)
    simp only [Tree.tokens, Tree.expr, List.append_assoc]
    rw [firstRead.binary (by rw [tighter]; exact Nat.le_succ_of_le loose)]
    exact more.reads h loose first.expr
  | .single operand =>
    intro minimum _
    exact readBinary_of_readUnary (operand.reads (h.mono (by decide))) minimum
  | .related r left right =>
    intro minimum loose
    have rightFollows : Follows .unary rest := h.mono (by decide)
    have leftRead := left.reads (follows_unary_operator (.relation r) (right.tokens ++ rest))
    have rightRead : readBinary ((Operator.relation r).precedence + 1) (right.tokens ++ rest) =
        .ok (right.expr, rest) := by
      rw [readBinary_of_readUnary (right.reads rightFollows)]
      exact readOperators_of_follows rightFollows right.expr
    have binds : ¬(Operator.relation r).precedence < minimum := Nat.not_lt_of_le loose
    simp only [Tree.tokens, Tree.expr, List.append_assoc, List.cons_append]
    rw [readBinary_of_readUnary leftRead, readOperators_operator, if_neg binds, rightRead]
    simp [Except.bind, startsWithRelation_of_follows h]
  | .negation inner =>
    have innerRead := inner.reads h
    simp only [Reads, Tree.tokens, Tree.expr, List.cons_append, readUnary_bang]
    rw [innerRead]
    rfl
  | .plain inner =>
    have innerRead := inner.reads h
    have noBang (after : List Token) := primary_tokens_ne_bang inner rest after
    simp only [Reads, Tree.tokens, Tree.expr, readUnary_of_no_bang noBang]
    exact innerRead
  | .number n => exact readPrimary_number n rest
  | .text s => exact readPrimary_text s rest
  | .keyword k =>
    simp only [Reads, Tree.tokens, Tree.expr, List.cons_append, List.nil_append, readPrimary_name,
      wordLiteral?_word]
  | .path first free more =>
    simp only [Reads, Tree.tokens, Tree.expr, List.cons_append, readPrimary_name,
      wordLiteral?_eq_none free]
    rw [readSegments_append h]
    rfl
  | .group inner =>
    have closes := follows_closeParen (.joined .or) rest
    have innerRead := inner.reads closes 1 (Nat.le_refl 1)
    simp only [Reads, Tree.tokens, Tree.expr, List.cons_append, List.append_assoc,
      List.nil_append, readPrimary_openParen]
    have stops : readOperators 1 inner.expr (.closeParen :: rest) = _ :=
      readOperators_of_follows closes inner.expr
    rw [innerRead, stops]
    rfl

theorem Tail.reads {c : Connective} (t : Tail c) {rest : List Token}
    (h : Follows (.joined c) rest) {minimum : Nat} (loose : minimum ≤ (Layer.joined c).precedence)
    (left : Expr) :
    readOperators minimum left (t.tokens ++ rest) =
      readOperators minimum (t.extend left) rest := by
  match t with
  | .done => rfl
  | .more next others =>
    have follows := h.under others
    have nextRead : readBinary ((Operator.connective c).precedence + 1)
        (next.tokens ++ (others.tokens ++ rest)) = .ok (next.expr, others.tokens ++ rest) := by
      rw [← Layer.precedence_under c, (next.reads follows).binary (Nat.le_refl _)]
      exact readOperators_of_follows follows next.expr
    have binds : ¬(Operator.connective c).precedence < minimum := Nat.not_lt_of_le loose
    simp only [Tail.tokens, Tail.extend, List.cons_append, List.append_assoc]
    rw [readOperators_operator, if_neg binds, nextRead]
    exact others.reads h loose _

end

/-- Every derivable row of tokens is accepted, with the expression of its derivation. -/
theorem readBinary_of_derivation (d : Derivation) : readBinary 1 d.tokens = .ok (d.expr, []) := by
  have read := d.reads (follows_nil (.joined .or)) 1 (Nat.le_refl 1)
  rw [List.append_nil] at read
  exact read.trans (readOperators_of_follows (follows_nil (.joined .or)) d.expr)

/-! What is read has a derivation -/

/-- If an operator comes next, it has a precedence below `bound`. -/
def Below (bound : Nat) (tokens : List Token) : Prop :=
  ∀ op after, tokens = .operator op :: after → op.precedence < bound

theorem startsWithRelation_eq_false_iff {tokens : List Token} :
    startsWithRelation tokens = false ↔ Below 3 tokens := by
  constructor
  · rintro h (r | c) after rfl
    · simp [startsWithRelation] at h
    · cases c <;> decide
  · intro h
    unfold startsWithRelation
    split
    · next r after => exact absurd (h (.relation r) after rfl) (Nat.lt_irrefl 3)
    · rfl

theorem readUnary_shorter {tokens rest : List Token} {e : Expr}
    (h : readUnary tokens = .ok (e, rest)) : rest.length < tokens.length :=
  of_plain_eq_ok h

theorem readBinary_shorter {minimum : Nat} {tokens rest : List Token} {e : Expr}
    (h : readBinary minimum tokens = .ok (e, rest)) : rest.length < tokens.length :=
  of_plain_eq_ok h

theorem readSegments_sound {tokens rest : List Token} {segments : List String}
    (h : readSegments tokens = .ok (segments, rest)) : segmentTokens segments ++ rest = tokens := by
  unfold readSegments at h
  fun_induction pathSegments tokens generalizing segments with
  | case1 segment after segments' left shorter hread ih =>
    cases h
    have others := ih (by rw [hread]; rfl)
    simp only [segmentTokens, List.flatMap_cons, List.cons_append, List.nil_append] at others ⊢
    rw [others]
  | case2 => cases h
  | case3 => cases h
  | case4 =>
    cases h
    rfl

/-- After an operator and its right operand, only operators that reach further may follow. -/
theorem below_reach_of_operand {op : Operator} {rest : List Token}
    (below : Below op.operand.precedence rest)
    (unchained : ¬(op.isRelation && startsWithRelation rest) = true) :
    Below op.layer.reach rest := by
  cases op with
  | relation r =>
    simp only [Operator.isRelation, Bool.true_and, Bool.not_eq_true] at unchained
    exact startsWithRelation_eq_false_iff.mp unchained
  | connective c =>
    rw [Operator.precedence_operand] at below
    exact below

mutual

theorem readBinary_sound {l : Layer} (compound : l ≠ .primary) {tokens rest : List Token}
    {e : Expr} (h : readBinary l.precedence tokens = .ok (e, rest)) :
    ∃ read, read ++ rest = tokens ∧ Derives l read e ∧ Below l.precedence rest := by
  rw [readBinary_eq] at h
  cases hread : readUnary tokens with
  | error e => simp [hread, Except.bind] at h
  | ok operand =>
    obtain ⟨left, after⟩ := operand
    simp only [hread, Except.bind] at h
    have shorter := readUnary_shorter hread
    obtain ⟨read, rfl, derived⟩ := readUnary_sound hread
    have next : Below Layer.unary.reach after :=
      fun op _ _ => Nat.lt_succ_of_le op.precedence_le
    have looser : l.precedence ≤ Layer.unary.precedence := by
      match l with
      | .joined .or | .joined .and | .comparison | .unary | .primary => decide
    obtain ⟨read', rfl, whole, below⟩ :=
      readOperators_sound compound (by simp) looser derived next h
    exact ⟨read ++ read', List.append_assoc .., whole, below⟩
termination_by (tokens.length, 2)

theorem readOperators_sound {l l' : Layer} (compound : l ≠ .primary) (compound' : l' ≠ .primary)
    (looser : l.precedence ≤ l'.precedence) {read tokens rest : List Token} {left e : Expr}
    (derived : Derives l' read left) (next : Below l'.reach tokens)
    (h : readOperators l.precedence left tokens = .ok (e, rest)) :
    ∃ read', read' ++ rest = tokens ∧ Derives l (read ++ read') e ∧ Below l.precedence rest := by
  by_cases operator : ∃ op after, tokens = .operator op :: after
  · obtain ⟨op, after, rfl⟩ := operator
    rw [readOperators_operator] at h
    by_cases stops : op.precedence < l.precedence
    · rw [if_pos stops] at h
      cases h
      refine ⟨[], rfl, ?_, ?_⟩
      · rw [List.append_nil]
        exact derived.loosen looser compound
      · rintro _ _ ⟨⟩
        exact stops
    · rw [if_neg stops, ← Operator.precedence_operand] at h
      cases hread : readBinary op.operand.precedence after with
      | error e => simp [hread, Except.bind] at h
      | ok operand =>
        obtain ⟨right, others⟩ := operand
        simp only [hread, Except.bind] at h
        have shorter := readBinary_shorter hread
        have operandCompound : op.operand ≠ .primary := by
          match op with
          | .relation _ | .connective .and | .connective .or => simp [Operator.operand]
        obtain ⟨readRight, rfl, rightDerived, below⟩ := readBinary_sound operandCompound hread
        by_cases chained : (op.isRelation && startsWithRelation others) = true
        · simp [chained] at h
        · rw [if_neg chained] at h
          have fits := next op _ rfl
          have extended := derived.extend compound' fits rightDerived
          have layerCompound : op.layer ≠ .primary := by cases op <;> simp [Operator.layer]
          have looser' : l.precedence ≤ op.layer.precedence := by
            rw [Operator.precedence_layer]
            exact Nat.le_of_not_lt stops
          obtain ⟨read', rfl, whole, stopped⟩ := readOperators_sound compound layerCompound looser'
            extended (below_reach_of_operand below chained) h
          refine ⟨.operator op :: readRight ++ read', by simp, ?_, stopped⟩
          simpa using whole
  · have noOperator : ∀ op after, tokens ≠ .operator op :: after := by
      intro op after same
      exact operator ⟨op, after, same⟩
    rw [readOperators_of_no_operator _ _ noOperator] at h
    cases h
    refine ⟨[], rfl, ?_, fun op after same => absurd same (noOperator op after)⟩
    rw [List.append_nil]
    exact derived.loosen looser compound
termination_by (tokens.length, 0)

theorem readUnary_sound {tokens rest : List Token} {e : Expr}
    (h : readUnary tokens = .ok (e, rest)) :
    ∃ read, read ++ rest = tokens ∧ Derives .unary read e := by
  by_cases negated : ∃ after, tokens = .bang :: after
  · obtain ⟨after, rfl⟩ := negated
    rw [readUnary_bang] at h
    cases hread : readUnary after with
    | error e => simp [hread, Except.map] at h
    | ok operand =>
      obtain ⟨inner, others⟩ := operand
      simp only [hread, Except.map] at h
      cases h
      obtain ⟨read, rfl, t, rfl, rfl⟩ := readUnary_sound hread
      exact ⟨.bang :: t.tokens, rfl, .negation t, rfl, rfl⟩
  · have noBang : ∀ after, tokens ≠ .bang :: after := by
      intro after same
      exact negated ⟨after, same⟩
    rw [readUnary_of_no_bang noBang] at h
    obtain ⟨read, rfl, derived⟩ := readPrimary_sound h
    exact ⟨read, rfl, derived.loosen (Nat.le_refl 4) (by simp)⟩
termination_by (tokens.length, 1)

theorem readPrimary_sound {tokens rest : List Token} {e : Expr}
    (h : readPrimary tokens = .ok (e, rest)) :
    ∃ read, read ++ rest = tokens ∧ Derives .primary read e := by
  match tokens with
  | .number n :: after =>
    rw [readPrimary_number] at h
    cases h
    exact ⟨[.number n], rfl, .number n, rfl, rfl⟩
  | .text s :: after =>
    rw [readPrimary_text] at h
    cases h
    exact ⟨[.text s], rfl, .text s, rfl, rfl⟩
  | .name word :: after =>
    rw [readPrimary_name] at h
    by_cases keyword : ∃ k : Keyword, word = k.word
    · obtain ⟨k, rfl⟩ := keyword
      simp only [wordLiteral?_word] at h
      cases h
      exact ⟨[.name k.word], rfl, .keyword k, rfl, rfl⟩
    · have free : ∀ k : Keyword, word ≠ k.word := by
        intro k same
        exact keyword ⟨k, same⟩
      simp only [wordLiteral?_eq_none free] at h
      cases hread : readSegments after with
      | error e => simp [hread, Except.map] at h
      | ok path =>
        simp only [hread, Except.map] at h
        cases h
        rw [← readSegments_sound hread]
        exact ⟨.name word :: segmentTokens path.1, rfl, .path word free path.1, rfl, rfl⟩
  | .openParen :: after =>
    rw [readPrimary_openParen] at h
    cases hread : readBinary 1 after with
    | error e => simp [hread, Except.bind] at h
    | ok operand =>
      obtain ⟨inner, others⟩ := operand
      rw [hread] at h
      obtain ⟨read, rfl, ⟨t, rfl, rfl⟩, -⟩ :=
        readBinary_sound (l := .joined .or) (by simp) hread
      cases others with
      | nil => cases h
      | cons token others =>
        cases token with
        | closeParen =>
          cases h
          exact ⟨.openParen :: (t.tokens ++ [.closeParen]), by simp, .group t, rfl, rfl⟩
        | _ => cases h
  | .operator op :: after | .bang :: after | .dot :: after | .closeParen :: after =>
    simp [readPrimary, parsePrimary, plain] at h
  | [] => simp [readPrimary, parsePrimary, plain] at h
termination_by (tokens.length, 0)

end

/-! The whole condition -/

theorem parseTokens_of_ne_nil {tokens : List Token} (some : tokens ≠ []) :
    parseTokens tokens =
      (readBinary 1 tokens).bind fun (e, rest) =>
        match rest with
        | [] => .ok e
        | token :: _ => .error (.trailingToken token) := by
  unfold readBinary
  rw [parseTokens]
  · match parseBinary 1 tokens with
    | .error e => rfl
    | .ok (e, ⟨[], _⟩) => rfl
    | .ok (e, ⟨token :: rest, _⟩) => rfl
  · exact some

/-- What is accepted has a derivation. -/
theorem derives_of_parseTokens {row : List Token} {e : Expr} (h : parseTokens row = .ok e) :
    Derives (.joined .or) row e := by
  cases row with
  | nil => cases h
  | cons token others =>
    rw [parseTokens_of_ne_nil (by simp)] at h
    cases hread : readBinary 1 (token :: others) with
    | error e => simp [hread, Except.bind] at h
    | ok reading =>
      obtain ⟨whole, rest⟩ := reading
      rw [hread] at h
      obtain ⟨read, hrow, derived, -⟩ := readBinary_sound (l := .joined .or) (by simp) hread
      cases rest with
      | nil =>
        cases h
        rw [List.append_nil] at hrow
        exact hrow ▸ derived
      | cons token rest => cases h

/-- Conditions are read as the grammar says. A row of tokens is accepted with an expression exactly
if it has a derivation that builds this expression; no row has two derivations; a row without one
is refused as an invalid condition, such as an empty row, a chain of comparisons, a condition with
something after it, unbalanced parentheses, and a dot or an operator at the end. -/
theorem parse_follows_grammar :
    (∀ row e, parseTokens row = .ok e ↔ ∃ d : Derivation, d.tokens = row ∧ d.expr = e) ∧
    (∀ d d' : Derivation, d.tokens = d'.tokens → d = d') ∧
    (∀ row, Underivable row → ∃ e : SyntaxError, parseTokens row = .error e ∧
      (PolicyError.invalidCondition e).kind = "InvalidCondition") ∧
    Underivable [] ∧
    (∀ (a b : Tree .unary) (r s : Relation) (rest : List Token),
      Underivable (a.tokens ++ .operator (.relation r) ::
        (b.tokens ++ .operator (.relation s) :: rest))) ∧
    (∀ (d : Derivation) (token : Token) (rest : List Token),
      token ≠ .dot → (∀ op, token ≠ .operator op) → Underivable (d.tokens ++ token :: rest)) ∧
    (∀ row : List Token, row.count .openParen ≠ row.count .closeParen → Underivable row) ∧
    (∀ (row : List Token) (token : Token),
      (token = .dot ∨ token = .bang ∨ ∃ op, token = .operator op) →
        Underivable (row ++ [token])) ∧
    (∀ source e, parse source = .ok e ↔
      ∃ d : Derivation, tokens source = .ok d.tokens ∧ d.expr = e) := by
  have accepts : ∀ row e, parseTokens row = .ok e ↔
      ∃ d : Derivation, d.tokens = row ∧ d.expr = e := by
    intro row e
    constructor
    · exact derives_of_parseTokens
    · rintro ⟨d, rfl, rfl⟩
      rw [parseTokens_of_ne_nil (underivable_nil d), readBinary_of_derivation]
      rfl
  refine ⟨accepts, fun d d' same => Derivation.tokens_injective same, ?_, underivable_nil,
    underivable_chain, ?_, fun row => underivable_unbalanced,
    fun row token => underivable_dangling row, ?_⟩
  · intro row underivable
    cases h : parseTokens row with
    | error e => exact ⟨e, rfl, rfl⟩
    | ok e =>
      obtain ⟨d, hd, -⟩ := (accepts row e).mp h
      exact absurd hd (underivable d)
  · intro d token rest noDot noOperator
    apply underivable_trailing
    cases token with
    | dot => exact noDot rfl
    | operator op => exact absurd rfl (noOperator op)
    | _ => trivial
  · intro source e
    unfold parse
    cases htokens : tokens source with
    | error fault => simp [Bind.bind, Except.bind]
    | ok row =>
      simp only [Bind.bind, Except.bind, Except.ok.injEq]
      rw [accepts]
      simp only [eq_comm]

theorem parse_follows_grammar_refusals :
    (∃ e, parseTokens [.name "a", .operator (.relation .eq), .name "a", .operator (.relation .lt),
      .name "a"] = .error e) ∧
    (∃ e, parseTokens [.name "a", .name "b"] = .error e) ∧
    (∃ e, parseTokens [.openParen, .name "a"] = .error e) ∧
    (∃ e, parseTokens [.name "a", .dot] = .error e) := by
  obtain ⟨-, -, refused, -, chain, trailing, unbalanced, dangling, -⟩ := parse_follows_grammar
  have free : ∀ k : Keyword, "a" ≠ k.word := by
    intro k
    cases k <;> decide
  let a : Tree .unary := .plain (.path "a" free [])
  let whole : Derivation := .joined (.joined (.single a) .done) .done
  obtain ⟨chained, chainedRefused, -⟩ := refused _ (chain a a .eq .lt [.name "a"])
  obtain ⟨trailed, trailedRefused, -⟩ :=
    refused _ (trailing whole (.name "b") [] (by simp) (by simp))
  obtain ⟨opened, openedRefused, -⟩ :=
    refused _ (unbalanced [.openParen, .name "a"] (by decide))
  obtain ⟨dotted, dottedRefused, -⟩ := refused _ (dangling [.name "a"] .dot (.inl rfl))
  exact ⟨⟨chained, chainedRefused⟩, ⟨trailed, trailedRefused⟩, ⟨opened, openedRefused⟩,
    ⟨dotted, dottedRefused⟩⟩

end ChannelGuard.Condition
