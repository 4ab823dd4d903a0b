import ChannelGuard.Condition.Token

/-!
# The grammar of conditions

An expression is a row of operands joined by `||`, each of them a row of comparisons joined by
`&&`, and a comparison relates at most two operands. The trees of the grammar are defined without
a reader: each stands for a row of tokens and for an expression. Different trees have different
tokens, so no row of tokens has two readings.
-/

namespace ChannelGuard.Condition

/-- The layers of the grammar, from loosely to tightly bound. -/
inductive Layer where
  /-- Operands joined by a connective. -/
  | joined (c : Connective)
  | comparison
  | unary
  | primary

/-- What a connective joins. -/
abbrev Layer.under : Connective → Layer
  | .or => .joined .and
  | .and => .comparison

/-- A word that is a value, not the start of a path. -/
inductive Keyword where
  | true
  | false
  | null

namespace Keyword

def word : Keyword → String
  | true => "true"
  | false => "false"
  | null => "null"

def value : Keyword → Json
  | true => .bool .true
  | false => .bool .false
  | null => .null

end Keyword

mutual

/-- The derivations of one layer. -/
inductive Tree : Layer → Type where
  | joined {c : Connective} (first : Tree (.under c)) (more : Tail c) : Tree (.joined c)
  | single (operand : Tree .unary) : Tree .comparison
  | related (r : Relation) (left right : Tree .unary) : Tree .comparison
  | negation (inner : Tree .unary) : Tree .unary
  | plain (inner : Tree .primary) : Tree .unary
  | number (n : JsonNumber) : Tree .primary
  | text (s : String) : Tree .primary
  | keyword (k : Keyword) : Tree .primary
  | path (first : String) (free : ∀ k : Keyword, first ≠ k.word) (more : List String) :
      Tree .primary
  | group (inner : Tree (.joined .or)) : Tree .primary

/-- Further operands, each after the connective. -/
inductive Tail : Connective → Type where
  | done {c : Connective} : Tail c
  | more {c : Connective} (next : Tree (.under c)) (others : Tail c) : Tail c

end

/-- The segments of a path after the first. -/
def segmentTokens (segments : List String) : List Token :=
  segments.flatMap fun segment => [.dot, .name segment]

mutual

/-- The tokens of a derivation. -/
def Tree.tokens : {l : Layer} → Tree l → List Token
  | _, .joined first more => first.tokens ++ more.tokens
  | _, .single operand => operand.tokens
  | _, .related r left right => left.tokens ++ .operator (.relation r) :: right.tokens
  | _, .negation inner => .bang :: inner.tokens
  | _, .plain inner => inner.tokens
  | _, .number n => [.number n]
  | _, .text s => [.text s]
  | _, .keyword k => [.name k.word]
  | _, .path first _ more => .name first :: segmentTokens more
  | _, .group inner => .openParen :: (inner.tokens ++ [.closeParen])

def Tail.tokens : {c : Connective} → Tail c → List Token
  | _, .done => []
  | c, .more next others => .operator (.connective c) :: (next.tokens ++ others.tokens)

end

mutual

/-- The expression that a derivation builds. Connectives group to the left. -/
def Tree.expr : {l : Layer} → Tree l → Expr
  | _, .joined first more => more.extend first.expr
  | _, .single operand => operand.expr
  | _, .related r left right => .binary (.relation r) left.expr right.expr
  | _, .negation inner => .not inner.expr
  | _, .plain inner => inner.expr
  | _, .number n => .literal (.number n)
  | _, .text s => .literal (.string s)
  | _, .keyword k => .literal k.value
  | _, .path first _ more => .path (first :: more)
  | _, .group inner => inner.expr

/-- The expression that goes on from `left` with further operands. -/
def Tail.extend : {c : Connective} → Tail c → Expr → Expr
  | _, .done, left => left
  | c, .more next others, left => others.extend (.binary (.connective c) left next.expr)

end

/-- A derivation of a whole condition. -/
abbrev Derivation : Type := Tree (.joined .or)

/-- How tightly the operators of a layer bind; a unary operand has none. -/
def Layer.precedence : Layer → Nat
  | .joined c => (Operator.connective c).precedence
  | .comparison => 3
  | .unary | .primary => 4

/-- What may come after a derivation of a layer without prolonging it. -/
def Follows (l : Layer) : List Token → Prop
  | .dot :: _ => False
  | .operator op :: _ => op.precedence < l.precedence
  | _ => True

/-! What follows a derivation -/

theorem Operator.precedence_le (op : Operator) : op.precedence ≤ 3 := by
  match op with
  | .relation _ => exact Nat.le_refl 3
  | .connective .and | .connective .or => decide

theorem Follows.mono {l l' : Layer} {rest : List Token} (h : Follows l rest)
    (tighter : l.precedence ≤ l'.precedence) : Follows l' rest := by
  match rest, h with
  | .operator op :: _, h => exact Nat.lt_of_lt_of_le h tighter
  | [], _ | .name _ :: _, _ | .number _ :: _, _ | .text _ :: _, _ | .bang :: _, _
  | .openParen :: _, _ | .closeParen :: _, _ => trivial

@[simp] theorem follows_nil (l : Layer) : Follows l [] := trivial

@[simp] theorem follows_closeParen (l : Layer) (rest : List Token) :
    Follows l (.closeParen :: rest) := trivial

theorem follows_unary_operator (op : Operator) (rest : List Token) :
    Follows .unary (.operator op :: rest) :=
  Nat.lt_succ_of_le op.precedence_le

theorem Layer.precedence_under (c : Connective) :
    (Layer.under c).precedence = (Operator.connective c).precedence + 1 := by
  cases c <;> rfl

/-- What may come after a whole row may come after its first operand. -/
theorem Follows.under {c : Connective} {rest : List Token} (h : Follows (.joined c) rest)
    (more : Tail c) : Follows (.under c) (more.tokens ++ rest) := by
  have tighter := Layer.precedence_under c
  cases more with
  | done =>
    simp only [Tail.tokens, List.nil_append]
    exact h.mono (by rw [tighter]; exact Nat.le_succ _)
  | more next others =>
    simp only [Tail.tokens, List.cons_append]
    exact Nat.lt_of_lt_of_eq (Nat.lt_succ_self _) tighter.symm

/-! Unambiguity -/

private theorem Keyword.word_injective {k k' : Keyword} (h : k.word = k'.word) : k = k' := by
  cases k <;> cases k' <;> first | rfl | exact absurd h (by decide)

theorem primary_tokens_ne_bang (t : Tree .primary) (rest rest' : List Token) :
    t.tokens ++ rest ≠ .bang :: rest' := by
  cases t <;> simp [Tree.tokens]

private theorem segments_eq_of_append {segments segments' : List String} {rest rest' : List Token}
    (h : Follows .primary rest) (h' : Follows .primary rest')
    (same : segmentTokens segments ++ rest = segmentTokens segments' ++ rest') :
    segments = segments' ∧ rest = rest' := by
  induction segments generalizing segments' with
  | nil =>
    cases segments' with
    | nil => exact ⟨rfl, same⟩
    | cons segment others =>
      have dotted : rest = .dot :: _ := same
      exact absurd h (by rw [dotted]; exact id)
  | cons segment others ih =>
    cases segments' with
    | nil =>
      have dotted : .dot :: _ = rest' := same
      exact absurd h' (by rw [← dotted]; exact id)
    | cons segment' others' =>
      have split : segment = segment' ∧
          segmentTokens others ++ rest = segmentTokens others' ++ rest' := by
        simpa [segmentTokens] using same
      obtain ⟨heq, hrest⟩ := ih split.2
      exact ⟨by rw [split.1, heq], hrest⟩

mutual

/-- A derivation and what follows it can be told apart from their tokens alone. -/
theorem Tree.eq_of_append {l : Layer} (t t' : Tree l) {rest rest' : List Token}
    (h : Follows l rest) (h' : Follows l rest') (same : t.tokens ++ rest = t'.tokens ++ rest') :
    t = t' ∧ rest = rest' := by
  match t, t' with
  | .joined first more, .joined first' more' =>
    simp only [Tree.tokens, List.append_assoc] at same
    obtain ⟨rfl, others⟩ := first.eq_of_append first' (h.under more) (h'.under more') same
    obtain ⟨rfl, rfl⟩ := more.eq_of_append more' h h' others
    exact ⟨rfl, rfl⟩
  | .single operand, .single operand' =>
    obtain ⟨rfl, rfl⟩ :=
      operand.eq_of_append operand' (h.mono (by decide)) (h'.mono (by decide)) same
    exact ⟨rfl, rfl⟩
  | .single operand, .related r left right =>
    simp only [Tree.tokens, List.append_assoc, List.cons_append] at same
    obtain ⟨-, rfl⟩ := operand.eq_of_append left (h.mono (by decide))
      (follows_unary_operator _ _) same
    exact absurd h (Nat.lt_irrefl 3)
  | .related r left right, .single operand =>
    simp only [Tree.tokens, List.append_assoc, List.cons_append] at same
    obtain ⟨-, rfl⟩ := left.eq_of_append operand (follows_unary_operator _ _)
      (h'.mono (by decide)) same
    exact absurd h' (Nat.lt_irrefl 3)
  | .related r left right, .related r' left' right' =>
    simp only [Tree.tokens, List.append_assoc, List.cons_append] at same
    obtain ⟨rfl, others⟩ := left.eq_of_append left' (follows_unary_operator _ _)
      (follows_unary_operator _ _) same
    simp only [List.cons.injEq, Token.operator.injEq, Operator.relation.injEq] at others
    obtain ⟨rfl, others⟩ := others
    obtain ⟨rfl, rfl⟩ := right.eq_of_append right' (h.mono (by decide)) (h'.mono (by decide)) others
    exact ⟨rfl, rfl⟩
  | .negation inner, .negation inner' =>
    simp only [Tree.tokens, List.cons_append, List.cons.injEq, true_and] at same
    obtain ⟨rfl, rfl⟩ := inner.eq_of_append inner' h h' same
    exact ⟨rfl, rfl⟩
  | .negation inner, .plain inner' => exact absurd same.symm (primary_tokens_ne_bang inner' _ _)
  | .plain inner, .negation inner' => exact absurd same (primary_tokens_ne_bang inner _ _)
  | .plain inner, .plain inner' =>
    obtain ⟨rfl, rfl⟩ := inner.eq_of_append inner' h h' same
    exact ⟨rfl, rfl⟩
  | .path first free more, .path first' free' more' =>
    simp only [Tree.tokens, List.cons_append, List.cons.injEq, Token.name.injEq] at same
    obtain ⟨rfl, others⟩ := same
    obtain ⟨rfl, rfl⟩ := segments_eq_of_append h h' others
    exact ⟨rfl, rfl⟩
  | .group inner, .group inner' =>
    simp only [Tree.tokens, List.cons_append, List.append_assoc, List.nil_append, List.cons.injEq,
      true_and] at same
    obtain ⟨rfl, others⟩ := inner.eq_of_append inner' (follows_closeParen _ _)
      (follows_closeParen _ _) same
    exact ⟨rfl, List.tail_eq_of_cons_eq others⟩
  | .number n, .number n' | .text s, .text s' =>
    simp_all [Tree.tokens]
  | .keyword k, .keyword k' =>
    simp only [Tree.tokens, List.cons_append, List.nil_append, List.cons.injEq,
      Token.name.injEq] at same
    exact ⟨by rw [Keyword.word_injective same.1], same.2⟩
  | .keyword k, .path first free more | .path first free more, .keyword k =>
    simp only [Tree.tokens, List.cons_append, List.nil_append, List.cons.injEq,
      Token.name.injEq] at same
    exact absurd same.1 (by simpa [eq_comm] using free k)
  | .number _, .text _ | .number _, .keyword _ | .number _, .path .. | .number _, .group _
  | .text _, .number _ | .text _, .keyword _ | .text _, .path .. | .text _, .group _
  | .keyword _, .number _ | .keyword _, .text _ | .keyword _, .group _
  | .path .., .number _ | .path .., .text _ | .path .., .group _
  | .group _, .number _ | .group _, .text _ | .group _, .keyword _ | .group _, .path .. =>
    simp [Tree.tokens] at same

theorem Tail.eq_of_append {c : Connective} (t t' : Tail c) {rest rest' : List Token}
    (h : Follows (.joined c) rest) (h' : Follows (.joined c) rest')
    (same : t.tokens ++ rest = t'.tokens ++ rest') : t = t' ∧ rest = rest' := by
  match t, t' with
  | .done, .done => exact ⟨rfl, same⟩
  | .done, .more next others =>
    simp only [Tail.tokens, List.nil_append, List.cons_append] at same
    exact absurd h (by rw [same]; exact Nat.lt_irrefl _)
  | .more next others, .done =>
    simp only [Tail.tokens, List.nil_append, List.cons_append] at same
    exact absurd h' (by rw [← same]; exact Nat.lt_irrefl _)
  | .more next others, .more next' others' =>
    simp only [Tail.tokens, List.cons_append, List.append_assoc, List.cons.injEq, true_and] at same
    obtain ⟨rfl, rest_same⟩ := next.eq_of_append next' (h.under others) (h'.under others') same
    obtain ⟨rfl, rfl⟩ := others.eq_of_append others' h h' rest_same
    exact ⟨rfl, rfl⟩

end

/-- No row of tokens has two derivations. -/
theorem Derivation.tokens_injective :
    Function.Injective (Tree.tokens : Derivation → List Token) := by
  intro d d' same
  have appended : d.tokens ++ [] = d'.tokens ++ [] := by rw [same]
  exact (d.eq_of_append d' (follows_nil _) (follows_nil _) appended).1

end ChannelGuard.Condition
