import ChannelGuard.Proofs.ConditionGrammar

/-!
# Rows of tokens with and without a derivation

Derivable rows are built up from the left, one operator at a time, as a reader meets them. Rows
that chain comparisons, go on after a whole condition, leave a parenthesis open or end with a dot
or an operator are derived by nothing.
-/

namespace ChannelGuard.Condition

/-! Derivable rows -/

/-- A layer of the grammar derives a row of tokens and builds an expression from it. -/
def Derives (l : Layer) (tokens : List Token) (e : Expr) : Prop :=
  ∃ t : Tree l, t.tokens = tokens ∧ t.expr = e

def Operator.layer : Operator → Layer
  | relation _ => .comparison
  | connective c => .joined c

/-- The layer of an operator's right operand. -/
def Operator.operand : Operator → Layer
  | relation _ => .unary
  | connective c => .under c

theorem Operator.precedence_layer (op : Operator) : op.layer.precedence = op.precedence := by
  cases op <;> rfl

theorem Operator.precedence_operand (op : Operator) :
    op.operand.precedence = op.precedence + 1 := by
  cases op with
  | relation r => rfl
  | connective c => exact Layer.precedence_under c

/-- Operators below this precedence go on from a derivation of a layer: a row takes its own
connective again, and a comparison takes no second relation. -/
def Layer.reach : Layer → Nat
  | .joined c => (Operator.connective c).precedence + 1
  | .comparison => 3
  | .unary | .primary => 4

private theorem Derives.row {c : Connective} {tokens : List Token} {e : Expr}
    (h : Derives (.under c) tokens e) : Derives (.joined c) tokens e := by
  obtain ⟨t, rfl, rfl⟩ := h
  exact ⟨.joined t .done, by simp [Tree.tokens, Tail.tokens], by simp [Tree.expr, Tail.extend]⟩

private theorem Derives.comparison {tokens : List Token} {e : Expr}
    (h : Derives .unary tokens e) : Derives .comparison tokens e := by
  obtain ⟨t, rfl, rfl⟩ := h
  exact ⟨.single t, rfl, rfl⟩

/-- What a layer derives, every layer that binds less tightly derives too. -/
theorem Derives.loosen {l l' : Layer} {tokens : List Token} {e : Expr} (h : Derives l' tokens e)
    (looser : l.precedence ≤ l'.precedence) (compound : l ≠ .primary) : Derives l tokens e := by
  have toUnary (h : Derives .primary tokens e) : Derives .unary tokens e := by
    obtain ⟨t, rfl, rfl⟩ := h
    exact ⟨.plain t, rfl, rfl⟩
  have comparison (h : Derives .comparison tokens e) : Derives (.joined .and) tokens e :=
    Derives.row (c := .and) h
  have conjunction (h : Derives (.joined .and) tokens e) : Derives (.joined .or) tokens e :=
    Derives.row (c := .or) h
  match l, l' with
  | .joined .or, .joined .or | .joined .and, .joined .and | .comparison, .comparison
  | .unary, .unary => exact h
  | .unary, .primary => exact toUnary h
  | .comparison, .unary => exact h.comparison
  | .comparison, .primary => exact (toUnary h).comparison
  | .joined .and, .comparison => exact comparison h
  | .joined .and, .unary => exact comparison h.comparison
  | .joined .and, .primary => exact comparison (toUnary h).comparison
  | .joined .or, .joined .and => exact conjunction h
  | .joined .or, .comparison => exact conjunction (comparison h)
  | .joined .or, .unary => exact conjunction (comparison h.comparison)
  | .joined .or, .primary => exact conjunction (comparison (toUnary h).comparison)
  | .primary, _ => exact absurd rfl compound
  | .joined .and, .joined .or | .comparison, .joined .or | .comparison, .joined .and
  | .unary, .joined .or | .unary, .joined .and | .unary, .comparison =>
    exact absurd looser (by decide)

private theorem Tail.exists_snoc {c : Connective} (t : Tail c) (next : Tree (.under c)) :
    ∃ t' : Tail c, t'.tokens = t.tokens ++ .operator (.connective c) :: next.tokens ∧
      ∀ left, t'.extend left = .binary (.connective c) (t.extend left) next.expr := by
  match t with
  | .done => exact ⟨.more next .done, by simp [Tail.tokens], fun left => by simp [Tail.extend]⟩
  | .more first others =>
    obtain ⟨others', htokens, hextend⟩ := others.exists_snoc next
    refine ⟨.more first others', ?_, ?_⟩
    · simp [Tail.tokens, htokens]
    · intro left
      simp only [Tail.extend, hextend]

private theorem Derives.snoc {c : Connective} {tokens tokens' : List Token} {left right : Expr}
    (h : Derives (.joined c) tokens left) (next : Derives (.under c) tokens' right) :
    Derives (.joined c) (tokens ++ .operator (.connective c) :: tokens')
      (.binary (.connective c) left right) := by
  obtain ⟨t, rfl, rfl⟩ := h
  obtain ⟨u, rfl, rfl⟩ := next
  cases t with
  | joined first more =>
    obtain ⟨more', htokens, hextend⟩ := more.exists_snoc u
    exact ⟨.joined first more', by simp [Tree.tokens, htokens], by simp [Tree.expr, hextend]⟩

/-- An operator that may go on from a left operand forms its layer with it. -/
theorem Derives.extend {l : Layer} {op : Operator} {tokens tokens' : List Token}
    {left right : Expr} (h : Derives l tokens left) (compound : l ≠ .primary)
    (fits : op.precedence < l.reach) (next : Derives op.operand tokens' right) :
    Derives op.layer (tokens ++ .operator op :: tokens') (.binary op left right) := by
  match op, next with
  | .relation r, next =>
    have operand : Derives .unary tokens left := by
      match l, h with
      | .unary, h => exact h
      | .primary, _ => exact absurd rfl compound
      | .comparison, _ | .joined .and, _ | .joined .or, _ =>
        exact absurd fits (by simp [Layer.reach, Operator.precedence])
    obtain ⟨t, rfl, rfl⟩ := operand
    obtain ⟨u, rfl, rfl⟩ := next
    exact ⟨.related r t u, rfl, rfl⟩
  | .connective c, next =>
    have row : Derives (.joined c) tokens left := by
      apply h.loosen
      · have reaches : l.reach ≤ l.precedence + 1 := by
          cases l <;> simp [Layer.reach, Layer.precedence]
        exact Nat.le_of_lt_succ (Nat.lt_of_lt_of_le fits reaches)
      · simp
    exact row.snoc next

/-! Rows without a derivation -/

/-- No derivation of a condition has these tokens. -/
def Underivable (tokens : List Token) : Prop := ∀ d : Derivation, d.tokens ≠ tokens

/-- The first comparison of a derivation, with what follows it. -/
private theorem Derivation.exists_comparison (d : Derivation) :
    ∃ (t : Tree .comparison) (rest : List Token),
      d.tokens = t.tokens ++ rest ∧ Follows .comparison rest := by
  match d with
  | .joined (.joined first more) others =>
    refine ⟨first, more.tokens ++ others.tokens, by simp [Tree.tokens], ?_⟩
    have follows : Follows (.joined .and) (others.tokens ++ []) := (follows_nil _).under others
    rw [List.append_nil] at follows
    exact follows.under more

/-- Comparisons do not chain. -/
theorem underivable_chain (a b : Tree .unary) (r s : Relation) (rest : List Token) :
    Underivable (a.tokens ++ .operator (.relation r) ::
      (b.tokens ++ .operator (.relation s) :: rest)) := by
  intro d same
  obtain ⟨t, others, htokens, follows⟩ := d.exists_comparison
  rw [htokens] at same
  match t with
  | .single operand =>
    obtain ⟨-, rfl⟩ := operand.eq_of_append a (follows.mono (by decide))
      (follows_unary_operator _ _) same
    exact absurd follows (Nat.lt_irrefl 3)
  | .related r' left right =>
    simp only [Tree.tokens, List.append_assoc, List.cons_append] at same
    obtain ⟨rfl, tail⟩ := left.eq_of_append a (follows_unary_operator _ _)
      (follows_unary_operator _ _) same
    obtain ⟨-, rfl⟩ := right.eq_of_append b (follows.mono (by decide))
      (follows_unary_operator _ _) (List.tail_eq_of_cons_eq tail)
    exact absurd follows (Nat.lt_irrefl 3)

/-- Nothing that cannot prolong a whole condition stands after one. -/
theorem underivable_trailing (d : Derivation) {token : Token} {rest : List Token}
    (follows : Follows (.joined .or) (token :: rest)) :
    Underivable (d.tokens ++ token :: rest) := by
  intro d' same
  have appended : d'.tokens ++ [] = d.tokens ++ token :: rest := by rw [List.append_nil, same]
  exact List.cons_ne_nil _ _ (d'.eq_of_append d (follows_nil _) follows appended).2.symm

private theorem count_segmentTokens (segments : List String) {token : Token}
    (noDot : token ≠ .dot) (noName : ∀ word, token ≠ .name word) :
    (segmentTokens segments).count token = 0 := by
  apply List.count_eq_zero_of_not_mem
  simp only [segmentTokens, List.mem_flatMap, List.mem_cons, List.not_mem_nil, or_false, not_exists,
    not_and, not_or]
  intro segment _
  exact ⟨noDot, noName segment⟩

mutual

private theorem Tree.balanced {l : Layer} (t : Tree l) :
    t.tokens.count .openParen = t.tokens.count .closeParen := by
  match t with
  | .joined first more => simp only [Tree.tokens, List.count_append, first.balanced, more.balanced]
  | .related r left right =>
    simp [Tree.tokens, left.balanced, right.balanced]
  | .single operand => exact operand.balanced
  | .plain inner => exact inner.balanced
  | .negation inner => simp [Tree.tokens, inner.balanced]
  | .group inner => simp [Tree.tokens, inner.balanced]
  | .path first _ more => simp [Tree.tokens, count_segmentTokens]
  | .number _ | .text _ | .keyword _ => simp [Tree.tokens]

private theorem Tail.balanced {c : Connective} (t : Tail c) :
    t.tokens.count .openParen = t.tokens.count .closeParen := by
  match t with
  | .done => rfl
  | .more next others => simp [Tail.tokens, next.balanced, others.balanced]

end

theorem underivable_unbalanced {tokens : List Token}
    (unbalanced : tokens.count .openParen ≠ tokens.count .closeParen) : Underivable tokens := by
  rintro d rfl
  exact unbalanced d.balanced

/-- The row ends with a token that can end an operand. -/
private def Closed (tokens : List Token) : Prop :=
  ∃ before token, tokens = before ++ [token] ∧
    token ≠ .dot ∧ token ≠ .bang ∧ ∀ op, token ≠ .operator op

private theorem Closed.append {tokens : List Token} (h : Closed tokens) (before : List Token) :
    Closed (before ++ tokens) := by
  obtain ⟨inner, token, rfl, ends⟩ := h
  exact ⟨before ++ inner, token, (List.append_assoc ..).symm, ends⟩

private theorem closed_path (first : String) (segments : List String) :
    Closed (.name first :: segmentTokens segments) := by
  induction segments generalizing first with
  | nil => exact ⟨[], .name first, rfl, by simp⟩
  | cons segment others ih => exact (ih segment).append [.name first, .dot]

mutual

private theorem Tree.closed {l : Layer} (t : Tree l) : Closed t.tokens := by
  match t with
  | .joined first more =>
    rcases more.closed with done | closed
    · simpa [Tree.tokens, done] using first.closed
    · exact closed.append first.tokens
  | .single operand => exact operand.closed
  | .related r left right =>
    have closed := right.closed.append (left.tokens ++ [.operator (.relation r)])
    simpa [Tree.tokens] using closed
  | .negation inner => exact inner.closed.append [.bang]
  | .plain inner => exact inner.closed
  | .number n => exact ⟨[], .number n, rfl, by simp⟩
  | .text s => exact ⟨[], .text s, rfl, by simp⟩
  | .keyword k => exact ⟨[], .name k.word, rfl, by simp⟩
  | .path first _ more => exact closed_path first more
  | .group inner => exact ⟨.openParen :: inner.tokens, .closeParen, rfl, by simp⟩

private theorem Tail.closed {c : Connective} (t : Tail c) : t.tokens = [] ∨ Closed t.tokens := by
  match t with
  | .done => exact .inl rfl
  | .more next others =>
    right
    have closed : Closed (next.tokens ++ others.tokens) := by
      rcases others.closed with done | closed
      · simpa [done] using next.closed
      · exact closed.append next.tokens
    exact closed.append [.operator (.connective c)]

end

theorem underivable_nil : Underivable [] := by
  intro d same
  obtain ⟨before, token, htokens, -⟩ := d.closed
  rw [same] at htokens
  simp at htokens

/-- Neither a dot nor an operator stands last. -/
theorem underivable_dangling (tokens : List Token) {token : Token}
    (dangling : token = .dot ∨ token = .bang ∨ ∃ op, token = .operator op) :
    Underivable (tokens ++ [token]) := by
  intro d same
  obtain ⟨before, last, htokens, noDot, noBang, noOperator⟩ := d.closed
  rw [same] at htokens
  obtain ⟨-, rfl⟩ := List.append_singleton_inj.mp htokens
  rcases dangling with rfl | rfl | ⟨op, rfl⟩
  · exact noDot rfl
  · exact noBang rfl
  · exact noOperator op rfl

end ChannelGuard.Condition
