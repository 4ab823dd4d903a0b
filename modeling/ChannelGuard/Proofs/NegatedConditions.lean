import ChannelGuard.Condition.Evaluation

/-!
# Negation pushed inwards

A negation in front of a condition can be taken to its relations: each connective turns into the
other one, each relation into the one that holds where it does not, and a double negation falls
away. The condition so obtained allows what the first one denies and denies what it allows. It fails
in the same contexts, though the error may be another one.
-/

namespace ChannelGuard.Condition

/-- The relation that holds where this one does not. Membership has none. -/
def Relation.opposite? : Relation → Option Relation
  | eq => some ne
  | ne => some eq
  | gt => some le
  | le => some gt
  | lt => some ge
  | ge => some lt
  | mem => none

/-- The connective that joins the negations. -/
def Connective.dual : Connective → Connective
  | and => or
  | or => and

/-- The negation of an expression, taken inwards as far as its connectives reach. -/
def Expr.negated : Expr → Expr
  | not inner => inner
  | binary (.connective c) left right => binary (.connective c.dual) left.negated right.negated
  | binary (.relation r) left right =>
    match r.opposite? with
    | some opposite => binary (.relation opposite) left right
    | none => not (binary (.relation r) left right)
  | literal value => not (literal value)
  | path segments => not (path segments)

/-! Decisions -/

section

variable {ε α β : Type}

theorem toOption_ok (a : α) : (Except.ok a : Except ε α).toOption = some a := rfl

theorem toOption_bind (x : Except ε α) (f : α → Except ε β) :
    (x >>= f).toOption = x.toOption.bind fun a => (f a).toOption := by
  cases x <;> rfl

theorem toOption_map (f : α → β) (x : Except ε α) : (x.map f).toOption = x.toOption.map f := by
  cases x <;> rfl

end

/-- The truth value that a value is. -/
def truth? : Json → Option Bool
  | .bool b => some b
  | _ => none

theorem truth?_bool (b : Bool) : truth? (.bool b) = some b := rfl

theorem toOption_operand (symbol : String) (value : Json) :
    (operand symbol value).toOption = truth? value := by
  cases value <;> rfl

variable {context : Json}

/-- What a condition decides, none where it fails. Negation can change the error, as an operand that
is no truth value is reported with its operator. -/
def Expr.decision? (context : Json) (expr : Expr) : Option Bool :=
  (evaluate expr context).toOption

theorem evaluate_eq_ok_iff {expr : Expr} {b : Bool} :
    evaluate expr context = .ok b ↔ expr.decision? context = some b := by
  unfold Expr.decision?
  cases evaluate expr context <;> simp [Except.toOption]

theorem exists_evaluate_eq_error_iff {expr : Expr} :
    (∃ e, evaluate expr context = .error e) ↔ expr.decision? context = none := by
  unfold Expr.decision?
  cases evaluate expr context <;> simp [Except.toOption]

theorem decision?_eq (expr : Expr) :
    expr.decision? context = (eval context expr).toOption.bind truth? := by
  rw [Expr.decision?, evaluate, toOption_bind]
  congr 1
  funext value
  cases value <;> rfl

theorem decision?_not (inner : Expr) :
    (Expr.not inner).decision? context = (inner.decision? context).map (!·) := by
  simp only [decision?_eq, eval, toOption_bind, toOption_operand, toOption_ok, truth?_bool,
    Option.bind_assoc, Option.bind_some, Option.map_eq_bind]
  rfl

/-- The right side of a conjunction is read only where the left side holds. -/
theorem decision?_and (left right : Expr) :
    (Expr.binary (.connective .and) left right).decision? context =
      (left.decision? context).bind fun b =>
        if b then right.decision? context else some false := by
  simp only [decision?_eq, eval, toOption_bind, toOption_operand, Option.bind_assoc]
  congr 1
  funext value
  congr 1
  funext b
  cases b with
  | false => rfl
  | true => simp [toOption_bind, toOption_operand, toOption_ok, truth?_bool, Option.bind_assoc]

/-- The right side of a disjunction is read only where the left side does not hold. -/
theorem decision?_or (left right : Expr) :
    (Expr.binary (.connective .or) left right).decision? context =
      (left.decision? context).bind fun b =>
        if b then some true else right.decision? context := by
  simp only [decision?_eq, eval, toOption_bind, toOption_operand, Option.bind_assoc]
  congr 1
  funext value
  congr 1
  funext b
  cases b with
  | false => simp [toOption_bind, toOption_operand, toOption_ok, truth?_bool, Option.bind_assoc]
  | true => rfl

theorem decision?_relation (r : Relation) (left right : Expr) :
    (Expr.binary (.relation r) left right).decision? context =
      (eval context left).toOption.bind fun value =>
        (eval context right).toOption.bind fun other => (relate r value other).toOption := by
  simp only [decision?_eq, eval, toOption_bind, toOption_ok, truth?_bool, Option.bind_assoc,
    Option.bind_some, Option.bind_fun_some]

/-! Negations -/

/-- Opposite relations hold the other way round, and are undefined with the same error. -/
theorem relate_opposite {r opposite : Relation} (h : r.opposite? = some opposite)
    (left right : Json) : relate opposite left right = (relate r left right).map (!·) := by
  cases r with
  | eq | ne =>
    cases h
    simp [relate, Except.map]
  | mem => cases h
  | gt | lt | ge | le =>
    cases h
    simp only [relate]
    cases order? left right with
    | none => rfl
    | some o => cases o <;> rfl

theorem decision?_negated (expr : Expr) :
    expr.negated.decision? context = (expr.decision? context).map (!·) := by
  induction expr with
  | literal value => exact decision?_not (.literal value)
  | path segments => exact decision?_not (.path segments)
  | not inner =>
    rw [decision?_not, Option.map_map]
    simp [Expr.negated, Function.comp_def]
  | binary op left right ihl ihr =>
    cases op with
    | connective c =>
      cases c with
      | and =>
        rw [Expr.negated, Connective.dual, decision?_or, decision?_and, ihl, ihr]
        cases left.decision? context with
        | none => rfl
        | some b => cases b <;> rfl
      | or =>
        rw [Expr.negated, Connective.dual, decision?_and, decision?_or, ihl, ihr]
        cases left.decision? context with
        | none => rfl
        | some b => cases b <;> rfl
    | relation r =>
      cases found : r.opposite? with
      | none => simp only [Expr.negated, found, decision?_not]
      | some opposite =>
        simp only [Expr.negated, found, decision?_relation, relate_opposite found, toOption_map,
          Option.map_bind, Function.comp_def]

/-- The negation of an expression, taken inwards or put in front, decides the opposite of what the
expression decides, and fails where the expression fails. -/
theorem negation_turns_decisions (expr : Expr) (context : Json) :
    (∀ b, evaluate expr.negated context = .ok b ↔ evaluate expr context = .ok !b) ∧
    ((∃ e, evaluate expr.negated context = .error e) ↔
      ∃ e, evaluate expr context = .error e) ∧
    (∀ b, evaluate (.not expr) context = .ok b ↔ evaluate expr context = .ok !b) ∧
    ((∃ e, evaluate (.not expr) context = .error e) ↔ ∃ e, evaluate expr context = .error e) := by
  simp only [evaluate_eq_ok_iff, exists_evaluate_eq_error_iff, decision?_negated, decision?_not]
  cases expr.decision? context with
  | none => simp
  | some decided => cases decided <;> simp

/-- A range of times with its negation taken inwards. -/
example (start finish now : Expr) :
    (Expr.binary (.connective .and) (.binary (.relation .ge) now start)
      (.not (.binary (.relation .gt) now finish))).negated =
    .binary (.connective .or) (.binary (.relation .lt) now start)
      (.binary (.relation .gt) now finish) := rfl

end ChannelGuard.Condition
