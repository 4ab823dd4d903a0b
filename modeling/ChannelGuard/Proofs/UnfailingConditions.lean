import ChannelGuard.Condition.Evaluation

/-!
# Conditions that cannot fail

Evaluation fails on an operand of the wrong kind. The form of a condition can rule that out: put
together by connectives and negations from constants and from equations between literals, paths and
conditions of this form, it holds or it does not hold in every context, whichever of its paths lead
nowhere.
-/

namespace ChannelGuard.Condition

/-- What the form of an expression promises. -/
inductive Form where
  /-- A truth value in every context. -/
  | truth
  /-- Some value in every context. -/
  | value
  deriving DecidableEq

/-- The form of an expression keeps a promise. An equation compares whatever has a value, while
connectives and negations ask for truth values. -/
inductive HasForm : Form → Expr → Prop where
  | constant (b : Bool) : HasForm .truth (.literal (.bool b))
  | not {inner : Expr} (h : HasForm .truth inner) : HasForm .truth (.not inner)
  | connective {left right : Expr} (c : Connective) (h : HasForm .truth left)
      (h' : HasForm .truth right) : HasForm .truth (.binary (.connective c) left right)
  | equal {left right : Expr} (h : HasForm .value left) (h' : HasForm .value right) :
      HasForm .truth (.binary (.relation .eq) left right)
  | unequal {left right : Expr} (h : HasForm .value left) (h' : HasForm .value right) :
      HasForm .truth (.binary (.relation .ne) left right)
  | literal (value : Json) : HasForm .value (.literal value)
  | path (segments : List String) : HasForm .value (.path segments)
  | truth {expr : Expr} (h : HasForm .truth expr) : HasForm .value expr

/-- What is promised of a value. -/
inductive Form.Admits : Form → Json → Prop where
  | truth (b : Bool) : Admits .truth (.bool b)
  | value (value : Json) : Admits .value value

variable {form : Form} {expr : Expr} {context : Json}

/-! Forms are decided by looking at the expression -/

def Expr.hasForm (form : Form) : Expr → Bool
  | literal (.bool _) => true
  | literal _ | path _ => form = .value
  | not inner => inner.hasForm .truth
  | binary (.connective _) left right => left.hasForm .truth && right.hasForm .truth
  | binary (.relation .eq) left right | binary (.relation .ne) left right =>
    left.hasForm .value && right.hasForm .value
  | binary (.relation _) _ _ => false

theorem HasForm.of_truth (h : HasForm .truth expr) : HasForm form expr := by
  cases form with
  | truth => exact h
  | value => exact .truth h

theorem hasForm_value (h : expr.hasForm .truth = true) : expr.hasForm .value = true := by
  cases expr with
  | literal value => cases value <;> rfl
  | path segments => rfl
  | not inner => exact h
  | binary op left right =>
    cases op with
    | connective c => exact h
    | relation r => cases r <;> exact h

theorem hasForm_iff : expr.hasForm form = true ↔ HasForm form expr := by
  constructor
  · intro h
    induction expr generalizing form with
    | literal value =>
      cases value with
      | bool b => exact (HasForm.constant b).of_truth
      | null | number n | string s | array items | object members =>
        rw [of_decide_eq_true h]
        exact .literal _
    | path segments =>
      rw [of_decide_eq_true h]
      exact .path segments
    | not inner ih => exact (HasForm.not (ih h)).of_truth
    | binary op left right ihl ihr =>
      cases op with
      | connective c =>
        obtain ⟨hl, hr⟩ := Bool.and_eq_true_iff.mp h
        exact (HasForm.connective c (ihl hl) (ihr hr)).of_truth
      | relation r =>
        cases r with
        | eq =>
          obtain ⟨hl, hr⟩ := Bool.and_eq_true_iff.mp h
          exact (HasForm.equal (ihl hl) (ihr hr)).of_truth
        | ne =>
          obtain ⟨hl, hr⟩ := Bool.and_eq_true_iff.mp h
          exact (HasForm.unequal (ihl hl) (ihr hr)).of_truth
        | gt | lt | ge | le | mem => cases h
  · intro h
    induction h with
    | constant b => rfl
    | not h ih => exact ih
    | connective c h h' ih ih' | equal h h' ih ih' | unequal h h' ih ih' =>
      exact Bool.and_eq_true_iff.mpr ⟨ih, ih'⟩
    | literal value => cases value <;> rfl
    | path segments => rfl
    | truth h ih => exact hasForm_value ih

instance : Decidable (HasForm form expr) := decidable_of_iff _ hasForm_iff

/-! Promises are kept -/

theorem HasForm.exists_eval (h : HasForm form expr) (context : Json) :
    ∃ value, eval context expr = .ok value ∧ form.Admits value := by
  induction h with
  | constant b => exact ⟨.bool b, rfl, .truth b⟩
  | literal value => exact ⟨value, rfl, .value value⟩
  | path segments => exact ⟨resolve context segments, rfl, .value _⟩
  | truth h ih =>
    obtain ⟨value, found, -⟩ := ih
    exact ⟨value, found, .value value⟩
  | not h ih =>
    obtain ⟨value, found, ⟨b⟩⟩ := ih
    refine ⟨.bool !b, ?_, .truth _⟩
    rw [eval, found]
    rfl
  | connective c h h' ih ih' =>
    obtain ⟨value, found, ⟨b⟩⟩ := ih
    obtain ⟨value, found', ⟨b'⟩⟩ := ih'
    cases c with
    | and =>
      refine ⟨.bool (b && b'), ?_, .truth _⟩
      rw [eval, found, found']
      cases b <;> rfl
    | or =>
      refine ⟨.bool (b || b'), ?_, .truth _⟩
      rw [eval, found, found']
      cases b <;> rfl
  | equal h h' ih ih' =>
    obtain ⟨value, found, -⟩ := ih
    obtain ⟨other, found', -⟩ := ih'
    refine ⟨.bool (looseEq value other), ?_, .truth _⟩
    rw [eval, found, found']
    rfl
  | unequal h h' ih ih' =>
    obtain ⟨value, found, -⟩ := ih
    obtain ⟨other, found', -⟩ := ih'
    refine ⟨.bool !looseEq value other, ?_, .truth _⟩
    rw [eval, found, found']
    rfl

/-- A condition of the form of a truth value holds or does not hold in every context, of whatever
kind the context is, and never fails. -/
theorem truth_forms_decide (h : HasForm .truth expr) (context : Json) :
    evaluate expr context = .ok true ∨ evaluate expr context = .ok false := by
  obtain ⟨value, found, ⟨b⟩⟩ := h.exists_eval context
  have decided : evaluate expr context = .ok b := by
    rw [evaluate, found]
    rfl
  cases b with
  | false => exact .inr decided
  | true => exact .inl decided

/-- The paths of this condition lead nowhere in a context that is a text, and one of its equations is
a side of another. -/
theorem truth_forms_decide_astray :
    let signedIn : Expr :=
      .not (.binary (.relation .eq) (.path ["authToken", "role"]) (.literal .null))
    let agrees : Expr := .binary (.relation .ne)
      (.binary (.relation .eq) (.path ["resource", "owner"]) (.literal (.string "7")))
      (.path ["resource", "open"])
    let expr : Expr := .binary (.connective .or) signedIn
      (.binary (.connective .and) agrees (.literal (.bool true)))
    HasForm .truth expr ∧
      (evaluate expr (.string "open") = .ok true ∨ evaluate expr (.string "open") = .ok false) ∧
      ∀ context, evaluate expr context = .ok true ∨ evaluate expr context = .ok false := by
  intro signedIn agrees expr
  have form : HasForm .truth expr := by decide
  exact ⟨form, truth_forms_decide form _, truth_forms_decide form⟩

end ChannelGuard.Condition
