import ChannelGuard.Condition.Evaluation
import ChannelGuard.Proofs.RenderedConditions

/-!
# What a condition reads

A condition reads a context only where its paths lead. Contexts in which all of them lead to the
same values give it the same value, or the same error.
-/

namespace ChannelGuard.Condition

/-- The paths that stand in a condition. -/
def Expr.paths : Expr → List (List String)
  | literal _ => []
  | path segments => [segments]
  | not inner => inner.paths
  | binary _ left right => left.paths ++ right.paths

/-- No path of the condition leads to the member of the context under a key. -/
def Expr.Avoids (key : String) (expr : Expr) : Prop :=
  ∀ path ∈ expr.paths, ∃ segment rest, path = segment :: rest ∧ segment ≠ key

variable {context other : Json}

theorem resolve_congr {segment : String}
    (same : context.member? segment = other.member? segment) (rest : List String) :
    resolve context (segment :: rest) = resolve other (segment :: rest) := by
  simp only [resolve, same]

theorem eval_congr {expr : Expr}
    (agree : ∀ path ∈ expr.paths, resolve context path = resolve other path) :
    eval context expr = eval other expr := by
  induction expr with
  | literal value => rfl
  | path segments =>
    have here : resolve context segments = resolve other segments :=
      agree segments List.mem_cons_self
    simp only [eval, here]
  | not inner ih => simp only [eval, ih agree]
  | binary op left right ihl ihr =>
    have first := ihl fun path member => agree path (List.mem_append_left _ member)
    have second := ihr fun path member => agree path (List.mem_append_right _ member)
    match op with
    | .connective .and | .connective .or | .relation _ => simp only [eval, first, second]

theorem evaluate_congr {expr : Expr}
    (agree : ∀ path ∈ expr.paths, resolve context path = resolve other path) :
    evaluate expr context = evaluate expr other := by
  simp only [evaluate, eval_congr agree]

/-- What stands under a key does not matter to a condition whose paths all start elsewhere. -/
theorem evaluate_eq_of_avoids {expr : Expr} {key : String} (avoids : expr.Avoids key)
    (same : ∀ segment, segment ≠ key → context.member? segment = other.member? segment) :
    evaluate expr context = evaluate expr other := by
  refine evaluate_congr fun path member => ?_
  obtain ⟨segment, rest, rfl, elsewhere⟩ := avoids path member
  exact resolve_congr (same segment elsewhere) rest

/-- A path is followed key by key; where it leaves the objects of the context it leads to null. -/
theorem resolve_eq (context : Json) (segments : List String) :
    resolve context segments =
      (segments.foldlM (fun (value : Json) key => value.member? key) context).getD .null := by
  induction segments generalizing context with
  | nil => rfl
  | cons key rest ih =>
    rw [resolve, List.foldlM_cons]
    cases context.member? key with
    | none => rfl
    | some value => exact ih value

/-- Only the empty path leads to the whole context, and no condition has it. -/
theorem WellFormed.nil_not_mem_paths {expr : Expr} (h : WellFormed expr) : [] ∉ expr.paths := by
  induction h with
  | null | bool | number | string | path => simp [Expr.paths]
  | not h ih => exact ih
  | binary op h h' ih ih' => simp [Expr.paths, ih, ih']

/-- Members under which two contexts differ do not matter if no path starts with their keys. -/
theorem evaluate_eq_of_differ {expr : Expr} (whole : [] ∈ expr.paths → context = other)
    (differ : ∀ key, context.member? key ≠ other.member? key →
      ∀ rest, key :: rest ∉ expr.paths) :
    evaluate expr context = evaluate expr other := by
  refine evaluate_congr fun path member => ?_
  cases path with
  | nil => rw [whole member]
  | cons key rest =>
    by_cases same : context.member? key = other.member? key
    · exact resolve_congr same rest
    · exact absurd member (differ key same rest)

/-- An expression has the same truth value, or the same error with the same text, in all contexts in
which its paths lead to the same values, a path being followed key by key and leading to null where
it leaves the objects. So members whose keys start none of its paths do not matter. The empty path,
which leads to the whole context, stands in no condition that is read. -/
theorem evaluate_follows_paths :
    (∀ (expr : Expr) (context other : Json),
      (∀ path ∈ expr.paths, resolve context path = resolve other path) →
        evaluate expr context = evaluate expr other) ∧
    (∀ (context : Json) (segments : List String), resolve context segments =
      (segments.foldlM (fun (value : Json) key => value.member? key) context).getD .null) ∧
    (∀ (expr : Expr) (context other : Json), ([] ∈ expr.paths → context = other) →
      (∀ key, context.member? key ≠ other.member? key → ∀ rest, key :: rest ∉ expr.paths) →
        evaluate expr context = evaluate expr other) ∧
    (∀ source expr, parse source = .ok expr → [] ∉ expr.paths) := by
  refine ⟨fun _ _ _ => evaluate_congr, resolve_eq, fun _ _ _ => evaluate_eq_of_differ, ?_⟩
  intro source expr read
  exact (wellFormed_of_parse read).nil_not_mem_paths

/-- A path through a text leads to null as a missing one does, and what stands beside it does not
matter, also where the condition has no truth value. -/
theorem evaluate_follows_paths_astray :
    evaluate (.path ["a", "b"]) (.object [("a", .string "b")]) =
      evaluate (.path ["a", "b"]) (.object []) ∧
    evaluate (.path ["a", "b"]) (.object [("a", .string "b"), ("c", .null)]) =
      evaluate (.path ["a", "b"]) (.object [("a", .string "b")]) ∧
    [] ∉ (Expr.literal (.bool true)).paths := by
  obtain ⟨follows, -, differ, read⟩ := evaluate_follows_paths
  refine ⟨follows _ _ _ ?_, differ _ _ _ (by simp [Expr.paths]) ?_, read _ _ (parse_value .true)⟩
  · intro path member
    rw [List.mem_singleton.mp member]
    rfl
  · intro key unlike rest member
    have start : key = "a" := by
      have same : key :: rest = ["a", "b"] := List.mem_singleton.mp member
      exact (List.cons.inj same).1
    subst start
    exact unlike rfl

end ChannelGuard.Condition
