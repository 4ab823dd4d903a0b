import ChannelGuard.Access.Script
import ChannelGuard.Proofs.EvaluatorRuns

/-!
# Limits on time

All that a limit does to a run is to cut it off. What is decided of the run, and what has become of
the evaluator, is the same under every limit that leaves time for the answer. Otherwise there is no
verdict, and the evaluator stays as it was when the time was up: a run that would have gone on in
another way, or for ever, makes no difference. Only the decision that the time was up does not tell
where it comes from: an evaluator may also fail in this way on its own.
-/

namespace ChannelGuard

/-- The decision when there is no more time to wait for one. -/
def Decision.orTimedOut (t : Nat) : Decision → Decision
  | pending => .failed (.timedOut t)
  | decided => decided

theorem Decision.orTimedOut_ofVerdict (t : Nat) (verdict : Except Failure Bool) :
    (ofVerdict verdict).orTimedOut t = ofVerdict verdict := by
  match verdict with
  | .ok true | .ok false | .error _ => rfl

namespace Course

variable {ε : Type}

/-- The evaluator as a run leaves it for good. -/
def final : Course ε → ε
  | answers _ after => after
  | hangs after => after
  | waits _ _ later => later.final

/-- The run as far as it gets in `t` milliseconds. Whatever would come later never comes. -/
def cut (t : Nat) : Course ε → Course ε
  | answers verdict after => .answers verdict after
  | hangs after => .hangs after
  | waits ms meanwhile later =>
    if t < ms then .hangs meanwhile else .waits ms meanwhile (later.cut (t - ms))

/-- The run that waits again and again, and goes on as `rest` after these stages. -/
def after (stages : List (Nat × ε)) (rest : Course ε) : Course ε :=
  stages.foldr (fun stage later => .waits stage.1 stage.2 later) rest

/-- The time that stages of waiting take. -/
def duration (stages : List (Nat × ε)) : Nat := stages.foldr (fun stage later => stage.1 + later) 0

@[simp] theorem duration_nil : duration ([] : List (Nat × ε)) = 0 := rfl

@[simp] theorem duration_cons (stage : Nat × ε) (stages : List (Nat × ε)) :
    duration (stage :: stages) = stage.1 + duration stages := rfl

/-! Runs that are in time -/

/-- An answer in time stands, and with it all that the run has done. -/
theorem settle_of_answer {course : Course ε} {limit : Option Nat} {elapsed delay : Nat}
    {verdict : Except Failure Bool} (answered : course.answer? = some (delay, verdict))
    (intime : ∀ t ∈ limit, elapsed + delay ≤ t) :
    course.settle limit elapsed = (.ofVerdict verdict, course.final) := by
  induction course generalizing elapsed delay with
  | answers verdict' after =>
    cases answered
    rfl
  | hangs after => cases answered
  | waits ms meanwhile later ih =>
    obtain ⟨⟨delay', verdict'⟩, answered', same⟩ := Option.map_eq_some_iff.mp answered
    cases same
    have later_intime (t : Nat) (ht : t ∈ limit) : elapsed + ms + delay' ≤ t := by
      have := intime t ht
      omega
    cases limit with
    | none => exact ih answered' later_intime
    | some t =>
      have := later_intime t rfl
      have soon : ¬t < elapsed + ms := by omega
      simp only [settle, soon, if_false]
      exact ih answered' later_intime

/-! Runs that are cut off -/

theorem settle_none_snd (course : Course ε) (elapsed : Nat) :
    (course.settle none elapsed).2 = course.final := by
  induction course generalizing elapsed with
  | answers verdict after => rfl
  | hangs after => rfl
  | waits ms meanwhile later ih => exact ih (elapsed + ms)

/-- Under a limit a run comes to what its part up to the limit comes to without one, except that
time is up where that part does not end. -/
theorem settle_some (course : Course ε) {elapsed t : Nat} (intime : elapsed ≤ t) :
    course.settle (some t) elapsed =
      (((course.cut (t - elapsed)).settle none elapsed).1.orTimedOut t,
        ((course.cut (t - elapsed)).settle none elapsed).2) := by
  induction course generalizing elapsed with
  | answers verdict after => simp only [cut, settle, Decision.orTimedOut_ofVerdict]
  | hangs after => rfl
  | waits ms meanwhile later ih =>
    by_cases late : t < elapsed + ms
    · have beyond : t - elapsed < ms := by omega
      simp only [cut, beyond, if_true, settle, late, Decision.orTimedOut]
    · have within : ¬t - elapsed < ms := by omega
      have left : t - elapsed - ms = t - (elapsed + ms) := by omega
      simp only [cut, within, if_false, settle, late, left]
      exact ih (Nat.le_of_not_lt late)

/-- Stages that take longer than a limit leave nothing of what follows them. -/
theorem cut_after {stages : List (Nat × ε)} {t : Nat} (long : t < duration stages)
    (rest rest' : Course ε) : (after stages rest).cut t = (after stages rest').cut t := by
  induction stages generalizing t with
  | nil => simp at long
  | cons stage stages ih =>
    by_cases beyond : t < stage.1
    · simp only [after, List.foldr_cons, cut, beyond, if_true]
    · have left : t - stage.1 < duration stages := by
        rw [duration_cons] at long
        omega
      have later := ih left
      simp only [after] at later
      simp only [after, List.foldr_cons, cut, beyond, if_false, later]

theorem answer?_after {stages : List (Nat × ε)} {rest : Course ε} {delay : Nat}
    {verdict : Except Failure Bool}
    (answered : (after stages rest).answer? = some (delay, verdict)) :
    duration stages ≤ delay := by
  induction stages generalizing delay with
  | nil => simp
  | cons stage stages ih =>
    obtain ⟨⟨delay', verdict'⟩, answered', same⟩ := Option.map_eq_some_iff.mp answered
    cases same
    have := ih answered'
    rw [duration_cons]
    omega

end Course

namespace Evaluator

variable {ε : Type} [Evaluator ε]

theorem decision_some_eq (evaluator : ε) (context : Context) (t : Nat) :
    decision evaluator context (some t) =
      ((((start evaluator context).cut t).settle none 0).1.orTimedOut t,
        (((start evaluator context).cut t).settle none 0).2) :=
  (start evaluator context).settle_some (Nat.zero_le t)

/-- Runs that are the same up to a limit cannot be told apart under it. -/
theorem decision_eq_of_cut_eq {evaluator other : ε} {context otherContext : Context} {t : Nat}
    (same : (start other otherContext).cut t = (start evaluator context).cut t) :
    decision other otherContext (some t) = decision evaluator context (some t) := by
  rw [decision_some_eq, decision_some_eq, same]

/-- A decision that time has not forced stands under every limit that leaves more time. -/
theorem decision_eq_of_le {evaluator : ε} {context : Context} {t : Nat} {limit : Option Nat}
    (longer : ∀ t' ∈ limit, t ≤ t')
    (answered : (decision evaluator context (some t)).1 ≠ .failed (.timedOut t)) :
    decision evaluator context limit = decision evaluator context (some t) := by
  have timedOut := (decided_decision evaluator context (some t)).timedOut_iff t
  match answer : (start evaluator context).answer? with
  | none => exact absurd (timedOut.mpr (.inl ⟨rfl, by simp [answer]⟩)) answered
  | some (delay, verdict) =>
    have soon : delay ≤ t := Nat.le_of_not_lt fun late =>
      answered (timedOut.mpr (.inl ⟨rfl, by simpa [answer] using late⟩))
    have settled (limit : Option Nat) (intime : ∀ t' ∈ limit, delay ≤ t') :
        decision evaluator context limit = (.ofVerdict verdict, (start evaluator context).final) :=
      Course.settle_of_answer answer (by simpa using intime)
    have intime (t' : Nat) (ht' : t' ∈ limit) : delay ≤ t' := Nat.le_trans soon (longer t' ht')
    rw [settled limit intime, settled (some t) (by simpa using soon)]

/-- Asks somebody who has a limit of their own, and hands on that it was reached. -/
structure Relay where
  limit : Nat

instance : Evaluator Relay where
  start relay _ := .answers (.error (.timedOut relay.limit)) relay

end Evaluator

end ChannelGuard
