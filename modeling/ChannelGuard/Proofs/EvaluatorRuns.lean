import ChannelGuard.Access.Evaluator

/-!
# Runs of evaluators

A run comes down to when it answers and what, or to never answering, and a limit only decides
whether that is in time. To count runs, an evaluator can be watched: a watched evaluator notes down
the context of each run that it starts, and does and leaves the same as the evaluator inside.
-/

namespace ChannelGuard

namespace Course

variable {ε δ : Type}

/-- The time that a run takes and its verdict, if it ever ends. -/
def answer? : Course ε → Option (Nat × Except Failure Bool)
  | answers verdict _ => some (0, verdict)
  | hangs _ => none
  | waits ms _ later => later.answer?.map fun (delay, verdict) => (ms + delay, verdict)

theorem settle_map (f : ε → δ) (limit : Option Nat) (elapsed : Nat) (course : Course ε) :
    (course.map f).settle limit elapsed =
      ((course.settle limit elapsed).1, f (course.settle limit elapsed).2) := by
  induction course generalizing elapsed with
  | answers verdict after => rfl
  | hangs after => cases limit <;> rfl
  | waits ms meanwhile later ih =>
    cases limit with
    | none => exact ih (elapsed + ms)
    | some t =>
      by_cases late : t < elapsed + ms
      · simp only [map, settle, late, if_true]
      · simp only [map, settle, late, if_false, ih]

end Course

/-- What is decided under a limit of a run that takes some time for its verdict, or never has one:
the verdict if it is in time, and no verdict otherwise. -/
def Decision.within (limit : Option Nat) : Option (Nat × Except Failure Bool) → Decision
  | some (delay, verdict) =>
    match limit with
    | some t => if delay ≤ t then .ofVerdict verdict else .failed (.timedOut t)
    | none => .ofVerdict verdict
  | none =>
    match limit with
    | some t => .failed (.timedOut t)
    | none => .pending

theorem Course.settle_fst {ε : Type} (limit : Option Nat) (elapsed : Nat) (course : Course ε)
    (intime : ∀ t ∈ limit, elapsed ≤ t) :
    (course.settle limit elapsed).1 =
      .within limit (course.answer?.map fun (delay, verdict) => (elapsed + delay, verdict)) := by
  induction course generalizing elapsed with
  | answers verdict after =>
    cases limit with
    | none => rfl
    | some t => simp [settle, answer?, Decision.within, intime t rfl]
  | hangs after => cases limit <;> rfl
  | waits ms meanwhile later ih =>
    have shifted : (waits ms meanwhile later).answer?.map
        (fun (delay, verdict) => (elapsed + delay, verdict)) =
        later.answer?.map fun (delay, verdict) => (elapsed + ms + delay, verdict) := by
      simp [answer?, Function.comp_def, Nat.add_assoc]
    rw [shifted]
    cases limit with
    | none => exact ih (elapsed + ms) (by simp)
    | some t =>
      by_cases late : t < elapsed + ms
      · -- whatever comes after this wait comes too late as well
        have tooLate (delay : Nat) : ¬elapsed + ms + delay ≤ t := by omega
        simp only [settle, late, if_true]
        cases later.answer? with
        | none => rfl
        | some answer => simp only [Option.map_some, Decision.within, tooLate, if_false]
      · simp only [settle, late, if_false]
        exact ih (elapsed + ms) (by simpa using Nat.le_of_not_lt late)

theorem Evaluator.decision_fst {ε : Type} [Evaluator ε] (evaluator : ε) (context : Context)
    (limit : Option Nat) :
    (Evaluator.decision evaluator context limit).1 =
      .within limit (Evaluator.start evaluator context).answer? := by
  have settled := Course.settle_fst limit 0 (Evaluator.start evaluator context) (by simp)
  simpa [Evaluator.decision] using settled

namespace Decision

theorem ofVerdict_injective {verdict verdict' : Except Failure Bool}
    (h : ofVerdict verdict = ofVerdict verdict') : verdict = verdict' := by
  match verdict, verdict', h with
  | .ok true, .ok true, _ | .ok false, .ok false, _ | .error _, .error _, rfl => rfl

private theorem ofVerdict_ne_pending (verdict : Except Failure Bool) :
    ofVerdict verdict ≠ .pending := by
  match verdict with
  | .ok true | .ok false | .error _ => simp [ofVerdict]

variable {limit : Option Nat} {answer : Option (Nat × Except Failure Bool)}

theorem within_of_inTime {delay : Nat} {verdict : Except Failure Bool}
    (inTime : ∀ t ∈ limit, delay ≤ t) :
    within limit (some (delay, verdict)) = ofVerdict verdict := by
  cases limit with
  | none => rfl
  | some t => simp only [within, inTime t rfl, if_true]

theorem within_of_late {t : Nat} (late : ∀ a ∈ answer, t < a.1) :
    within (some t) answer = .failed (.timedOut t) := by
  cases answer with
  | none => rfl
  | some a => simp only [within, Nat.not_le_of_lt (late a rfl), if_false]

/-- An answer is in time, or the time is up before, or there is nothing to wait for. -/
theorem inTime_or_late (limit : Option Nat) (answer : Option (Nat × Except Failure Bool)) :
    (∃ delay verdict, answer = some (delay, verdict) ∧ ∀ t ∈ limit, delay ≤ t) ∨
      (∃ t, limit = some t ∧ ∀ a ∈ answer, t < a.1) ∨ limit = none ∧ answer = none := by
  match answer, limit with
  | some (delay, verdict), none => exact .inl ⟨delay, verdict, rfl, by simp⟩
  | some (delay, verdict), some t =>
    by_cases inTime : delay ≤ t
    · exact .inl ⟨delay, verdict, rfl, by simpa using inTime⟩
    · exact .inr (.inl ⟨t, rfl, by simpa using inTime⟩)
  | none, some t => exact .inr (.inl ⟨t, rfl, by simp⟩)
  | none, none => exact .inr (.inr ⟨rfl, rfl⟩)

/-- Any verdict but the failure that the limit itself brings about comes from an answer in time. -/
theorem within_eq_ofVerdict_iff {verdict : Except Failure Bool}
    (own : ∀ t ∈ limit, verdict ≠ .error (.timedOut t)) :
    within limit answer = ofVerdict verdict ↔
      ∃ delay, answer = some (delay, verdict) ∧ ∀ t ∈ limit, delay ≤ t := by
  constructor
  · intro h
    rcases inTime_or_late limit answer with
      ⟨delay, given, rfl, inTime⟩ | ⟨t, rfl, late⟩ | ⟨rfl, rfl⟩
    · rw [within_of_inTime inTime] at h
      exact ⟨delay, by rw [ofVerdict_injective h], inTime⟩
    · rw [within_of_late late] at h
      have forced : .error (.timedOut t) = verdict := ofVerdict_injective h
      exact absurd forced.symm (own t rfl)
    · exact absurd h.symm (ofVerdict_ne_pending verdict)
  · rintro ⟨delay, rfl, inTime⟩
    exact within_of_inTime inTime

theorem within_eq_timedOut_iff {t : Nat} :
    within limit answer = .failed (.timedOut t) ↔
      (limit = some t ∧ ∀ a ∈ answer, t < a.1) ∨
        ∃ delay, answer = some (delay, .error (.timedOut t)) ∧ ∀ t' ∈ limit, delay ≤ t' := by
  constructor
  · intro h
    rcases inTime_or_late limit answer with
      ⟨delay, given, rfl, inTime⟩ | ⟨t', rfl, late⟩ | ⟨rfl, rfl⟩
    · rw [within_of_inTime inTime] at h
      have same : given = .error (.timedOut t) := ofVerdict_injective h
      exact .inr ⟨delay, by rw [same], inTime⟩
    · rw [within_of_late late] at h
      cases h
      exact .inl ⟨rfl, late⟩
    · cases h
  · rintro (⟨rfl, late⟩ | ⟨delay, rfl, inTime⟩)
    · exact within_of_late late
    · exact within_of_inTime inTime

theorem within_eq_pending_iff : within limit answer = .pending ↔ limit = none ∧ answer = none := by
  constructor
  · intro h
    rcases inTime_or_late limit answer with
      ⟨delay, given, rfl, inTime⟩ | ⟨t, rfl, late⟩ | endless
    · rw [within_of_inTime inTime] at h
      exact absurd h (ofVerdict_ne_pending given)
    · rw [within_of_late late] at h
      cases h
    · exact endless
  · rintro ⟨rfl, rfl⟩
    rfl

end Decision

/-- What is decided of a run under a limit: an answer counts if it is in time, and nothing else can
bring about a decision. That there was no time is decided of a run that has not answered when the
limit is reached, or that itself gives this for an answer. -/
structure Course.Decided {ε : Type} (run : Course ε) (limit : Option Nat) (decision : Decision) :
    Prop where
  allowed_iff : decision = .allowed ↔
    ∃ delay, run.answer? = some (delay, .ok true) ∧ ∀ t ∈ limit, delay ≤ t
  denied_iff : decision = .denied ↔
    ∃ delay, run.answer? = some (delay, .ok false) ∧ ∀ t ∈ limit, delay ≤ t
  failed_iff : ∀ text, decision = .failed (.failed text) ↔
    ∃ delay, run.answer? = some (delay, .error (.failed text)) ∧ ∀ t ∈ limit, delay ≤ t
  timedOut_iff : ∀ t, decision = .failed (.timedOut t) ↔
    (limit = some t ∧ ∀ answer ∈ run.answer?, t < answer.1) ∨
      ∃ delay, run.answer? = some (delay, .error (.timedOut t)) ∧ ∀ t' ∈ limit, delay ≤ t'
  pending_iff : decision = .pending ↔ limit = none ∧ run.answer? = none

theorem Evaluator.decided_decision {ε : Type} [Evaluator ε] (evaluator : ε) (context : Context)
    (limit : Option Nat) :
    (start evaluator context).Decided limit (decision evaluator context limit).1 := by
  have verdicts (verdict : Except Failure Bool)
      (own : ∀ t ∈ limit, verdict ≠ .error (.timedOut t)) :
      Decision.within limit (start evaluator context).answer? = .ofVerdict verdict ↔
        ∃ delay, (start evaluator context).answer? = some (delay, verdict) ∧
          ∀ t ∈ limit, delay ≤ t :=
    Decision.within_eq_ofVerdict_iff own
  rw [decision_fst]
  constructor
  · exact verdicts (.ok true) (by simp)
  · exact verdicts (.ok false) (by simp)
  · intro text
    exact verdicts (.error (.failed text)) (by simp)
  · intro t
    exact Decision.within_eq_timedOut_iff
  · exact Decision.within_eq_pending_iff

/-- An evaluator with the contexts of the runs it has started, in order. -/
structure Watched (ε : Type) where
  evaluator : ε
  runs : List Context

namespace Watched

variable {ε : Type}

/-- An evaluator that has not run yet. -/
def fresh (evaluator : ε) : Watched ε := ⟨evaluator, []⟩

instance [Evaluator ε] : Evaluator (Watched ε) where
  start watched context :=
    (Evaluator.start watched.evaluator context).map fun evaluator =>
      ⟨evaluator, watched.runs ++ [context]⟩

variable [Evaluator ε] (watched : Watched ε) (context : Context) (limit : Option Nat)

/-- Watching an evaluator changes nothing but the notes, which grow by one run. -/
theorem decision_eq :
    Evaluator.decision watched context limit =
      ((Evaluator.decision watched.evaluator context limit).1,
        ⟨(Evaluator.decision watched.evaluator context limit).2, watched.runs ++ [context]⟩) :=
  Course.settle_map _ limit 0 _

end Watched

end ChannelGuard
