import ChannelGuard.Proofs.ConditionPaths
import ChannelGuard.Proofs.DeclaredRules
import ChannelGuard.Proofs.JsonView

/-!
# Withheld data

Nobody who is refused some data can tell from a denial, or from a default that blocks, what the data
would have been. A condition that has no truth value is another matter: the refusal then gives the
error of the condition, which quotes values that the condition has read. Only what the paths of the
condition lead to can show there.
-/

namespace ChannelGuard

/-- Two requests to let data out that differ at most in the data. -/
inductive Request.SameButData : Request → Request → Prop where
  | publishOut (channel : String) (data data' : Json) (socket : Socket) :
      SameButData (.publishOut channel data socket) (.publishOut channel data' socket)
  | readFilter (context : Context) (resource : Option Json) :
      SameButData (.readFilter context) (.readFilter { context with resource })

/-- The data of a request show in one member of its view only. -/
theorem Context.member?_toJson_of_ne (context : Context) (resource : Option Json)
    {segment : String} (elsewhere : segment ≠ "resource") :
    ({ context with resource } : Context).toJson.member? segment =
      context.toJson.member? segment := by
  simp [toJson, List.findSome?_cons, elsewhere]

theorem Outcome.ofValue_eq_refused_iff {denial : Denial}
    {value : Except Condition.EvalError Bool} {refusal : Refusal} :
    ofValue denial value = .refused refusal ↔
      (value = .ok false ∧ refusal = .denied denial) ∨
        ∃ e, value = .error e ∧ refusal = .unanswered denial (.failed e.message) := by
  match value with
  | .ok true => simp [ofValue]
  | .ok false => simp [ofValue, eq_comm]
  | .error e => simp [ofValue, eq_comm]

namespace AccessControl

/-- A request comes down to the value of a condition in a view. -/
def Consults (control : AccessControl Condition) (request : Request) (condition : Condition)
    (denial : Denial) (view : Json) : Prop :=
  ∃ inquiry, request.plan control.handle = .ask inquiry ∧
    control.rule? inquiry.type inquiry.direction = some condition ∧ inquiry.granted = false ∧
    inquiry.denial = denial ∧ inquiry.context.toJson = view

variable {control : AccessControl Condition} {request other : Request}

theorem Consults.outcome_eq {condition : Condition} {denial : Denial} {view : Json}
    (consults : control.Consults request condition denial view) :
    control.outcome request = .ofValue denial (condition.holds view) := by
  obtain ⟨inquiry, plan, ruled, asked, rfl, rfl⟩ := consults
  exact outcome_of_condition_asked plan ruled asked

/-- Two requests for which the same default decides end alike. -/
theorem outcome_eq_of_fallback {direction : Direction} {denial : Denial}
    (falls : control.outcome request = control.fallback direction denial)
    (falls' : control.outcome other = control.fallback direction denial) :
    control.outcome other = control.outcome request ∧
      (control.outcome request = .allowed ∨
        ∃ denial, control.outcome request = .refused (.noRule denial)) := by
  refine ⟨falls'.trans falls.symm, ?_⟩
  rw [falls, fallback]
  split
  · exact .inr ⟨denial, rfl⟩
  · exact .inl rfl

/-- Questions that differ at most in the data meet the same rule, or none. -/
theorem consults_or_fallback {inquiry : Inquiry} (resource : Option Json)
    (plan : request.plan control.handle = .ask inquiry)
    (plan' : other.plan control.handle =
      .ask { inquiry with context := { inquiry.context with resource } })
    (asked : inquiry.granted = false) :
    (control.outcome request = control.fallback inquiry.direction inquiry.denial ∧
      control.outcome other = control.fallback inquiry.direction inquiry.denial) ∨
    ∃ condition denial view view', control.Consults request condition denial view ∧
      control.Consults other condition denial view' ∧
      ∀ segment, segment ≠ "resource" → view.member? segment = view'.member? segment := by
  cases ruled : control.rule? inquiry.type inquiry.direction with
  | none =>
    have falls' := outcome_of_no_rule plan' ruled
    exact .inl ⟨outcome_of_no_rule plan ruled, falls'⟩
  | some condition =>
    refine .inr ⟨condition, _, _, _, ⟨inquiry, plan, ruled, asked, rfl, rfl⟩,
      ⟨_, plan', ruled, asked, rfl, rfl⟩, fun segment elsewhere => ?_⟩
    exact (inquiry.context.member?_toJson_of_ne resource elsewhere).symm

/-- Two requests that differ at most in the data end alike without a rule, or come down to the value
of one condition in two views. -/
theorem consults_of_sameButData (twins : request.SameButData other) :
    (control.outcome other = control.outcome request ∧
      (control.outcome request = .allowed ∨
        ∃ denial, control.outcome request = .refused (.noRule denial))) ∨
    ∃ condition denial view view', control.Consults request condition denial view ∧
      control.Consults other condition denial view' ∧
      ∀ segment, segment ≠ "resource" → view.member? segment = view'.member? segment := by
  cases twins with
  | publishOut channel data data' socket =>
    cases named : Channel.classify channel with
    | other =>
      have passes (data : Json) :
          control.outcome (.publishOut channel data socket) = .allowed :=
        (passes_of_plan (by simp only [Request.plan, named])).1
      exact .inl ⟨by rw [passes, passes], .inl (passes data)⟩
    | malformed =>
      have falls (data : Json) : control.outcome (.publishOut channel data socket) =
          control.fallback .outbound (.broadcast channel) :=
        outcome_of_plan_unruled (by simp only [Request.plan, named])
      exact .inl (outcome_eq_of_fallback (falls data) (falls data'))
    | resource query =>
      have plan (data : Json) : (Request.publishOut channel data socket).plan control.handle =
          .ask ⟨some query.type, .outbound, .broadcast channel, false,
            ⟨socket, .publish, .channel query, some data, control.handle, socket.token⟩⟩ := by
        simp only [Request.plan, named]
      exact (consults_or_fallback (some data') (plan data) (plan data') rfl).imp_left
        fun falls => outcome_eq_of_fallback falls.1 falls.2
  | readFilter context resource =>
    have plan (context : Context) : (Request.readFilter context).plan control.handle =
        .ask ⟨context.subject.type?, .outbound,
          .readout context.subject.type? context.subject.id?, false,
          { context with handle := context.handle.or control.handle }⟩ := rfl
    exact (consults_or_fallback resource (plan context) (plan _) rfl).imp_left
      fun falls => outcome_eq_of_fallback falls.1 falls.2

/-- Refusals of one kind do not depend on the data, but for what the errors of conditions quote. -/
theorem refusals_agree_up_to_errors (twins : request.SameButData other)
    {refusal refusal' : Refusal} (refused : control.outcome request = .refused refusal)
    (refused' : control.outcome other = .refused refusal')
    (variant : refusal.name = refusal'.name) :
    (refusal.name ≠ "EvaluatorError" → refusal = refusal') ∧
    (refusal.name = "EvaluatorError" → ∃ condition denial view view' e e',
      control.Consults request condition denial view ∧ condition.holds view = .error e ∧
      control.Consults other condition denial view' ∧ condition.holds view' = .error e' ∧
      refusal.message = denial.message ++ ": " ++ e.message ∧
      refusal'.message = denial.message ++ ": " ++ e'.message ∧
      (refusal = refusal' ↔ e.message = e'.message) ∧
      ((∀ path ∈ condition.expr.paths,
        Condition.resolve view path = Condition.resolve view' path) → refusal = refusal') ∧
      (condition.expr.Avoids "resource" → refusal = refusal')) := by
  rcases @consults_of_sameButData control _ _ twins with
    ⟨same, ended⟩ | ⟨condition, denial, view, view', consults, consults', same⟩
  · obtain rfl : refusal = refusal' := by
      rw [same, refused] at refused'
      exact Outcome.refused.inj refused'
    refine ⟨fun _ => rfl, fun failed => ?_⟩
    rw [refused] at ended
    rcases ended with ended | ⟨denial, ended⟩
    · cases ended
    · cases ended
      simp [Refusal.name] at failed
  · rw [consults.outcome_eq, Outcome.ofValue_eq_refused_iff] at refused
    rw [consults'.outcome_eq, Outcome.ofValue_eq_refused_iff] at refused'
    rcases refused with ⟨-, rfl⟩ | ⟨e, failed, rfl⟩
    · rcases refused' with ⟨-, rfl⟩ | ⟨e', -, rfl⟩
      · exact ⟨fun _ => rfl, by simp [Refusal.name]⟩
      · simp [Refusal.name] at variant
    · rcases refused' with ⟨-, rfl⟩ | ⟨e', failed', rfl⟩
      · simp [Refusal.name] at variant
      · refine ⟨fun other => absurd rfl other, fun _ => ⟨condition, denial, view, view', e, e',
          consults, failed, consults', failed', rfl, rfl, by simp, fun agree => ?_,
          fun avoids => ?_⟩⟩
        · have value := Condition.evaluate_congr agree
          rw [Condition.holds, value, ← Condition.holds, failed'] at failed
          cases failed
          rfl
        · have value := Condition.evaluate_eq_of_avoids avoids same
          rw [Condition.holds, value, ← Condition.holds, failed'] at failed
          cases failed
          rfl

/-- A post with a title is sent to somebody without a token. -/
def titled (title : String) : Request :=
  .publishOut "crud>Post" (.object [("title", .string title)]) ⟨"", none⟩

theorem refusals_agree_up_to_errors_denied :
    let control := guardingPosts ⟨"resource.public == true",
      .binary (.relation .eq) (.path ["resource", "public"]) (.literal (.bool true))⟩
    ∃ refusal refusal', control.outcome (titled "a") = .refused refusal ∧
      control.outcome (titled "b") = .refused refusal' ∧ refusal = refusal' := by
  intro control
  have refused : control.outcome (titled "a") = .refused (.denied (.broadcast "crud>Post")) := by
    decide +kernel
  have refused' : control.outcome (titled "b") = .refused (.denied (.broadcast "crud>Post")) := by
    decide +kernel
  have agree := refusals_agree_up_to_errors (.publishOut ..) refused refused' rfl
  exact ⟨_, _, refused, refused', agree.1 (by decide)⟩

/-- The error of a condition that is no truth value gives the title away. -/
theorem refusals_quote_titles :
    let control := guardingPosts ⟨"resource.title", .path ["resource", "title"]⟩
    ∃ refusal refusal', (titled "a").SameButData (titled "b") ∧
      control.outcome (titled "a") = .refused refusal ∧
      control.outcome (titled "b") = .refused refusal' ∧
      refusal.name = refusal'.name ∧ refusal.message ≠ refusal'.message := by
  intro control
  have refused : control.outcome (titled "a") = .refused (.unanswered (.broadcast "crud>Post")
      (.failed "condition must evaluate to a boolean, got `\"a\"`")) := by decide +kernel
  have refused' : control.outcome (titled "b") = .refused (.unanswered (.broadcast "crud>Post")
      (.failed "condition must evaluate to a boolean, got `\"b\"`")) := by decide +kernel
  exact ⟨_, _, .publishOut .., refused, refused', rfl, by decide +kernel⟩

end AccessControl

end ChannelGuard
