import ChannelGuard.Access.Script
import ChannelGuard.Proofs.Inquiries

/-!
# The decision table

Every request is decided in one way. One that concerns no resource passes. One whose type has no
rule in its direction goes by a default and by nothing else: the one for what comes in or the one
for what goes out. Where there is a rule, the defaults have no say: the evaluator runs once and only
a truth in time lets the request through, unless the server has approved a subscription beforehand.
-/

namespace ChannelGuard

theorem Decision.toOutcome_injective (denial : Denial) :
    Function.Injective (Decision.toOutcome denial) := by
  intro decision decision' h
  match decision, decision', h with
  | .allowed, .allowed, _ | .denied, .denied, _ | .pending, .pending, _ => rfl
  | .failed _, .failed _, rfl => rfl

/-- The request with another approval; only a subscription has one. -/
def Request.withApproval (granted : Bool) : Request → Request
  | subscribe channel socket _ => .subscribe channel socket granted
  | other => other

namespace AccessControl

variable {ε : Type} [Evaluator ε]

def outcome (control : AccessControl ε) (request : Request) : Outcome := (control.answer request).1

/-- No evaluator is run. -/
def Idle (control : AccessControl ε) (request : Request) : Prop :=
  ∀ type direction, control.runs request type direction = []

def Passes (control : AccessControl ε) (request : Request) : Prop :=
  control.outcome request = .allowed ∧ control.Idle request

/-- One of the defaults, `flag`, decides. -/
structure FallsBack (control : AccessControl ε) (request : Request) (flag : Defaults → Bool)
    (denial : Denial) : Prop where
  allowed : flag control.defaults = false → control.outcome request = .allowed
  blocked : flag control.defaults = true →
    control.outcome request = .refused (.noRule denial) ∧
      (Refusal.noRule denial).name = "CRUDBlockedError" ∧
      (Refusal.noRule denial).message = denial.message ++ " - No access control rules found"
  idle : control.Idle request
  /-- Neither the other default nor the limit nor an approval matters. -/
  independent : ∀ (defaults : Defaults) (granted : Bool),
    flag defaults = flag control.defaults →
      outcome { control with defaults } (request.withApproval granted) = control.outcome request

/-- The run of an evaluator on the context of an inquiry decides. -/
structure Judged (control : AccessControl ε) (request : Request) (evaluator : ε)
    (inquiry : Inquiry) : Prop where
  allowed_iff : control.outcome request = .allowed ↔
    ∃ delay, (Evaluator.start evaluator inquiry.context).answer? = some (delay, .ok true) ∧
      ∀ t ∈ control.defaults.timeout, delay ≤ t
  denied_iff : control.outcome request = .refused (.denied inquiry.denial) ↔
    ∃ delay, (Evaluator.start evaluator inquiry.context).answer? = some (delay, .ok false) ∧
      ∀ t ∈ control.defaults.timeout, delay ≤ t
  failed_iff : ∀ text,
    control.outcome request = .refused (.unanswered inquiry.denial (.failed text)) ↔
      ∃ delay,
        (Evaluator.start evaluator inquiry.context).answer? = some (delay, .error (.failed text)) ∧
          ∀ t ∈ control.defaults.timeout, delay ≤ t
  /-- The limit is reached before the evaluator answers, or the evaluator itself answers so. -/
  timedOut_iff : ∀ t,
    control.outcome request = .refused (.unanswered inquiry.denial (.timedOut t)) ↔
      (control.defaults.timeout = some t ∧
        ∀ answer ∈ (Evaluator.start evaluator inquiry.context).answer?, t < answer.1) ∨
      ∃ delay,
        (Evaluator.start evaluator inquiry.context).answer? = some (delay, .error (.timedOut t)) ∧
          ∀ t' ∈ control.defaults.timeout, delay ≤ t'
  pending_iff : control.outcome request = .pending ↔
    control.defaults.timeout = none ∧ (Evaluator.start evaluator inquiry.context).answer? = none
  /-- The evaluator is started once, on that context, and no other evaluator is. -/
  once : ∀ type direction, control.runs request type direction =
    if some type = inquiry.type ∧ direction = inquiry.direction then [inquiry.context] else []

/-- What an inquiry comes to: one of the defaults, `flag`, without a rule, and otherwise the rule,
whatever the defaults. -/
def DecidedBy (control : AccessControl ε) (request : Request) (flag : Defaults → Bool)
    (inquiry : Inquiry) : Prop :=
  match control.rule? inquiry.type inquiry.direction with
  | none => control.FallsBack request flag inquiry.denial
  | some evaluator =>
    (if inquiry.granted then control.Passes request
      else control.Judged request evaluator inquiry) ∧
    ∀ blockInbound blockOutbound,
      outcome { control with
        defaults := { control.defaults with blockInbound, blockOutbound } } request =
      control.outcome request

variable {control : AccessControl ε} {request : Request}

private theorem idle_of_aim? (aim : (request.plan control.handle).aim? = none) :
    control.Idle request :=
  runs_of_slot?_eq_none (slot?_of_aim? aim)

theorem passes_of_plan (plan : request.plan control.handle = .pass) : control.Passes request := by
  refine ⟨?_, idle_of_aim? (by rw [plan]; rfl)⟩
  simp only [outcome, answer, plan, carryOut]

theorem refused_of_plan {refusal : Refusal}
    (plan : request.plan control.handle = .refuse refusal) :
    control.outcome request = .refused refusal ∧ control.Idle request := by
  refine ⟨?_, idle_of_aim? (by rw [plan]; rfl)⟩
  simp only [outcome, answer, plan, carryOut]

private theorem plan_withApproval_of_unruled {handle : Option QueryHandle} {direction : Direction}
    {denial : Denial} (granted : Bool) (plan : request.plan handle = .unruled direction denial) :
    (request.withApproval granted).plan handle = .unruled direction denial := by
  cases request with
  | subscribe channel socket granted' =>
    unfold Request.plan at plan
    cases h : Channel.classify channel <;> simp_all [Request.withApproval, Request.plan]
  | _ => exact plan

/-- An approval shows in an inquiry, if at all, only as having been granted. -/
private theorem plan_withApproval_of_ask {handle : Option QueryHandle} {inquiry : Inquiry}
    (granted : Bool) (plan : request.plan handle = .ask inquiry) :
    ∃ granted', (request.withApproval granted).plan handle =
      .ask { inquiry with granted := granted' } := by
  cases request with
  | subscribe channel socket granted' =>
    refine ⟨granted, ?_⟩
    unfold Request.plan at plan
    cases h : Channel.classify channel with
    | other => simp [h] at plan
    | malformed => simp [h] at plan
    | resource query =>
      simp only [h, Plan.ask.injEq] at plan
      subst plan
      simp [Request.withApproval, Request.plan, h]
  | _ => exact ⟨inquiry.granted, plan⟩

theorem outcome_of_plan_unruled {direction : Direction} {denial : Denial}
    (plan : request.plan control.handle = .unruled direction denial) :
    control.outcome request = control.fallback direction denial := by
  simp only [outcome, answer, plan, carryOut]

theorem outcome_of_no_rule {inquiry : Inquiry} (plan : request.plan control.handle = .ask inquiry)
    (unruled : control.rule? inquiry.type inquiry.direction = none) :
    control.outcome request = control.fallback inquiry.direction inquiry.denial := by
  simp only [outcome, answer, plan, carryOut, inquire_of_unruled unruled]

/-- Where the outcome is the fallback, whatever the defaults and the approval, the default for the
direction decides. -/
private theorem fallsBack_of_outcome {direction : Direction} {flag : Defaults → Bool}
    {denial : Denial} (governs : ∀ defaults : Defaults, defaults.blocks direction = flag defaults)
    (falls : ∀ (defaults : Defaults) (granted : Bool),
      outcome { control with defaults } (request.withApproval granted) =
        fallback { control with defaults } direction denial)
    (outcome_eq : control.outcome request = control.fallback direction denial)
    (idle : control.Idle request) : control.FallsBack request flag denial where
  allowed passing := by simp [outcome_eq, fallback, governs, passing]
  blocked blocking := ⟨by simp [outcome_eq, fallback, governs, blocking], rfl, rfl⟩
  idle := idle
  independent defaults granted same := by
    rw [falls, outcome_eq]
    simp only [fallback, governs, same]

theorem fallsBack_of_unruled {direction : Direction} {flag : Defaults → Bool} {denial : Denial}
    (plan : request.plan control.handle = .unruled direction denial)
    (governs : ∀ defaults : Defaults, defaults.blocks direction = flag defaults) :
    control.FallsBack request flag denial := by
  apply fallsBack_of_outcome governs
  · intro defaults granted
    have plan' := plan_withApproval_of_unruled granted plan
    simp only [outcome, answer, plan', carryOut]
  · exact outcome_of_plan_unruled plan
  · exact idle_of_aim? (by rw [plan]; rfl)

theorem fallsBack_of_ask {flag : Defaults → Bool} {inquiry : Inquiry}
    (plan : request.plan control.handle = .ask inquiry)
    (unruled : control.rule? inquiry.type inquiry.direction = none)
    (governs : ∀ defaults : Defaults, defaults.blocks inquiry.direction = flag defaults) :
    control.FallsBack request flag inquiry.denial := by
  apply fallsBack_of_outcome governs
  · intro defaults granted
    obtain ⟨granted', plan'⟩ := plan_withApproval_of_ask granted plan
    have asked : inquire { control with defaults } { inquiry with granted := granted' } =
        (_, _) := inquire_of_unruled unruled
    simp only [outcome, answer, plan', carryOut, asked]
  · exact outcome_of_no_rule plan unruled
  · apply runs_of_slot?_eq_none
    rw [slot?, request.aim?_eq_plan control.handle, plan]
    cases htype : inquiry.type with
    | none => simp [Plan.aim?, Inquiry.aim?, htype]
    | some type =>
      have empty : control.registry.lookup type inquiry.direction = none := by
        simpa [rule?, htype] using unruled
      cases hgranted : inquiry.granted <;>
        simp [Plan.aim?, Inquiry.aim?, htype, hgranted, empty]

theorem outcome_of_granted {inquiry : Inquiry} {evaluator : ε}
    (plan : request.plan control.handle = .ask inquiry)
    (ruled : control.rule? inquiry.type inquiry.direction = some evaluator)
    (granted : inquiry.granted = true) : control.outcome request = .allowed := by
  simp only [outcome, answer, plan, carryOut, inquire_of_granted ruled granted]

theorem outcome_of_ruled {inquiry : Inquiry} {evaluator : ε}
    (plan : request.plan control.handle = .ask inquiry)
    (ruled : control.rule? inquiry.type inquiry.direction = some evaluator)
    (asked : inquiry.granted = false) :
    control.outcome request =
      (Evaluator.decision evaluator inquiry.context control.defaults.timeout).1.toOutcome
        inquiry.denial := by
  obtain ⟨type, htype, hslot⟩ := Option.bind_eq_some_iff.mp ruled
  simp only [outcome, answer, plan, carryOut, inquire_of_ruled htype hslot asked]

theorem judged_of_ask {inquiry : Inquiry} {evaluator : ε}
    (plan : request.plan control.handle = .ask inquiry)
    (ruled : control.rule? inquiry.type inquiry.direction = some evaluator)
    (asked : inquiry.granted = false) : control.Judged request evaluator inquiry := by
  have means (decision : Decision) :
      control.outcome request = decision.toOutcome inquiry.denial ↔
        (Evaluator.decision evaluator inquiry.context control.defaults.timeout).1 = decision := by
    rw [outcome_of_ruled plan ruled asked]
    exact (Decision.toOutcome_injective inquiry.denial).eq_iff
  have decided := Evaluator.decided_decision evaluator inquiry.context control.defaults.timeout
  obtain ⟨type, htype, hslot⟩ := Option.bind_eq_some_iff.mp ruled
  have aimed : control.slot? request = some (type, inquiry.direction) := by
    simp [slot?, request.aim?_eq_plan control.handle, plan, Plan.aim?, Inquiry.aim?, asked, htype,
      hslot]
  constructor
  · exact (means .allowed).trans decided.allowed_iff
  · exact (means .denied).trans decided.denied_iff
  · intro text
    exact (means (.failed (.failed text))).trans (decided.failed_iff text)
  · intro t
    exact (means (.failed (.timedOut t))).trans (decided.timedOut_iff t)
  · exact (means .pending).trans decided.pending_iff
  · intro other otherDirection
    rw [runs_of_slot?_eq_some plan aimed, htype]
    simp only [Prod.mk.injEq, Option.some.injEq]

theorem decidedBy_of_ask {flag : Defaults → Bool} {inquiry : Inquiry}
    (plan : request.plan control.handle = .ask inquiry)
    (governs : ∀ defaults : Defaults, defaults.blocks inquiry.direction = flag defaults) :
    control.DecidedBy request flag inquiry := by
  unfold DecidedBy
  cases ruled : control.rule? inquiry.type inquiry.direction with
  | none => exact fallsBack_of_ask plan ruled governs
  | some evaluator =>
    cases hgranted : inquiry.granted with
    | true =>
      have free (defaults : Defaults) : outcome { control with defaults } request = .allowed :=
        outcome_of_granted plan ruled hgranted
      have idle : control.Idle request :=
        idle_of_aim? (by simp [plan, Plan.aim?, Inquiry.aim?, hgranted])
      refine ⟨⟨free control.defaults, idle⟩, ?_⟩
      intro blockInbound blockOutbound
      exact (free _).trans (free control.defaults).symm
    | false =>
      refine ⟨judged_of_ask plan ruled hgranted, ?_⟩
      intro blockInbound blockOutbound
      rw [outcome_of_ruled plan ruled hgranted]
      exact outcome_of_ruled plan ruled hgranted

/-! Channels without a resource -/

theorem publishOut_fallsBack_of_malformed {channel : String}
    (malformed : Channel.classify channel = .malformed) (data : Json) (socket : Socket) :
    control.FallsBack (.publishOut channel data socket) (·.blockOutbound) (.broadcast channel) := by
  have plan : (Request.publishOut channel data socket).plan control.handle =
      .unruled .outbound (.broadcast channel) := by simp only [Request.plan, malformed]
  exact fallsBack_of_unruled plan fun _ => rfl

theorem subscribe_fallsBack_of_malformed {channel : String}
    (malformed : Channel.classify channel = .malformed) (socket : Socket) (granted : Bool) :
    control.FallsBack (.subscribe channel socket granted) (·.blockInbound)
      (.subscription channel) := by
  have plan : (Request.subscribe channel socket granted).plan control.handle =
      .unruled .inbound (.subscription channel) := by simp only [Request.plan, malformed]
  exact fallsBack_of_unruled plan fun _ => rfl

/-- The table, request by request: what each needs, and that this alone decides it. Without a rule
`blockInbound` decides on events and subscriptions, and `blockOutbound` on what goes out. -/
theorem answer_follows_table (control : AccessControl ε) :
    (∀ event data socket, event ∉ ["create", "read", "update", "delete"] →
      control.Passes (.emit event data socket)) ∧
    (∀ action ∈ [Action.create, .read, .update, .delete], ∀ data socket,
      control.DecidedBy (.emit action.name data socket) (·.blockInbound) {
        type := (data.member? "type").bind Json.string?
        direction := .inbound
        denial := .operation ((data.member? "type").bind Json.string?) (Subject.request data).id?
        granted := false
        context := ⟨socket, action, .request data, none, control.handle, socket.token⟩ }) ∧
    (∀ channel data socket,
      match Channel.classify channel with
      | .other => control.Passes (.publishIn channel data socket)
      | _ => control.outcome (.publishIn channel data socket) = .refused .publishNotAllowed ∧
          control.Idle (.publishIn channel data socket)) ∧
    (∀ channel data socket,
      match Channel.classify channel with
      | .other => control.Passes (.publishOut channel data socket)
      | .malformed =>
        control.FallsBack (.publishOut channel data socket) (·.blockOutbound) (.broadcast channel)
      | .resource query =>
        control.DecidedBy (.publishOut channel data socket) (·.blockOutbound) {
          type := query.type
          direction := .outbound
          denial := .broadcast channel
          granted := false
          context := ⟨socket, .publish, .channel query, data, control.handle, socket.token⟩ }) ∧
    (∀ channel socket granted,
      match Channel.classify channel with
      | .other => control.Passes (.subscribe channel socket granted)
      | .malformed =>
        control.FallsBack (.subscribe channel socket granted) (·.blockInbound)
          (.subscription channel)
      | .resource query =>
        control.DecidedBy (.subscribe channel socket granted) (·.blockInbound) {
          type := query.type
          direction := .inbound
          denial := .subscription channel
          granted := granted
          context :=
            ⟨socket, .subscribe, .channel query, none, control.handle, socket.token⟩ }) ∧
    (∀ context,
      control.DecidedBy (.readFilter context) (·.blockOutbound) {
        type := context.subject.type?
        direction := .outbound
        denial := .readout context.subject.type? context.subject.id?
        granted := false
        context := { context with handle := context.handle.or control.handle } }) ∧
    ∀ request, control.Undisturbed request := by
  refine ⟨?_, ?_, ?_, ?_, ?_, ?_, control.undisturbed⟩
  · intro event data socket foreign
    apply passes_of_plan
    simp only [Request.plan, Action.ofEvent?_eq_none_iff.mpr foreign]
  · intro action crud data socket
    have read : Action.ofEvent? action.name = some action := by
      simp only [List.mem_cons, List.not_mem_nil, or_false] at crud
      rcases crud with rfl | rfl | rfl | rfl <;> rfl
    refine decidedBy_of_ask ?_ fun _ => rfl
    simp only [Request.plan, read, Subject.type?]
  · intro channel data socket
    cases h : Channel.classify channel with
    | other => exact passes_of_plan (by simp only [Request.plan, h])
    | malformed => exact refused_of_plan (by simp only [Request.plan, h])
    | resource query => exact refused_of_plan (by simp only [Request.plan, h])
  · intro channel data socket
    cases h : Channel.classify channel with
    | other => exact passes_of_plan (by simp only [Request.plan, h])
    | malformed => exact publishOut_fallsBack_of_malformed h data socket
    | resource query => exact decidedBy_of_ask (by simp only [Request.plan, h]) fun _ => rfl
  · intro channel socket granted
    cases h : Channel.classify channel with
    | other => exact passes_of_plan (by simp only [Request.plan, h])
    | malformed => exact subscribe_fallsBack_of_malformed h socket granted
    | resource query => exact decidedBy_of_ask (by simp only [Request.plan, h]) fun _ => rfl
  · intro context
    exact decidedBy_of_ask rfl fun _ => rfl

theorem isTypeName_post : isTypeName "Post" = true := rfl

/-- Posts may be changed by a rule that answers at the very last moment. By default nothing else may
come in, and everything may go out. -/
def punctual : AccessControl Script :=
  ⟨Registry.empty.overlay ⟨"Post", by decide⟩ (.single (.delayed 5 (.constant true)) .inbound),
    ⟨true, false, some 5⟩, none⟩

theorem answer_follows_table_punctual :
    punctual.Passes (.emit "ping" .null ⟨"", none⟩) ∧
      punctual.outcome (.emit "create" (.object [("type", .string "Post")]) ⟨"", none⟩) =
        .allowed ∧
      punctual.outcome (.subscribe "crud>Comment" ⟨"", none⟩ true) =
        .refused (.noRule (.subscription "crud>Comment")) ∧
      punctual.outcome (.publishOut "crud>Post" .null ⟨"", none⟩) = .allowed := by
  obtain ⟨others, events, -, broadcasts, subscriptions, -, -⟩ := answer_follows_table punctual
  refine ⟨others "ping" .null ⟨"", none⟩ (by decide), ?_, ?_, ?_⟩
  · have decided := events .create (by decide) (.object [("type", .string "Post")]) ⟨"", none⟩
    have judged : punctual.Judged _ (.delayed 5 (.constant true)) _ := decided.1
    exact judged.allowed_iff.mpr ⟨5, rfl, by decide⟩
  · have falls : punctual.FallsBack _ (·.blockInbound) _ :=
      subscriptions "crud>Comment" ⟨"", none⟩ true
    exact (falls.blocked rfl).1
  · have falls : punctual.FallsBack _ (·.blockOutbound) _ :=
      broadcasts "crud>Post" .null ⟨"", none⟩
    exact falls.allowed rfl

end AccessControl

end ChannelGuard
