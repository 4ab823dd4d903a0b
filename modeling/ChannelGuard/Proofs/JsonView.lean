import ChannelGuard.Proofs.DecisionTable
import ChannelGuard.Proofs.QueryWireForm

/-!
# Rules that read only the JSON view

A rule that sees a context through its JSON view alone, as every condition does, cannot tell two
requests apart that ask the same question under the same view. So the read filter decides in one way
about a query and about the wire form of that query.
-/

namespace ChannelGuard

/-- The runs of an evaluator depend on nothing of the context but its JSON view. -/
def ReadsView {ε : Type} [Evaluator ε] (evaluator : ε) : Prop :=
  ∀ context other : Context, context.toJson = other.toJson →
    Evaluator.start evaluator context = Evaluator.start evaluator other

theorem Condition.readsView (condition : Condition) : ReadsView condition := by
  intro context other same
  simp only [Evaluator.start, same]

/-- Two questions for the same rule, with contexts that look the same. -/
structure Inquiry.Alike (inquiry other : Inquiry) : Prop where
  type_eq : inquiry.type = other.type
  direction_eq : inquiry.direction = other.direction
  denial_eq : inquiry.denial = other.denial
  granted_eq : inquiry.granted = other.granted
  view_eq : inquiry.context.toJson = other.context.toJson

/-- Two plans between which rules that read only views cannot tell. -/
inductive Plan.Alike : Plan → Plan → Prop where
  | same (plan : Plan) : Alike plan plan
  | ask {inquiry other : Inquiry} (alike : inquiry.Alike other) : Alike (.ask inquiry) (.ask other)

namespace AccessControl

variable {ε : Type} [Evaluator ε] {control : AccessControl ε}

/-- All rules read only views. -/
def ReadsViews (control : AccessControl ε) : Prop :=
  ∀ type direction evaluator, control.registry.lookup type direction = some evaluator →
    ReadsView evaluator

theorem readsViews_of_conditions (control : AccessControl Condition) : control.ReadsViews :=
  fun _ _ condition _ => condition.readsView

theorem inquire_eq_of_alike (reads : control.ReadsViews) {inquiry other : Inquiry}
    (alike : inquiry.Alike other) : control.inquire inquiry = control.inquire other := by
  cases rule : control.rule? inquiry.type inquiry.direction with
  | none =>
    have rule' : control.rule? other.type other.direction = none := by
      rw [← alike.type_eq, ← alike.direction_eq, rule]
    rw [inquire_of_unruled rule, inquire_of_unruled rule', alike.direction_eq, alike.denial_eq]
  | some evaluator =>
    have rule' : control.rule? other.type other.direction = some evaluator := by
      rw [← alike.type_eq, ← alike.direction_eq, rule]
    cases asked : inquiry.granted with
    | true =>
      rw [inquire_of_granted rule asked, inquire_of_granted rule' (alike.granted_eq ▸ asked)]
    | false =>
      obtain ⟨type, typed, slot⟩ := Option.bind_eq_some_iff.mp rule
      obtain ⟨type', typed', slot'⟩ := Option.bind_eq_some_iff.mp rule'
      have run : Evaluator.decision evaluator inquiry.context control.defaults.timeout =
          Evaluator.decision evaluator other.context control.defaults.timeout := by
        unfold Evaluator.decision
        rw [reads type inquiry.direction evaluator slot _ _ alike.view_eq]
      have same : type = type' :=
        Option.some.inj (typed.symm.trans (alike.type_eq.trans typed'))
      rw [inquire_of_ruled typed slot asked,
        inquire_of_ruled typed' slot' (alike.granted_eq ▸ asked), run, same, alike.direction_eq,
        alike.denial_eq]

theorem carryOut_eq_of_alike (reads : control.ReadsViews) {plan other : Plan}
    (alike : plan.Alike other) : control.carryOut plan = control.carryOut other := by
  cases alike with
  | same => rfl
  | ask alike => exact inquire_eq_of_alike reads alike

end AccessControl

/-! Connections, contexts and requests that look alike -/

/-- Two connections with the same view: a null token looks like none. -/
structure Socket.Alike (socket other : Socket) : Prop where
  id_eq : socket.id = other.id
  token_eq : socket.token.getD .null = other.token.getD .null

/-- Two contexts that differ only in what has the same view. -/
structure Context.Alike (context other : Context) : Prop where
  id_eq : context.socket.id = other.socket.id
  action_eq : context.action = other.action
  subject_eq : context.subject = other.subject
  resource_eq : context.resource.getD .null = other.resource.getD .null
  token_eq : context.token.getD .null = other.token.getD .null

/-- Two requests that differ only in what has the same view. -/
inductive Request.Alike : Request → Request → Prop where
  | emit {event : String} {data : Json} {socket other : Socket} (alike : socket.Alike other) :
      Alike (.emit event data socket) (.emit event data other)
  | publishIn {channel : String} {data : Json} {socket other : Socket}
      (alike : socket.Alike other) :
      Alike (.publishIn channel data socket) (.publishIn channel data other)
  | publishOut {channel : String} {data : Json} {socket other : Socket}
      (alike : socket.Alike other) :
      Alike (.publishOut channel data socket) (.publishOut channel data other)
  | subscribe {channel : String} {socket other : Socket} {granted : Bool}
      (alike : socket.Alike other) :
      Alike (.subscribe channel socket granted) (.subscribe channel other granted)
  | readFilter {context other : Context} (alike : context.Alike other) :
      Alike (.readFilter context) (.readFilter other)

theorem Context.Alike.view_eq {context other : Context} (alike : context.Alike other) :
    context.toJson = other.toJson := by
  simp only [toJson, alike.id_eq, alike.action_eq, alike.subject_eq, alike.resource_eq,
    alike.token_eq]

/-- Connections that look alike make contexts that do. -/
theorem Socket.Alike.context {socket other : Socket} (alike : socket.Alike other)
    (action : Action) (subject : Subject) {resource resource' : Option Json}
    (resource_eq : resource.getD .null = resource'.getD .null) (handle : Option QueryHandle) :
    Context.Alike ⟨socket, action, subject, resource, handle, socket.token⟩
      ⟨other, action, subject, resource', handle, other.token⟩ :=
  ⟨alike.id_eq, rfl, rfl, resource_eq, alike.token_eq⟩

theorem Request.Alike.plan {request other : Request} (alike : request.Alike other)
    (handle : Option QueryHandle) : (request.plan handle).Alike (other.plan handle) := by
  cases alike with
  | @emit event data socket other alike =>
    simp only [Request.plan]
    cases Action.ofEvent? event with
    | none => exact .same _
    | some action => exact .ask ⟨rfl, rfl, rfl, rfl, (alike.context action _ rfl handle).view_eq⟩
  | publishIn alike => exact .same _
  | @publishOut channel data socket other alike =>
    simp only [Request.plan]
    cases Channel.classify channel with
    | resource query =>
      exact .ask ⟨rfl, rfl, rfl, rfl, (alike.context .publish _ rfl handle).view_eq⟩
    | _ => exact .same _
  | @subscribe channel socket other granted alike =>
    simp only [Request.plan]
    cases Channel.classify channel with
    | resource query =>
      exact .ask ⟨rfl, rfl, rfl, rfl, (alike.context .subscribe _ rfl handle).view_eq⟩
    | _ => exact .same _
  | readFilter alike =>
    have view_eq := alike.view_eq
    exact .ask {
      type_eq := by rw [alike.subject_eq]
      direction_eq := rfl
      denial_eq := by rw [alike.subject_eq]
      granted_eq := rfl
      view_eq }

theorem AccessControl.answer_eq_of_alike {ε : Type} [Evaluator ε] {control : AccessControl ε}
    (reads : control.ReadsViews) {request other : Request} (alike : request.Alike other) :
    control.answer request = control.answer other :=
  carryOut_eq_of_alike reads (alike.plan control.handle)

/-! Queries and their wire forms -/

theorem Subject.type?_request_toJson (query : ResourceQuery) :
    (request query.toJson).type? = (channel query).type? := by
  rw [type?, query.member?_type_toJson]
  rfl

theorem Subject.id?_request_toJson (query : ResourceQuery) :
    (request query.toJson).id? = (channel query).id? := by
  rw [id?, query.member?_id_toJson]
  cases h : query.id? <;> simp [id?, h]

namespace AccessControl

/-- A query and its wire form are one and the same to the read filter, as long as the rules read
only views. -/
theorem readFilter_forms_agree :
    (∀ condition : Condition, ReadsView condition) ∧
    ∀ {ε : Type} [Evaluator ε] (control : AccessControl ε), control.ReadsViews →
      ∀ (query : ResourceQuery) (socket : Socket) (action : Action) (resource : Option Json)
        (handle : Option QueryHandle) (token : Option Json),
        let parsed : Context := ⟨socket, action, .channel query, resource, handle, token⟩
        let written : Context := ⟨socket, action, .request query.toJson, resource, handle, token⟩
        control.answer (.readFilter parsed) = control.answer (.readFilter written) ∧
        parsed.subject.type? = written.subject.type? ∧
        parsed.subject.id? = written.subject.id? ∧
        parsed.toJson = written.toJson := by
  refine ⟨Condition.readsView, ?_⟩
  intro ε _ control reads query socket action resource handle token parsed written
  have type_eq : parsed.subject.type? = written.subject.type? :=
    (Subject.type?_request_toJson query).symm
  have id_eq : parsed.subject.id? = written.subject.id? :=
    (Subject.id?_request_toJson query).symm
  refine ⟨carryOut_eq_of_alike reads (.ask ?_), type_eq, id_eq, rfl⟩
  exact {
    type_eq := type_eq
    direction_eq := rfl
    denial_eq := by rw [type_eq, id_eq]
    granted_eq := rfl
    view_eq := rfl }

/-- A condition on all posts that are let out. -/
def guardingPosts (condition : Condition) : AccessControl Condition :=
  ⟨Registry.empty.overlay ⟨"Post", isTypeName_post⟩ (.single condition .outbound),
    ⟨false, true, none⟩, none⟩

/-- Posts may be read through one view only. -/
theorem readFilter_forms_agree_recent :
    let control := guardingPosts ⟨"query.view == \"recent\"",
      .binary (.relation .eq) (.path ["query", "view"]) (.literal (.string "recent"))⟩
    let view : ResourceQuery := .view "recent" "Post" (some .null)
    let model : ResourceQuery := .model "Post" (some "42") none
    let context (subject : Subject) : Context := ⟨⟨"", none⟩, .read, subject, none, none, none⟩
    control.outcome (.readFilter (context (.request view.toJson))) = .allowed ∧
      control.outcome (.readFilter (context (.request model.toJson))) =
        .refused (.denied (.readout (some "Post") (some "42"))) := by
  intro control view model context
  have agree := readFilter_forms_agree.2 control (readsViews_of_conditions _)
  constructor
  · have same := (agree view ⟨"", none⟩ .read none none none).1
    rw [outcome, ← same]
    decide +kernel
  · have same := (agree model ⟨"", none⟩ .read none none none).1
    rw [outcome, ← same]
    decide +kernel

end AccessControl

end ChannelGuard
