import ChannelGuard.Proofs.JsonView

/-!
# What rules get to see

A rule is found by a type, and what it decides on is the JSON view of a context. Both come from the
request by ways of their own: the type from the payload or from the name of a channel, the view from
the context that is put together. They agree: a rule never runs in sight of a query of another type,
and the view shows the request that was made and nothing else.
-/

namespace ChannelGuard

/-- What an evaluator that a request starts is to be shown. -/
structure Showing where
  action : String
  query : Json
  resource : Json
  token : Option Json
  socketId : String
  handle : Option QueryHandle

/-- The object with all that conditions may look into. -/
def Showing.view (shown : Showing) : Json :=
  .object [
    ("action", .string shown.action),
    ("authToken", shown.token.getD .null),
    ("query", shown.query),
    ("resource", shown.resource),
    ("socket", .object [("id", .string shown.socketId)])]

/-- What there is to show of a request, where `own` is the handle of the access control. An event is
shown with its raw payload and a channel by the wire form of its query, both with the token of the
connection. Data show only on their way out. A readout shows the token that its context holds,
whatever the connection holds, and only a readout may bring a handle along. -/
inductive Request.Shows (own : Option QueryHandle) : Request → Showing → Prop where
  | emit (event : String) (data : Json) (socket : Socket) :
      Shows own (.emit event data socket) ⟨event, data, .null, socket.token, socket.id, own⟩
  | publishOut {channel : String} {query : ResourceQuery} (data : Json) (socket : Socket)
      (named : ResourceQuery.ofChannel? channel = some query) :
      Shows own (.publishOut channel data socket)
        ⟨"publish", query.toJson, data, socket.token, socket.id, own⟩
  | subscribe {channel : String} {query : ResourceQuery} (socket : Socket)
      (named : ResourceQuery.ofChannel? channel = some query) :
      Shows own (.subscribe channel socket false)
        ⟨"subscribe", query.toJson, .null, socket.token, socket.id, own⟩
  | readFilter (context : Context) :
      Shows own (.readFilter context)
        ⟨context.action.name, context.subject.toJson, context.resource.getD .null, context.token,
          context.socket.id, context.handle.or own⟩

/-! Types and views -/

theorem Action.name_of_ofEvent? {event : String} {action : Action}
    (read : ofEvent? event = some action) : action.name = event := by
  unfold ofEvent? at read
  split at read <;> cases read <;> rfl

/-- The type that a subject is looked up by stands in its JSON form. -/
theorem Subject.member?_type_of_type? {subject : Subject} {type : String}
    (typed : subject.type? = some type) :
    subject.toJson.member? "type" = some (.string type) := by
  cases subject with
  | request payload =>
    obtain ⟨value, found, text⟩ := Option.bind_eq_some_iff.mp typed
    cases value with
    | string s =>
      cases text
      exact found
    | _ => cases text
  | channel query =>
    cases typed
    exact query.member?_type_toJson

theorem Context.toJson_eq_view (context : Context) :
    context.toJson =
      Showing.view ⟨context.action.name, context.subject.toJson, context.resource.getD .null,
        context.token, context.socket.id, context.handle⟩ := rfl

/-- A question that has not been granted has the context that the request shows. -/
theorem Request.exists_shows_of_plan {request : Request} {own : Option QueryHandle}
    {inquiry : Inquiry} (plan : request.plan own = .ask inquiry)
    (asked : inquiry.granted = false) :
    ∃ shown, request.Shows own shown ∧ inquiry.context.toJson = shown.view ∧
      inquiry.context.subject.toJson = shown.query ∧ inquiry.context.handle = shown.handle ∧
      inquiry.type = inquiry.context.subject.type? := by
  cases request with
  | emit event data socket =>
    cases read : Action.ofEvent? event with
    | none => simp [Request.plan, read] at plan
    | some action =>
      simp only [Request.plan, read, Plan.ask.injEq] at plan
      subst plan
      refine ⟨_, .emit event data socket, ?_, rfl, rfl, rfl⟩
      rw [Context.toJson_eq_view, Action.name_of_ofEvent? read]
      rfl
  | publishIn channel data socket =>
    cases found : Channel.classify channel <;> simp [Request.plan, found] at plan
  | publishOut channel data socket =>
    cases found : Channel.classify channel with
    | other | malformed => simp [Request.plan, found] at plan
    | resource query =>
      have named : ResourceQuery.ofChannel? channel = some query := by
        rw [ResourceQuery.ofChannel?, found, Channel.query?]
      simp only [Request.plan, found, Plan.ask.injEq] at plan
      subst plan
      exact ⟨_, .publishOut data socket named, rfl, rfl, rfl, rfl⟩
  | subscribe channel socket granted =>
    cases found : Channel.classify channel with
    | other | malformed => simp [Request.plan, found] at plan
    | resource query =>
      have named : ResourceQuery.ofChannel? channel = some query := by
        rw [ResourceQuery.ofChannel?, found, Channel.query?]
      simp only [Request.plan, found, Plan.ask.injEq] at plan
      subst plan
      cases asked
      exact ⟨_, .subscribe socket named, rfl, rfl, rfl, rfl⟩
  | readFilter context =>
    simp only [Request.plan, Plan.ask.injEq] at plan
    subst plan
    exact ⟨_, .readFilter context, rfl, rfl, rfl, rfl⟩

namespace AccessControl

variable {ε : Type} [Evaluator ε] {control : AccessControl ε} {request : Request} {type : String}
  {direction : Direction} {context : Context}

/-- A run that a request starts comes from its question for that very slot. -/
theorem exists_plan_of_mem_runs (started : context ∈ control.runs request type direction) :
    ∃ inquiry, request.plan control.handle = .ask inquiry ∧ inquiry.granted = false ∧
      inquiry.type = some type ∧ inquiry.direction = direction ∧ inquiry.context = context := by
  cases aimed : control.slot? request with
  | none =>
    rw [runs_of_slot?_eq_none aimed] at started
    cases started
  | some slot =>
    obtain ⟨inquiry, -, plan, typed, turned, asked, -, -⟩ := answer_of_slot?_eq_some aimed
    rw [runs_of_slot?_eq_some plan aimed] at started
    by_cases here : (type, direction) = slot
    · subst here
      rw [if_pos rfl] at started
      exact ⟨inquiry, plan, asked, typed, turned, (List.mem_singleton.mp started).symm⟩
    · rw [if_neg here] at started
      cases started

/-- Whatever rule a request starts sees that request, and a query of the type that the rule is
for. -/
theorem runs_show_request (started : context ∈ control.runs request type direction) :
    control.Undisturbed request ∧
      ∃ shown, request.Shows control.handle shown ∧ context.toJson = shown.view ∧
        shown.query.member? "type" = some (.string type) ∧ context.handle = shown.handle := by
  refine ⟨control.undisturbed request, ?_⟩
  obtain ⟨inquiry, plan, asked, typed, -, rfl⟩ := exists_plan_of_mem_runs started
  obtain ⟨shown, shows, view, query, handle, looked⟩ := request.exists_shows_of_plan plan asked
  have subject_typed : inquiry.context.subject.type? = some type := looked.symm.trans typed
  have query_typed := Subject.member?_type_of_type? subject_typed
  rw [query] at query_typed
  exact ⟨shown, shows, view, query_typed, handle⟩

/-- Readouts of posts are watched over, by default with the first handle. -/
def readable : AccessControl Script :=
  ⟨Registry.empty.overlay ⟨"Post", isTypeName_post⟩ (.single (.constant true) .outbound),
    ⟨true, true, none⟩, some 1⟩

/-- A readout with a handle of its own shows that one, and the token that its connection had. -/
theorem runs_show_request_readout :
    let post : Json := .object [("id", .string "7"), ("type", .string "Post")]
    let context : Context := {
      socket := ⟨"s1", some (.string "u7")⟩
      action := .update
      subject := .request post
      resource := none
      handle := some 2 }
    context ∈ readable.runs (.readFilter context) "Post" .outbound ∧
      context.toJson = .object [("action", .string "update"), ("authToken", .string "u7"),
        ("query", post), ("resource", .null), ("socket", .object [("id", .string "s1")])] ∧
      post.member? "type" = some (.string "Post") ∧
      context.handle = (some 2 : Option QueryHandle).or readable.handle := by
  intro post context
  have run : readable.runs (.readFilter context) "Post" .outbound = [context] := rfl
  have started : context ∈ readable.runs (.readFilter context) "Post" .outbound := by
    rw [run]
    exact List.mem_singleton_self context
  obtain ⟨-, shown, shows, view, typed, handle⟩ := runs_show_request started
  cases shows
  exact ⟨started, view, typed, handle⟩

/-- A context that holds a token shows it, even when its connection has none any more. -/
theorem runs_show_held_token :
    let context : Context :=
      ⟨⟨"s1", none⟩, .read, .request (.object [("type", .string "Post")]), none, some 2,
        some (.string "u7")⟩
    context ∈ readable.runs (.readFilter context) "Post" .outbound ∧
      context.toJson.member? "authToken" = some (.string "u7") ∧
      context.toJson.member? "authToken" ≠ some (context.socket.token.getD .null) := by
  intro context
  have run : readable.runs (.readFilter context) "Post" .outbound = [context] := rfl
  have shown : context.toJson.member? "authToken" = some (.string "u7") := rfl
  refine ⟨?_, shown, ?_⟩
  · rw [run]
    exact List.mem_singleton_self context
  · rw [shown]
    simp [context]

end AccessControl

end ChannelGuard
