import ChannelGuard.Api.Router
import ChannelGuard.Proofs.DeclaredRules
import ChannelGuard.Proofs.JsonText
import ChannelGuard.Proofs.JsonView
import ChannelGuard.Proofs.RecordForms

/-!
# Decisions over HTTP

Each kind of request has a route, and a body stands for a request in many forms: as an object or an
array, with defaults written or left out. In whatever form it comes, the answer over HTTP is the
decision on the request.
-/

namespace ChannelGuard

open Json (Field FieldReading Outline)

/-! Bodies -/

/-- A connection, of which the anonymous one with an empty name may be left out. -/
def Json.Field.socket (socket : Socket) : Field where
  name := "socket"
  writes := (·.IsRecord [.text "id" socket.id, .nullable "authToken" (socket.token.getD .null)])
  optional := socket.id = "" ∧ socket.token.getD .null = .null

namespace Api

/-- The bodies that stand for a request, and the path they are sent to. What is to be read out comes
as a payload, and without a handle. -/
inductive Encodes : Request → String → Outline → Prop where
  | emit {event : String} {data : Json} {socket : Socket} {outline : Outline}
      (record : outline.IsRecord [.text "event" event, .nullable "data" data, .socket socket]) :
      Encodes (.emit event data socket) "/v1/emit" outline
  | publishIn {channel : String} {data : Json} {socket : Socket} {outline : Outline}
      (record : outline.IsRecord
        [.text "channel" channel, .nullable "data" data, .socket socket]) :
      Encodes (.publishIn channel data socket) "/v1/publish-in" outline
  | publishOut {channel : String} {data : Json} {socket : Socket} {outline : Outline}
      (record : outline.IsRecord
        [.text "channel" channel, .nullable "data" data, .socket socket]) :
      Encodes (.publishOut channel data socket) "/v1/publish-out" outline
  | subscribe {channel : String} {socket : Socket} {granted : Bool} {outline : Outline}
      (record : outline.IsRecord
        [.text "channel" channel, .socket socket, .flag "allowCrudAccess" granted]) :
      Encodes (.subscribe channel socket granted) "/v1/subscribe" outline
  | readFilter {payload : Json} {resource : Option Json} {socket : Socket} {outline : Outline}
      (record : outline.IsRecord [.value "query" payload,
        .nullable "resource" (resource.getD .null), .socket socket]) :
      Encodes (.readFilter ⟨socket, .read, .request payload, resource, none, socket.token⟩)
        "/v1/read-filter" outline

/-! Fields as the routes read them -/

variable {depth : Nat} {body : Json} {name : String}

theorem textOf_of_heldBy {value : String}
    (held : (FieldReading.text name value : FieldReading depth).HeldBy body) :
    textOf body name = value := by
  obtain ⟨_, (there : body.member? name = _), rfl⟩ | ⟨-, ⟨⟩⟩ := held.found_or_missing
  simp [textOf, there, Json.string?]

theorem flagOf_of_heldBy {value : Bool}
    (held : (FieldReading.flag name value : FieldReading depth).HeldBy body) :
    flagOf body name = value := by
  obtain ⟨_, (there : body.member? name = _), rfl⟩ | ⟨(missing : body.member? name = _), rfl⟩ :=
    held.found_or_missing
  · simp [flagOf, there]
  · simp [flagOf, missing]

theorem valueOf_of_heldBy {value : Json}
    (held : (FieldReading.value name value : FieldReading depth).HeldBy body) :
    valueOf body name = value := by
  obtain ⟨_, (there : body.member? name = _), rfl⟩ | ⟨-, ⟨⟩⟩ := held.found_or_missing
  simp [valueOf, there]

theorem valueOf_of_heldBy_nullable {value : Json}
    (held : (FieldReading.nullable name value : FieldReading depth).HeldBy body) :
    valueOf body name = value := by
  obtain ⟨_, (there : body.member? name = _), rfl⟩ | ⟨(missing : body.member? name = _), rfl⟩ :=
    held.found_or_missing
  · simp [valueOf, there]
  · simp [valueOf, missing]

theorem present?_getD (body : Json) (name : String) :
    (present? body name).getD .null = valueOf body name := by
  unfold present? valueOf
  cases body.member? name with
  | none => rfl
  | some value => cases value <;> rfl

/-- A connection is found in every form of its record. -/
theorem decode_socket {socket : Socket} {outline : Outline}
    (written : (Field.socket socket).writes outline) (shallow : outline.nesting ≤ depth + 1)
    (whole : outline.isWhole = true) :
    ∃ value, socketShape.decode (depth + 1) outline = .ok value ∧
      socket.Alike ⟨textOf value "id", present? value "authToken"⟩ := by
  have distinct : ["id", "authToken"].Nodup := by decide
  obtain ⟨value, decoded, held⟩ := FieldReading.decode_isRecord
    [.text "id" socket.id, .nullable "authToken" (socket.token.getD .null)]
    distinct written whole shallow
  obtain ⟨named, signed, -⟩ := by simpa only [List.forall_mem_cons] using held
  refine ⟨value, decoded, (textOf_of_heldBy named).symm, ?_⟩
  rw [present?_getD, valueOf_of_heldBy_nullable signed]

def socketReading (socket : Socket) : FieldReading (depth + 1) where
  field := .socket socket
  shape := socketShape
  needed := false
  means value := socket.Alike ⟨textOf value "id", present? value "authToken"⟩
  decodes := fun _ written shallow whole => decode_socket written shallow whole
  needed_eq := fun _ => rfl

theorem alike_of_heldBy {socket : Socket}
    (held : (socketReading socket : FieldReading (depth + 1)).HeldBy body) :
    socket.Alike (socketOf body) := by
  obtain ⟨value, (there : body.member? "socket" = _), alike⟩ |
    ⟨(missing : body.member? "socket" = _), anonymous⟩ := held.found_or_missing
  · have value_eq : valueOf body "socket" = value := by simp [valueOf, there]
    rw [socketOf, value_eq]
    exact alike
  · have value_eq : valueOf body "socket" = .null := by simp [valueOf, missing]
    rw [socketOf, value_eq]
    exact ⟨anonymous.1, anonymous.2⟩

/-- The three fields of a body are found in every form of it. -/
theorem decode_body (first second third : FieldReading (Json.maxDepth - 1))
    (distinct : [first.name, second.name, third.name].Nodup) {outline : Outline}
    (record : outline.IsRecord [first.field, second.field, third.field])
    (whole : outline.isWhole = true) (shallow : outline.nesting ≤ Json.maxDepth) :
    ∃ body, Json.Shape.decode Json.maxDepth (.record [first.entry, second.entry, third.entry])
        outline = .ok body ∧
      first.HeldBy body ∧ second.HeldBy body ∧ third.HeldBy body := by
  obtain ⟨body, decoded, held⟩ :=
    FieldReading.decode_isRecord [first, second, third] distinct record whole shallow
  obtain ⟨first_held, second_held, third_held, -⟩ := by simpa only [List.forall_mem_cons] using held
  exact ⟨body, decoded, first_held, second_held, third_held⟩

/-- A message goes with the name of an event or channel, data and a connection. -/
theorem decode_message {name value : String} {data : Json} {socket : Socket} {outline : Outline}
    (distinct : [name, "data", "socket"].Nodup)
    (record : outline.IsRecord [.text name value, .nullable "data" data, .socket socket])
    (whole : outline.isWhole = true) (shallow : outline.nesting ≤ Json.maxDepth) :
    ∃ body, Json.Shape.decode Json.maxDepth
        (.record [(name, .string, true), ("data", .any, false), ("socket", socketShape, false)])
        outline = .ok body ∧
      textOf body name = value ∧ valueOf body "data" = data ∧ socket.Alike (socketOf body) := by
  obtain ⟨body, decoded, named, given, connected⟩ := decode_body (.text name value)
    (.nullable "data" data) (socketReading socket) distinct record whole shallow
  exact ⟨body, decoded, textOf_of_heldBy named, valueOf_of_heldBy_nullable given,
    alike_of_heldBy connected⟩

/-- A body that stands for a request is read on its path as a request that looks the same. -/
theorem Encodes.read {request : Request} {path : String} {outline : Outline}
    (encodes : Encodes request path outline) (whole : outline.isWhole = true)
    (shallow : outline.nesting ≤ Json.maxDepth) :
    ∃ shape toRequest body, Api.route? path = some (.decide shape toRequest) ∧
      shape.decode Json.maxDepth outline = .ok body ∧ request.Alike (toRequest body) := by
  cases encodes with
  | emit record =>
    obtain ⟨body, decoded, rfl, rfl, connected⟩ :=
      decode_message (by decide) record whole shallow
    exact ⟨emitShape, _, body, rfl, decoded, .emit connected⟩
  | publishIn record =>
    obtain ⟨body, decoded, rfl, rfl, connected⟩ :=
      decode_message (by decide) record whole shallow
    exact ⟨publishShape, _, body, rfl, decoded, .publishIn connected⟩
  | publishOut record =>
    obtain ⟨body, decoded, rfl, rfl, connected⟩ :=
      decode_message (by decide) record whole shallow
    exact ⟨publishShape, _, body, rfl, decoded, .publishOut connected⟩
  | @subscribe channel socket granted outline record =>
    have distinct : ["channel", "socket", "allowCrudAccess"].Nodup := by decide
    obtain ⟨body, decoded, named, connected, approved⟩ := decode_body (.text "channel" channel)
      (socketReading socket) (.flag "allowCrudAccess" granted) distinct record whole shallow
    refine ⟨subscribeShape, _, body, rfl, decoded, ?_⟩
    rw [textOf_of_heldBy named, flagOf_of_heldBy approved]
    exact .subscribe (alike_of_heldBy connected)
  | @readFilter payload resource socket outline record =>
    have distinct : ["query", "resource", "socket"].Nodup := by decide
    obtain ⟨body, decoded, asked, shown, connected⟩ := decode_body (.value "query" payload)
      (.nullable "resource" (resource.getD .null)) (socketReading socket) distinct record whole
      shallow
    refine ⟨readFilterShape, _, body, rfl, decoded, ?_⟩
    rw [valueOf_of_heldBy asked]
    refine .readFilter ((alike_of_heldBy connected).context .read _ ?_ none)
    rw [present?_getD, valueOf_of_heldBy_nullable shown]

/-! Answers -/

/-- A path that names no host and has no query is routed as it stands. -/
theorem route?_of_path {method path body : String} {contentType : Option String} {rest : List Char}
    (rooted : path.toList = '/' :: rest) (plain : ∀ c ∈ path.toList, c ∉ ['?', '#']) :
    (HttpRequest.mk method path contentType body).route? = Api.route? path := by
  have noQuery : path.toList.takeWhile (fun c => c != '?' && c != '#') = path.toList := by
    rw [List.takeWhile_eq_self_iff]
    intro c hc
    simpa using plain c hc
  have path_eq : HttpRequest.route? ⟨method, path, contentType, body⟩ =
      Api.route? (String.ofList (path.toList.takeWhile fun c => c != '?' && c != '#')) := by
    simp only [HttpRequest.route?, rooted]
    rfl
  rw [path_eq, noQuery, String.ofList_toList]

theorem Encodes.route?_eq {request : Request} {path : String} {outline : Outline}
    (encodes : Encodes request path outline) (contentType : Option String) (body : String) :
    HttpRequest.route? ⟨"POST", path, contentType, body⟩ = Api.route? path := by
  cases encodes with
  | _ => exact route?_of_path rfl (by simp)

theorem ofOutcome_eq_allowed_iff {outcome : Outcome} :
    HttpResponse.ofOutcome outcome = some ⟨200, .json (.ofMembers [("allowed", .bool true)])⟩ ↔
      outcome = .allowed := by
  cases outcome <;> simp [HttpResponse.ofOutcome]

/-- A request sent in any of its forms is answered, and leaves the rules, as when it is decided
on directly. -/
theorem respond_eq_answer {ε : Type} [Evaluator ε] {control : AccessControl ε}
    (reads : control.ReadsViews) {request : Request} {path : String} {outline : Outline}
    (encodes : Encodes request path outline) (shallow : outline.nesting ≤ Json.maxDepth)
    {body : String} (written : Json.PaddedText body.toList outline) {contentType : String}
    (announced : isJsonContentType contentType = true) :
    respond control ⟨"POST", path, some contentType, body⟩ =
      (HttpResponse.ofOutcome (control.answer request).1, (control.answer request).2) := by
  obtain ⟨shape, toRequest, found, routed, decoded, alike⟩ :=
    encodes.read written.isWhole shallow
  have body_read : shape.read body = .ok found := by
    simp [Json.Shape.read, Outline.ofText_eq written, decoded]
  have accepted : HttpRequest.decode ⟨"POST", path, some contentType, body⟩ shape = .ok found := by
    simp [HttpRequest.decode, announced, body_read, Except.mapError]
  rw [AccessControl.answer_eq_of_alike reads alike]
  simp only [respond, encodes.route?_eq, routed, if_true, accepted]

/-- Over compiled policies, whatever form a request is sent in, the service allows it if and only if
the decision on it does, and tells the refusal otherwise. -/
theorem routes_decide (control : AccessControl Condition) {request : Request} {path : String}
    {outline : Outline} (encodes : Encodes request path outline)
    (shallow : outline.nesting ≤ Json.maxDepth) {body : String}
    (written : Json.PaddedText body.toList outline) {contentType : String}
    (announced : isJsonContentType contentType = true) :
    let response := (respond control ⟨"POST", path, some contentType, body⟩).1
    (response = some ⟨200, .json (.ofMembers [("allowed", .bool true)])⟩ ↔
      control.outcome request = .allowed) ∧
    (control.outcome request ≠ .allowed → ∃ refusal,
      control.outcome request = .refused refusal ∧
      response = some ⟨403, .json (.ofMembers [("allowed", .bool false),
        ("error", .ofMembers [("name", .string refusal.name),
          ("message", .string refusal.message)])])⟩) ∧
    (respond control ⟨"POST", path, some contentType, body⟩).2 = (control.answer request).2 := by
  have answered := respond_eq_answer control.readsViews_of_conditions encodes shallow written
    announced
  intro response
  have response_eq : response = HttpResponse.ofOutcome (control.outcome request) :=
    congrArg Prod.fst answered
  refine ⟨?_, ?_, congrArg Prod.snd answered⟩
  · rw [response_eq, ofOutcome_eq_allowed_iff]
  · intro notAllowed
    have decided := control.outcome_ne_pending request
    cases ended : control.outcome request with
    | allowed => exact absurd ended notAllowed
    | pending => exact absurd ended decided
    | refused refusal => exact ⟨refusal, rfl, by rw [response_eq, ended]; rfl⟩

/-- A condition that lets nobody subscribe to posts. -/
def closedPosts : AccessControl Condition :=
  ⟨Registry.empty.overlay ⟨"Post", AccessControl.isTypeName_post⟩
    (.single ⟨"false", .literal (.bool false)⟩ .inbound), ⟨false, false, none⟩, none⟩

/-- An approval among other members counts, and one that is left out is none. -/
theorem routes_decide_approval :
    let approving := "\x7b\"note\":[],\"allowCrudAccess\":true,\"channel\":\"crud>Post\"\x7d"
    let silent := "[\"crud>Post\"]"
    let answer (body : String) :=
      (respond closedPosts ⟨"POST", "/v1/subscribe", some "application/json", body⟩).1
    answer approving = some ⟨200, .json (.ofMembers [("allowed", .bool true)])⟩ ∧
    answer silent = some ⟨403, .json (.ofMembers [("allowed", .bool false),
      ("error", .ofMembers [("name", .string "CRUDBlockedError"),
        ("message", .string "Cannot subscribe to crud>Post channel")])])⟩ := by
  have json : isJsonContentType "application/json" = true := by decide +kernel
  have channel_text : Json.ValueText _ (.string (some "crud>Post")) :=
    Json.valueText_plain (by simp)
  constructor
  · have note : Json.NameText _ (some "note") := Json.nameText_plain (by simp)
    have approval : Json.NameText _ (some "allowCrudAccess") := Json.nameText_plain (by simp)
    have channel : Json.NameText _ (some "channel") := Json.nameText_plain (by simp)
    have nothing : Json.Blank [] := by simp [Json.Blank]
    have written : Json.PaddedText
        "\x7b\"note\":[],\"allowCrudAccess\":true,\"channel\":\"crud>Post\"\x7d".toList _ :=
      (Json.ValueText.object (.more note (Json.ValueText.noItems nothing).padded
        (.more approval Json.ValueText.true.padded (.last channel channel_text.padded)))).padded
    have record := @Outline.IsRecord.object [.text "channel" "crud>Post", .socket ⟨"", none⟩,
        .flag "allowCrudAccess" true]
      [("note", .array [] true), ("allowCrudAccess", .bool true),
        ("channel", .string (some "crud>Post"))]
      (by simp [Json.AtMostOnce, Field.text, Field.socket, Field.flag])
    exact (routes_decide closedPosts (.subscribe record) (by decide) written json).1.mpr
      (by decide +kernel)
  · have written : Json.PaddedText "[\"crud>Post\"]".toList _ :=
      (Json.ValueText.array (.last channel_text.padded)).padded
    have record : Outline.IsRecord [.text "channel" "crud>Post", .socket ⟨"", none⟩,
        .flag "allowCrudAccess" false] (.array [.string (some "crud>Post")] true) :=
      .array (.next rfl (.rest (by simp [Field.socket, Field.flag])))
    have denied : closedPosts.outcome (.subscribe "crud>Post" ⟨"", none⟩ false) =
        .refused (.denied (.subscription "crud>Post")) := by decide +kernel
    obtain ⟨refusal, refused, told⟩ := (routes_decide closedPosts (.subscribe record) (by decide)
      written json).2.1 (by rw [denied]; simp)
    obtain rfl : refusal = .denied (.subscription "crud>Post") :=
      Outcome.refused.inj (refused.symm.trans denied)
    exact told

end Api

end ChannelGuard
