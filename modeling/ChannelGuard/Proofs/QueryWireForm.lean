import ChannelGuard.Proofs.ChannelNames

/-!
# The wire form of queries

A query is written as an object that leaves out what is absent, and read as a view wherever the
object can be one. Reading undoes writing, with one exception: a member that is null is read like
one that has been left out, so a predicate that is null comes back as no predicate at all.
-/

namespace ChannelGuard

namespace ResourceQuery

/-- The field of a record that a model query addresses. -/
def field? : ResourceQuery → Option String
  | model _ _ field => field
  | view .. => none

def viewName? : ResourceQuery → Option String
  | model .. => none
  | view name _ _ => some name

def predicate? : ResourceQuery → Option Json
  | model .. => none
  | view _ _ predicate => predicate

/-- The query without a predicate that says nothing. -/
def withoutNull : ResourceQuery → ResourceQuery
  | view name type (some .null) => view name type none
  | q => q

/-! Members -/

section Members

variable (q : ResourceQuery)

theorem member?_type_toJson : q.toJson.member? "type" = some (.string q.type) := by
  cases q with
  | model type id field => cases id <;> cases field <;> simp [toJson, optionalMember, ResourceQuery.type]
  | view name type predicate => cases predicate <;> simp [toJson, optionalMember, ResourceQuery.type]

theorem member?_id_toJson : q.toJson.member? "id" = q.id?.map .string := by
  cases q with
  | model type id field => cases id <;> cases field <;> simp [toJson, optionalMember, id?]
  | view name type predicate => cases predicate <;> simp [toJson, optionalMember, id?]

theorem member?_field_toJson : q.toJson.member? "field" = q.field?.map .string := by
  cases q with
  | model type id field => cases id <;> cases field <;> simp [toJson, optionalMember, field?]
  | view name type predicate => cases predicate <;> simp [toJson, optionalMember, field?]

theorem member?_view_toJson : q.toJson.member? "view" = q.viewName?.map .string := by
  cases q with
  | model type id field => cases id <;> cases field <;> simp [toJson, optionalMember, viewName?]
  | view name type predicate => cases predicate <;> simp [toJson, optionalMember, viewName?]

theorem member?_predicateData_toJson : q.toJson.member? "predicateData" = q.predicate? := by
  cases q with
  | model type id field => cases id <;> cases field <;> simp [toJson, optionalMember, predicate?]
  | view name type predicate => cases predicate <;> simp [toJson, optionalMember, predicate?]

end Members

/-! Reading what was written -/

theorem string?_of_member? {value : Json} {key s : String}
    (written : value.member? key = some (.string s)) : string? value key = some s := by
  rw [string?, written]
  rfl

theorem optionalString?_of_member? {value : Json} {key : String} {s : Option String}
    (written : value.member? key = s.map .string) : optionalString? value key = some s := by
  cases s <;> simp [optionalString?, written]

theorem ofJson?_toJson (q : ResourceQuery) : ofJson? q.toJson = some q.withoutNull := by
  have typed := string?_of_member? q.member?_type_toJson
  cases q with
  | model type id field =>
    have id_read := optionalString?_of_member? (model type id field).member?_id_toJson
    have field_read := optionalString?_of_member? (model type id field).member?_field_toJson
    have noView : viewOfJson? (model type id field).toJson = none := by
      simp [viewOfJson?, string?, member?_view_toJson, viewName?]
    have asModel : modelOfJson? (model type id field).toJson = some (.model type id field) := by
      simp [modelOfJson?, typed, id_read, field_read, ResourceQuery.type, id?, field?]
    rw [ofJson?, noView, asModel]
    rfl
  | view name type predicate =>
    have named := string?_of_member? (view name type predicate).member?_view_toJson
    have predicate_read := (view name type predicate).member?_predicateData_toJson
    have asView : viewOfJson? (view name type predicate).toJson =
        some (view name type predicate).withoutNull := by
      simp only [viewOfJson?, named, typed, predicate_read, predicate?, Option.bind_eq_bind,
        Option.bind_some]
      cases predicate with
      | none => rfl
      | some value => cases value <;> rfl
    rw [ofJson?, asView]
    rfl

theorem withoutNull_eq_self_iff {q : ResourceQuery} :
    q.withoutNull = q ↔ q.predicate? ≠ some .null := by
  match q with
  | model .. | view _ _ none | view _ _ (some .null) | view _ _ (some (.bool _))
  | view _ _ (some (.number _)) | view _ _ (some (.string _)) | view _ _ (some (.array _))
  | view _ _ (some (.object _)) => simp [withoutNull, predicate?]

/-! Queries of channels -/

/-- The name is that of a view whose predicate is the JSON text of null. -/
def HasNullPredicate (name : String) : Prop :=
  ∃ segment view predicate type, Channel.Segment name segment ∧
    Channel.IsView segment view predicate type ∧ Json.read? predicate = some .null

theorem classify_of_ofChannel? {name : String} {q : ResourceQuery}
    (named : ofChannel? name = some q) : Channel.classify name = .resource q := by
  unfold ofChannel? at named
  cases found : Channel.classify name with
  | resource query =>
    rw [found] at named
    cases named
    rfl
  | malformed | other => simp [found, Channel.query?] at named

/-- The predicate of a query is null only if the name of its channel says so. -/
theorem predicate?_eq_null_iff {name : String} {q : ResourceQuery}
    (named : ofChannel? name = some q) : q.predicate? = some .null ↔ HasNullPredicate name := by
  have found := classify_of_ofChannel? named
  have known : Channel.classify name ≠ .other := by simp [found]
  obtain ⟨segment, here, said⟩ := Channel.exists_segment_of_ne_other known
  by_cases colon : ':' ∈ segment.toList
  · obtain ⟨view, predicate, type, taken, rfl⟩ :=
      (Channel.classify_of_colon here colon q).mp found
    constructor
    · intro null
      exact ⟨segment, view, predicate, type, here, taken, null⟩
    · rintro ⟨segment', view', predicate', type', here', taken', null⟩
      obtain rfl := here.unique here'
      obtain ⟨-, rfl, -⟩ := taken.unique taken'
      exact null
  · obtain ⟨type, -, -, rfl⟩ := (Channel.classify_of_no_colon here said colon q).mp found
    constructor
    · simp [predicate?]
    · rintro ⟨segment', view', predicate', type', here', taken', -⟩
      obtain rfl := here.unique here'
      exact absurd (by simp [taken'.text]) colon

/-- The query of a channel is read back as it was written, unless its predicate is null. -/
theorem channel_query_read_back {name : String} {q : ResourceQuery}
    (named : ofChannel? name = some q) :
    ofJson? q.toJson = some q.withoutNull ∧
      (ofJson? q.toJson = some q ↔ ¬HasNullPredicate name) := by
  refine ⟨q.ofJson?_toJson, ?_⟩
  rw [q.ofJson?_toJson, Option.some.injEq, withoutNull_eq_self_iff, Ne,
    predicate?_eq_null_iff named]

/-- A view of posts, as its channel and the text of its predicate stand for it. -/
private theorem ofChannel?_recent {name predicate : String} {value : Json}
    (found : Channel.classify name = .resource (.view "recent" "Post" (Json.read? predicate)))
    (read : Json.read? predicate = some value) :
    ofChannel? name = some (.view "recent" "Post" (some value)) := by
  rw [ofChannel?, found, read]
  rfl

/-- A predicate that only holds a null is kept. -/
theorem channel_query_read_back_recent :
    let recent : ResourceQuery := .view "recent" "Post" (some (.array [.null]))
    ofChannel? "crud>recent([null]):Post" = some recent ∧
      ¬HasNullPredicate "crud>recent([null]):Post" ∧ ofJson? recent.toJson = some recent := by
  intro recent
  have named : ofChannel? "crud>recent([null]):Post" = some recent :=
    @ofChannel?_recent _ "[null]" _ rfl rfl
  have said : ¬HasNullPredicate "crud>recent([null]):Post" := by
    rw [← predicate?_eq_null_iff named]
    simp [recent, predicate?]
  exact ⟨named, said, (channel_query_read_back named).2.mpr said⟩

/-- A null predicate is written as null, and a null member is read as none. -/
theorem null_predicate_lost :
    ofChannel? "crud>recent(null):Post" = some (.view "recent" "Post" (some .null)) ∧
      ofJson? (view "recent" "Post" (some .null)).toJson = some (.view "recent" "Post" none) ∧
      ofJson? (view "recent" "Post" (some .null)).toJson ≠
        some (.view "recent" "Post" (some .null)) := by
  have lost : ofJson? (view "recent" "Post" (some .null)).toJson =
      some (.view "recent" "Post" none) := rfl
  refine ⟨@ofChannel?_recent _ "null" _ rfl rfl, lost, ?_⟩
  rw [lost]
  simp

end ResourceQuery

end ChannelGuard
