import ChannelGuard.Access.Script
import ChannelGuard.Proofs.DecisionTable

/-!
# Telling refusals apart by their text

A refusal for want of a rule says so at its end. One by a rule can end in the same words only where
it ends in an identifier that does. Such an identifier has to be a string: the text of any other
JSON value ends otherwise, and types and channels are quoted further to the front.
-/

namespace ChannelGuard

open Number

/-! Endings -/

namespace Text

def EndsWith (text ending : String) : Prop := ∃ start, text = start ++ ending

variable {text ending : String}

theorem endsWith_iff_isSuffix : EndsWith text ending ↔ ending.toList <:+ text.toList := by
  constructor
  · rintro ⟨start, rfl⟩
    exact ⟨start.toList, by simp⟩
  · rintro ⟨start, same⟩
    exact ⟨String.ofList start, by rw [← String.toList_inj]; simp [same]⟩

instance : Decidable (EndsWith text ending) := decidable_of_iff _ endsWith_iff_isSuffix.symm

/-- What stands up to a character that the ending lacks has no part in it. -/
theorem endsWith_append_iff {start rest : String} {c : Char} (absent : c ∉ ending.toList) :
    EndsWith (start ++ c.toString ++ rest) ending ↔ EndsWith rest ending := by
  constructor
  · intro ends
    have whole : ending.toList <:+ (start ++ c.toString ++ rest).toList :=
      endsWith_iff_isSuffix.mp ends
    have part : (c :: rest.toList) <:+ (start ++ c.toString ++ rest).toList :=
      ⟨start.toList, by simp⟩
    rcases List.suffix_or_suffix_of_suffix part whole with inside | inside
    · exact absurd (inside.subset List.mem_cons_self) absent
    · rcases List.suffix_cons_iff.mp inside with same | inside
      · exact absurd (same ▸ List.mem_cons_self) absent
      · exact endsWith_iff_isSuffix.mpr inside
  · rintro ⟨before, rfl⟩
    exact ⟨start ++ c.toString ++ before, by simp only [String.append_assoc]⟩

theorem EndsWith.getLast?_eq {c : Char} (ends : EndsWith text ending)
    (last : ending.toList.getLast? = some c) : text.toList.getLast? = some c := by
  obtain ⟨start, rfl⟩ := ends
  simp [List.getLast?_append, last]

/-- Of two endings of one text, one ends in the other. -/
theorem not_endsWith_append {tail : String} (start : String)
    (apart : ¬(tail.toList <:+ ending.toList ∨ ending.toList <:+ tail.toList)) :
    ¬EndsWith (start ++ tail) ending := by
  intro ends
  have whole : ending.toList <:+ (start ++ tail).toList := endsWith_iff_isSuffix.mp ends
  have part : tail.toList <:+ (start ++ tail).toList := ⟨start.toList, by simp⟩
  exact apart (List.suffix_or_suffix_of_suffix part whole)

end Text

open Text (EndsWith endsWith_append_iff endsWith_iff_isSuffix not_endsWith_append)

/-! The last character of a JSON text -/

theorem d_not_mem_decimalDigits (n : Nat) : 'd' ∉ decimalDigits n := by
  intro member
  have digit : Char.isDigit 'd' = true :=
    Nat.isDigit_of_mem_toDigits (by decide) (by decide) member
  exact absurd digit (by decide)

private theorem d_not_mem_pointed {digits : List Char} (free : 'd' ∉ digits) (whole : Nat) :
    'd' ∉ digits.take whole ++ '.' :: digits.drop whole := by
  simp only [List.mem_append, List.mem_cons, not_or]
  exact ⟨mt List.mem_of_mem_take free, by decide, mt List.mem_of_mem_drop free⟩

theorem Number.Decimal.d_not_mem_positional (d : Decimal) : 'd' ∉ d.positional := by
  have digits := d_not_mem_decimalDigits d.significand
  unfold positional
  simp only
  split
  · split
    · exact digits
    · simp [digits]
  · exact d_not_mem_pointed (by simp [digits]) _

theorem Number.Binary64.d_not_mem_jsonText (x : Binary64) : 'd' ∉ x.jsonText.toList := by
  have positional := (Decimal.shortest x).d_not_mem_positional
  have mantissa (n : Nat) : 'd' ∉ if (decimalDigits n).length = 1 then decimalDigits n
      else (decimalDigits n).take 1 ++ '.' :: (decimalDigits n).drop 1 := by
    split
    · exact d_not_mem_decimalDigits n
    · exact d_not_mem_pointed (d_not_mem_decimalDigits n) 1
  have exponent (order : Int) :
      'd' ∉ 'e' :: (if 0 ≤ order then '+' else '-') :: decimalDigits order.natAbs := by
    split <;> simp [d_not_mem_decimalDigits]
  have signed {body : List Char} (free : 'd' ∉ body) :
      'd' ∉ if x.negative then '-' :: body else body := by
    split <;> simp [free]
  unfold jsonText
  simp only [String.toList_ofList]
  apply signed
  split
  · split <;> simp [positional]
  · exact mt List.mem_append.mp (not_or.mpr ⟨mantissa _, exponent _⟩)

theorem JsonNumber.d_not_mem_render (n : JsonNumber) : 'd' ∉ n.render.toList := by
  cases n with
  | integer i =>
    simp only [render, intText, String.toList_ofList]
    split <;> simp [d_not_mem_decimalDigits]
  | float x => exact x.d_not_mem_jsonText

theorem Json.getLast?_render_ne (value : Json) : value.render.toList.getLast? ≠ some 'd' := by
  cases value with
  | null => decide
  | bool b => cases b <;> decide
  | number n =>
    simp only [render]
    exact mt List.mem_of_getLast? n.d_not_mem_render
  | string s => simp [render, quote, List.getLast?_cons]
  | array items => simp [render, List.getLast?_cons]
  | object members => simp [render, List.getLast?_cons]

/-! Messages -/

/-- An identifier after which a refusal by a rule reads like one for want of a rule. The blank that
the refusal puts before the identifier may be part of the likeness. -/
def Misleading (id : String) : Prop :=
  id = "- No access control rules found" ∨ EndsWith id " - No access control rules found"

instance (id : String) : Decidable (Misleading id) := inferInstanceAs (Decidable (_ ∨ _))

theorem misleading_iff {id : String} :
    Misleading id ↔ EndsWith (" " ++ id) " - No access control rules found" := by
  have blank : (" " ++ id).toList = ' ' :: id.toList := by simp
  rw [endsWith_iff_isSuffix, blank, List.suffix_cons_iff, ← endsWith_iff_isSuffix, Misleading,
    ← String.toList_inj]
  simp [eq_comm]

/-- What is printed of a JSON value never misleads, not even a string between its quotes. -/
theorem Json.not_misleading_render (value : Json) : ¬Misleading value.render := by
  rintro (same | ends)
  · exact value.getLast?_render_ne (by rw [same]; rfl)
  · exact value.getLast?_render_ne (ends.getLast?_eq rfl)

theorem exists_describeResource_eq (type : Option String) :
    ∃ kind, describeResource type none = kind ++ " resource" ∧
      ∀ id, describeResource type (some id) = kind ++ " resource with ID " ++ id := by
  cases type with
  | none =>
    have literal : "an untyped resource with ID " = "an untyped" ++ " resource with ID " := rfl
    exact ⟨"an untyped", rfl, fun id => congrArg (· ++ id) literal⟩
  | some type => exact ⟨"the " ++ type, rfl, fun id => rfl⟩

theorem endsWith_describeResource_iff (start : String) (type id : Option String) :
    EndsWith (start ++ describeResource type id) " - No access control rules found" ↔
      ∃ given ∈ id, Misleading given := by
  obtain ⟨kind, unnamed, named⟩ := exists_describeResource_eq type
  cases id with
  | none =>
    rw [unnamed, ← String.append_assoc]
    simpa using not_endsWith_append (start ++ kind) (by decide)
  | some id =>
    -- The template has a letter before the identifier that the ending lacks.
    have mark : 'D' ∉ " - No access control rules found".toList := by decide
    have literal : " resource with ID " = " resource with I" ++ 'D'.toString ++ " " := rfl
    have parts : start ++ (kind ++ " resource with ID " ++ id) =
        (start ++ (kind ++ " resource with I")) ++ 'D'.toString ++ (" " ++ id) := by
      simp only [literal, String.append_assoc]
    rw [named, parts, endsWith_append_iff mark, ← misleading_iff]
    simp

def Denial.id? : Denial → Option String
  | operation _ id | readout _ id => id
  | broadcast _ | subscription _ => none

theorem Denial.endsWith_message_iff (denial : Denial) :
    EndsWith denial.message " - No access control rules found" ↔
      ∃ id ∈ denial.id?, Misleading id := by
  cases denial with
  | operation type id => exact endsWith_describeResource_iff _ type id
  | readout type id => exact endsWith_describeResource_iff _ type id
  | broadcast channel =>
    exact iff_of_false (not_endsWith_append ("Cannot publish out to " ++ channel) (by decide))
      (by simp [id?])
  | subscription channel =>
    exact iff_of_false (not_endsWith_append ("Cannot subscribe to " ++ channel) (by decide))
      (by simp [id?])

/-! Requests -/

/-- The identifier of the record, if it is given as a string. -/
def Subject.textId? : Subject → Option String
  | request payload => (payload.member? "id").bind Json.string?
  | channel query => query.id?

theorem Subject.exists_misleading_id_iff (subject : Subject) :
    (∃ id ∈ subject.id?, Misleading id) ↔ ∃ id ∈ subject.textId?, Misleading id := by
  cases subject with
  | channel query => rfl
  | request payload =>
    cases member : payload.member? "id" with
    | none => simp [id?, textId?, member]
    | some value =>
      have printed := value.not_misleading_render
      cases value <;> simp [id?, textId?, member, Json.string?, printed]

namespace Request

/-- What a request concerns; nothing if it names a channel of no resource. -/
def subject? : Request → Option Subject
  | emit _ data _ => some (.request data)
  | publishIn channel _ _ | publishOut channel _ _ | subscribe channel _ _ =>
    (ResourceQuery.ofChannel? channel).map .channel
  | readFilter context => some context.subject

def type? (request : Request) : Option String := request.subject?.bind Subject.type?

def direction : Request → Direction
  | emit .. | publishIn .. | subscribe .. => .inbound
  | publishOut .. | readFilter _ => .outbound

/-- What a refusal of the request describes by type and identifier. Other refusals quote the
channel. -/
def described? : Request → Option Subject
  | emit _ data _ => some (.request data)
  | readFilter context => some context.subject
  | publishIn .. | publishOut .. | subscribe .. => none

/-- The plan keeps to the type, the direction and the identifier that the request itself shows. -/
inductive Planned (request : Request) : Plan → Prop where
  | pass : Planned request .pass
  | refuse : Planned request (.refuse .publishNotAllowed)
  | unruled {direction : Direction} {denial : Denial} (untyped : request.type? = none) :
    Planned request (.unruled direction denial)
  | ask {inquiry : Inquiry} (type : inquiry.type = request.type?)
    (direction : inquiry.direction = request.direction)
    (id : inquiry.denial.id? = request.described?.bind Subject.id?) :
    Planned request (.ask inquiry)

theorem planned_plan (request : Request) (handle : Option QueryHandle) :
    request.Planned (request.plan handle) := by
  have typed {channel : String} {query : ResourceQuery}
      (named : Channel.classify channel = .resource query) :
      some query.type = ((ResourceQuery.ofChannel? channel).map .channel).bind Subject.type? := by
    simp [ResourceQuery.ofChannel?, named, Channel.query?, Subject.type?]
  have untyped {channel : String} (named : Channel.classify channel = .malformed) :
      ((ResourceQuery.ofChannel? channel).map .channel).bind Subject.type? = none := by
    simp [ResourceQuery.ofChannel?, named, Channel.query?]
  cases request with
  | emit event data socket =>
    cases known : Action.ofEvent? event with
    | none => simpa only [plan, known] using .pass
    | some action => simpa only [plan, known] using .ask rfl rfl rfl
  | publishIn channel data socket =>
    cases named : Channel.classify channel with
    | other => simpa only [plan, named] using .pass
    | malformed => simpa only [plan, named] using .refuse
    | resource query => simpa only [plan, named] using .refuse
  | publishOut channel data socket =>
    cases named : Channel.classify channel with
    | other => simpa only [plan, named] using .pass
    | malformed => simpa only [plan, named] using .unruled (untyped named)
    | resource query => simpa only [plan, named] using .ask (typed named) rfl rfl
  | subscribe channel socket granted =>
    cases named : Channel.classify channel with
    | other => simpa only [plan, named] using .pass
    | malformed => simpa only [plan, named] using .unruled (untyped named)
    | resource query => simpa only [plan, named] using .ask (typed named) rfl rfl
  | readFilter context => exact .ask rfl rfl rfl

end Request

/-- Of all decisions only a denial blocks. -/
theorem Decision.eq_denied_of_blocked {decision : Decision} {denial : Denial} {refusal : Refusal}
    (refused : decision.toOutcome denial = .refused refusal)
    (blocked : refusal.name = "CRUDBlockedError") : refusal = .denied denial := by
  cases decision with
  | allowed => cases refused
  | pending => cases refused
  | denied => exact (Outcome.refused.inj refused).symm
  | failed failure =>
    cases refused
    have named : "EvaluatorError" = "CRUDBlockedError" := blocked
    exact absurd named (by decide)

namespace AccessControl

variable {ε : Type} [Evaluator ε] {control : AccessControl ε} {request : Request}
  {refusal : Refusal}

/-- A request is blocked for want of a rule, or a rule denies it and the refusal quotes the
identifier that the request gives. -/
theorem blocked_cases (refused : control.outcome request = .refused refusal)
    (blocked : refusal.name = "CRUDBlockedError") :
    (control.rule? request.type? request.direction = none ∧
      ∃ denial, refusal = .noRule denial) ∨
    (control.rule? request.type? request.direction ≠ none ∧
      ∃ denial, refusal = .denied denial ∧
        denial.id? = request.described?.bind Subject.id?) := by
  have planned := request.planned_plan control.handle
  have fallback {direction : Direction} {denial : Denial}
      (falls : control.outcome request = control.fallback direction denial) :
      refusal = .noRule denial := by
    rw [falls, AccessControl.fallback] at refused
    split at refused
    · exact (Outcome.refused.inj refused).symm
    · cases refused
  generalize plan : request.plan control.handle = needed at planned
  cases planned with
  | pass => cases refused.symm.trans (passes_of_plan plan).1
  | refuse =>
    cases refused.symm.trans (refused_of_plan plan).1
    exact absurd blocked (by decide)
  | unruled untyped =>
    exact .inl ⟨by rw [untyped]; rfl, _, fallback (outcome_of_plan_unruled plan)⟩
  | @ask inquiry type direction id =>
    rw [← type, ← direction, ← id]
    cases ruled : control.rule? inquiry.type inquiry.direction with
    | none => exact .inl ⟨rfl, _, fallback (outcome_of_no_rule plan ruled)⟩
    | some evaluator =>
      refine .inr ⟨Option.some_ne_none evaluator, inquiry.denial, ?_, rfl⟩
      cases granted : inquiry.granted with
      | true => cases refused.symm.trans (outcome_of_granted plan ruled granted)
      | false =>
        exact Decision.eq_denied_of_blocked
          ((outcome_of_ruled plan ruled granted).symm.trans refused) blocked

/-- A blocked request is told that there is no rule exactly if there is none, or if the rule denies
it and it gives a string as identifier that reads so. -/
theorem blocked_text_tells_rule (refused : control.outcome request = .refused refusal)
    (blocked : refusal.name = "CRUDBlockedError") :
    EndsWith refusal.message " - No access control rules found" ↔
      control.rule? request.type? request.direction = none ∨
        ∃ id ∈ request.described?.bind Subject.textId?, Misleading id := by
  have quoted : (∃ id ∈ request.described?.bind Subject.id?, Misleading id) ↔
      ∃ id ∈ request.described?.bind Subject.textId?, Misleading id := by
    cases request.described? with
    | none => rfl
    | some subject => exact subject.exists_misleading_id_iff
  rcases blocked_cases refused blocked with
    ⟨unruled, denial, rfl⟩ | ⟨ruled, denial, rfl, described⟩
  · exact iff_of_true ⟨denial.message, rfl⟩ (.inl unruled)
  · calc EndsWith denial.message " - No access control rules found"
        ↔ ∃ id ∈ denial.id?, Misleading id := denial.endsWith_message_iff
      _ ↔ ∃ id ∈ request.described?.bind Subject.textId?, Misleading id := by
        rw [described]
        exact quoted
      _ ↔ control.rule? request.type? request.direction = none ∨
          ∃ id ∈ request.described?.bind Subject.textId?, Misleading id := by
        simp only [ruled, false_or]

/-- Nobody may change posts. -/
def frozen : AccessControl Script :=
  ⟨Registry.empty.overlay ⟨"Post", isTypeName_post⟩ (.single (.constant false) .inbound),
    ⟨true, true, none⟩, none⟩

/-- A client updates a post. -/
def updatePost (id : String) : Request :=
  .emit "update" (.object [("id", .string id), ("type", .string "Post")]) ⟨"", none⟩

theorem blocked_text_tells_rule_plain :
    frozen.outcome (updatePost "7") = .refused (.denied (.operation "Post" "7")) ∧
      ¬EndsWith (Refusal.denied (.operation "Post" "7")).message
        " - No access control rules found" := by
  have refused : frozen.outcome (updatePost "7") = .refused (.denied (.operation "Post" "7")) := rfl
  refine ⟨refused, ?_⟩
  rw [blocked_text_tells_rule refused rfl]
  rintro (unruled | ⟨id, given, misleads⟩)
  · cases unruled
  · cases given
    exact absurd misleads (by decide)

theorem blocked_text_misleads :
    ∃ refusal, frozen.outcome (updatePost "7 - No access control rules found") = .refused refusal ∧
      refusal.name = "CRUDBlockedError" ∧
      ¬(EndsWith refusal.message " - No access control rules found" ↔
        frozen.rule? (updatePost "7 - No access control rules found").type?
          (updatePost "7 - No access control rules found").direction = none) := by
  let denial : Denial := .operation "Post" "7 - No access control rules found"
  refine ⟨.denied denial, rfl, rfl, ?_⟩
  intro tells
  have ends : EndsWith denial.message " - No access control rules found" :=
    ⟨"You are not permitted to perform a CRUD operation on the Post resource with ID 7", rfl⟩
  cases tells.mp ends

end AccessControl

end ChannelGuard
