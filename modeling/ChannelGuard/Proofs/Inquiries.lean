import ChannelGuard.Access.Control
import ChannelGuard.Proofs.EvaluatorRuns
import ChannelGuard.Proofs.RegistrySlots

/-!
# What a request does to the evaluators

A request is aimed at the evaluator of at most one type in one direction. If there is one, it runs
once and stays in its slot as the run has left it, and every other slot keeps its evaluator; all
other requests change nothing. Runs are counted by watching all evaluators, which does not disturb
them.
-/

namespace ChannelGuard

/-- The type and direction of the evaluator that a request needs. A client publishing, an event of
another kind, a name without a resource and an approved subscription need none. -/
def Request.aim? : Request → Option (String × Direction)
  | emit event data _ =>
    if event ∈ ["create", "read", "update", "delete"] then
      ((data.member? "type").bind Json.string?).map fun type => (type, .inbound)
    else none
  | publishIn .. => none
  | publishOut channel _ _ =>
    (ResourceQuery.ofChannel? channel).map fun query => (query.type, .outbound)
  | subscribe channel _ granted =>
    if granted then none
    else (ResourceQuery.ofChannel? channel).map fun query => (query.type, .inbound)
  | readFilter context => context.subject.type?.map fun type => (type, .outbound)

/-- The type and direction of an inquiry, if it has not been granted beforehand. -/
def Inquiry.aim? (inquiry : Inquiry) : Option (String × Direction) :=
  if inquiry.granted then none else inquiry.type.map fun type => (type, inquiry.direction)

def Plan.aim? : Plan → Option (String × Direction)
  | ask inquiry => inquiry.aim?
  | _ => none

theorem Action.ofEvent?_eq_none_iff {event : String} :
    Action.ofEvent? event = none ↔ event ∉ ["create", "read", "update", "delete"] := by
  unfold Action.ofEvent?
  split <;> simp_all

theorem Request.aim?_eq_plan (request : Request) (handle : Option QueryHandle) :
    request.aim? = (request.plan handle).aim? := by
  cases request with
  | emit event data socket =>
    by_cases crud : event ∈ ["create", "read", "update", "delete"]
    · obtain ⟨action, haction⟩ :=
        Option.ne_none_iff_exists'.mp (mt Action.ofEvent?_eq_none_iff.mp (not_not_intro crud))
      simp only [aim?, crud, if_true, plan, haction, Plan.aim?, Inquiry.aim?, Bool.false_eq_true,
        if_false, Subject.type?]
    · simp only [aim?, crud, if_false, plan, Action.ofEvent?_eq_none_iff.mpr crud, Plan.aim?]
  | publishIn channel data socket =>
    cases h : Channel.classify channel <;> simp [aim?, plan, h, Plan.aim?]
  | publishOut channel data socket =>
    cases h : Channel.classify channel <;>
      simp [aim?, plan, h, Plan.aim?, Inquiry.aim?, ResourceQuery.ofChannel?, Channel.query?]
  | subscribe channel socket granted =>
    cases h : Channel.classify channel <;>
      simp [aim?, plan, h, Plan.aim?, Inquiry.aim?, ResourceQuery.ofChannel?, Channel.query?]
  | readFilter context => simp [aim?, plan, Plan.aim?, Inquiry.aim?]

/-- A request that needs the evaluator for a type in a direction asks for it. -/
theorem Request.plan_of_aim?_eq_some {request : Request} {type : String} {direction : Direction}
    (aimed : request.aim? = some (type, direction)) (handle : Option QueryHandle) :
    ∃ inquiry, request.plan handle = .ask inquiry ∧ inquiry.type = some type ∧
      inquiry.direction = direction ∧ inquiry.granted = false := by
  rw [request.aim?_eq_plan handle] at aimed
  cases hplan : request.plan handle with
  | pass => simp [hplan, Plan.aim?] at aimed
  | refuse refusal => simp [hplan, Plan.aim?] at aimed
  | unruled direction denial => simp [hplan, Plan.aim?] at aimed
  | ask inquiry =>
    simp only [hplan, Plan.aim?, Inquiry.aim?] at aimed
    cases hgranted : inquiry.granted with
    | true => simp [hgranted] at aimed
    | false =>
      simp only [hgranted, Bool.false_eq_true, if_false, Option.map_eq_some_iff,
        Prod.mk.injEq] at aimed
      obtain ⟨type, htype, rfl, rfl⟩ := aimed
      exact ⟨inquiry, rfl, htype, rfl, hgranted⟩

namespace AccessControl

variable {ε : Type}

/-- The evaluator for a type, if there is one, in a direction. -/
def rule? (control : AccessControl ε) (type : Option String) (direction : Direction) : Option ε :=
  type.bind fun type => control.registry.lookup type direction

/-- The slot whose evaluator a request runs. -/
def slot? (control : AccessControl ε) (request : Request) : Option (String × Direction) :=
  request.aim?.filter fun slot => (control.registry.lookup slot.1 slot.2).isSome

/-- The same rules with all evaluators watched, none of which has run yet. -/
def watched (control : AccessControl ε) : AccessControl (Watched ε) :=
  ⟨control.registry.map .fresh, control.defaults, control.handle⟩

/-- The control with another evaluator in a slot. -/
def replace (control : AccessControl ε) (type : String) (direction : Direction) (evaluator : ε) :
    AccessControl ε :=
  { control with registry := control.registry.set type direction evaluator }

variable {control : AccessControl ε} {request : Request}

/-- A plan that needs no evaluator runs none. -/
theorem slot?_of_aim? (aim : (request.plan control.handle).aim? = none) :
    control.slot? request = none := by
  rw [slot?, request.aim?_eq_plan control.handle, aim, Option.filter_none]

/-- A request runs no evaluator where the slot that it needs is empty. -/
theorem slot?_of_unruled
    (unruled : ∀ type direction, request.aim? = some (type, direction) →
      control.registry.lookup type direction = none) : control.slot? request = none := by
  rw [slot?, Option.filter_eq_none_iff]
  rintro ⟨type, direction⟩ aimed
  simp [unruled type direction aimed]

/-- A question that runs no evaluator meets an empty slot or has been granted. -/
theorem unruled_or_granted {inquiry : Inquiry} (quiet : control.slot? request = none)
    (plan : request.plan control.handle = .ask inquiry) :
    control.rule? inquiry.type inquiry.direction = none ∨
      ∃ evaluator,
        control.rule? inquiry.type inquiry.direction = some evaluator ∧ inquiry.granted = true := by
  rw [slot?, request.aim?_eq_plan control.handle, plan] at quiet
  cases hrule : control.rule? inquiry.type inquiry.direction with
  | none => exact .inl rfl
  | some evaluator =>
    obtain ⟨type, htype, hslot⟩ := Option.bind_eq_some_iff.mp hrule
    refine .inr ⟨evaluator, rfl, ?_⟩
    cases hgranted : inquiry.granted with
    | true => rfl
    | false => simp [Plan.aim?, Inquiry.aim?, hgranted, htype, hslot] at quiet

theorem lookup_watched (control : AccessControl ε) (type : String) (direction : Direction) :
    control.watched.registry.lookup type direction =
      (control.registry.lookup type direction).map .fresh :=
  Registry.lookup_map Watched.fresh control.registry type direction

theorem rule?_watched (control : AccessControl ε) (type : Option String) (direction : Direction) :
    control.watched.rule? type direction = (control.rule? type direction).map .fresh := by
  cases type with
  | none => rfl
  | some type => exact lookup_watched control type direction

@[simp] theorem slot?_watched (control : AccessControl ε) (request : Request) :
    control.watched.slot? request = control.slot? request := by
  simp only [slot?, lookup_watched, Option.isSome_map]

private theorem lookup_watched_evaluator (control : AccessControl ε) (type : String)
    (direction : Direction) :
    (control.watched.registry.lookup type direction).map Watched.evaluator =
      control.registry.lookup type direction := by
  rw [lookup_watched, Option.map_map]
  exact Option.map_id'

variable [Evaluator ε]

theorem inquire_of_unruled {inquiry : Inquiry}
    (unruled : control.rule? inquiry.type inquiry.direction = none) :
    control.inquire inquiry = (control.fallback inquiry.direction inquiry.denial, control) := by
  cases htype : inquiry.type with
  | none => simp [inquire, htype]
  | some type =>
    have empty : control.registry.lookup type inquiry.direction = none := by
      simpa [rule?, htype] using unruled
    simp [inquire, htype, empty]

theorem inquire_of_granted {inquiry : Inquiry} {evaluator : ε}
    (ruled : control.rule? inquiry.type inquiry.direction = some evaluator)
    (granted : inquiry.granted = true) : control.inquire inquiry = (.allowed, control) := by
  obtain ⟨type, htype, hslot⟩ := Option.bind_eq_some_iff.mp ruled
  simp [inquire, htype, hslot, granted]

theorem inquire_of_ruled {inquiry : Inquiry} {type : String} {evaluator : ε}
    (htype : inquiry.type = some type)
    (hslot : control.registry.lookup type inquiry.direction = some evaluator)
    (asked : inquiry.granted = false) :
    control.inquire inquiry =
      ((Evaluator.decision evaluator inquiry.context control.defaults.timeout).1.toOutcome
          inquiry.denial,
        control.replace type inquiry.direction
          (Evaluator.decision evaluator inquiry.context control.defaults.timeout).2) := by
  simp [inquire, replace, htype, hslot, asked]

/-! One request -/

variable {type : String} {direction : Direction}

/-- A request without an evaluator to run leaves all evaluators as they are. -/
theorem answer_snd_of_slot?_eq_none (quiet : control.slot? request = none) :
    (control.answer request).2 = control := by
  unfold answer
  cases hplan : request.plan control.handle with
  | pass => rfl
  | refuse refusal => rfl
  | unruled direction denial => rfl
  | ask inquiry =>
    simp only [carryOut]
    rcases unruled_or_granted quiet hplan with hrule | ⟨evaluator, hrule, hgranted⟩
    · rw [inquire_of_unruled hrule]
    · rw [inquire_of_granted hrule hgranted]

/-- What a request does that runs an evaluator. -/
theorem answer_of_slot?_eq_some (aimed : control.slot? request = some (type, direction)) :
    ∃ inquiry evaluator, request.plan control.handle = .ask inquiry ∧
      inquiry.type = some type ∧ inquiry.direction = direction ∧ inquiry.granted = false ∧
      control.registry.lookup type direction = some evaluator ∧
      control.answer request =
        ((Evaluator.decision evaluator inquiry.context control.defaults.timeout).1.toOutcome
            inquiry.denial,
          control.replace type direction
            (Evaluator.decision evaluator inquiry.context control.defaults.timeout).2) := by
  obtain ⟨haim, hsome⟩ := Option.filter_eq_some_iff.mp aimed
  obtain ⟨inquiry, hplan, htype, rfl, hgranted⟩ :=
    Request.plan_of_aim?_eq_some haim control.handle
  obtain ⟨evaluator, hslot⟩ := Option.isSome_iff_exists.mp hsome
  refine ⟨inquiry, evaluator, hplan, htype, rfl, hgranted, hslot, ?_⟩
  unfold answer
  rw [hplan]
  exact inquire_of_ruled htype hslot hgranted

/-! Runs -/

/-- A request has the same outcome and leaves the same evaluators when all of them are watched. So
what is noted down is what happens when nobody watches. -/
def Undisturbed (control : AccessControl ε) (request : Request) : Prop :=
  (control.watched.answer request).1 = (control.answer request).1 ∧
    ∀ type direction,
      ((control.watched.answer request).2.registry.lookup type direction).map Watched.evaluator =
        (control.answer request).2.registry.lookup type direction

theorem undisturbed (control : AccessControl ε) (request : Request) :
    control.Undisturbed request := by
  have handle : control.watched.handle = control.handle := rfl
  unfold Undisturbed answer
  rw [handle]
  cases request.plan control.handle with
  | pass => exact ⟨rfl, lookup_watched_evaluator control⟩
  | refuse refusal => exact ⟨rfl, lookup_watched_evaluator control⟩
  | unruled direction denial => exact ⟨rfl, lookup_watched_evaluator control⟩
  | ask inquiry =>
    simp only [carryOut]
    cases hrule : control.rule? inquiry.type inquiry.direction with
    | none =>
      have hwatched : control.watched.rule? inquiry.type inquiry.direction = none := by
        rw [rule?_watched, hrule, Option.map_none]
      rw [inquire_of_unruled hrule, inquire_of_unruled hwatched]
      exact ⟨rfl, lookup_watched_evaluator control⟩
    | some evaluator =>
      have hwatched : control.watched.rule? inquiry.type inquiry.direction =
          some (.fresh evaluator) := by
        rw [rule?_watched, hrule, Option.map_some]
      cases hgranted : inquiry.granted with
      | true =>
        rw [inquire_of_granted hrule hgranted, inquire_of_granted hwatched hgranted]
        exact ⟨rfl, lookup_watched_evaluator control⟩
      | false =>
        obtain ⟨type, htype, hslot⟩ := Option.bind_eq_some_iff.mp hrule
        have hwatchedSlot : control.watched.registry.lookup type inquiry.direction =
            some (.fresh evaluator) := by
          rw [lookup_watched, hslot, Option.map_some]
        rw [inquire_of_ruled htype hslot hgranted, inquire_of_ruled htype hwatchedSlot hgranted,
          Watched.decision_eq]
        refine ⟨rfl, ?_⟩
        intro other otherDirection
        simp only [replace]
        by_cases here : (other, otherDirection) = (type, inquiry.direction)
        · obtain ⟨rfl, rfl⟩ := Prod.mk.inj here
          rw [Registry.lookup_set_self hslot, Registry.lookup_set_self hwatchedSlot]
          rfl
        · rw [Registry.lookup_set_of_ne _ here, Registry.lookup_set_of_ne _ here,
            lookup_watched_evaluator]

/-- The runs that a request starts of the evaluator for a type and a direction. -/
def runs (control : AccessControl ε) (request : Request) (type : String) (direction : Direction) :
    List Context :=
  (((control.watched.answer request).2.registry.lookup type direction).map Watched.runs).getD []

theorem runs_of_slot?_eq_none (quiet : control.slot? request = none) (type : String)
    (direction : Direction) : control.runs request type direction = [] := by
  unfold runs
  rw [answer_snd_of_slot?_eq_none (by simpa using quiet), lookup_watched]
  cases control.registry.lookup type direction <;> rfl

theorem runs_of_slot?_eq_some {inquiry : Inquiry}
    (plan : request.plan control.handle = .ask inquiry)
    (aimed : control.slot? request = some (type, direction)) (other : String)
    (otherDirection : Direction) :
    control.runs request other otherDirection =
      if (other, otherDirection) = (type, direction) then [inquiry.context] else [] := by
  have aimed' : control.watched.slot? request = some (type, direction) := by simpa using aimed
  obtain ⟨inquiry', watched, plan', -, -, -, hslot, hanswer⟩ := answer_of_slot?_eq_some aimed'
  have same : inquiry' = inquiry := Plan.ask.inj (plan'.symm.trans plan)
  subst same
  have unrun : watched.runs = [] := by
    rw [lookup_watched] at hslot
    obtain ⟨evaluator, -, rfl⟩ := Option.map_eq_some_iff.mp hslot
    rfl
  unfold runs
  rw [hanswer]
  simp only [replace]
  by_cases here : (other, otherDirection) = (type, direction)
  · obtain ⟨rfl, rfl⟩ := Prod.mk.inj here
    simp [Registry.lookup_set_self hslot, Watched.decision_eq, unrun]
  · simp only [here, if_false, Registry.lookup_set_of_ne _ here, lookup_watched]
    cases control.registry.lookup other otherDirection <;> rfl

end AccessControl

end ChannelGuard
