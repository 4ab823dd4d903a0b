import ChannelGuard.Access.Script
import ChannelGuard.Proofs.Inquiries
import Mathlib.Data.List.Perm.Basic

/-!
# Rules in isolation

Calls are answered one after the other, and each leaves its evaluator changed. Two rules never
share an evaluator, since a slot holds its own. So a rule sees only the calls that run it: the
others may come in any order, or not at all.
-/

namespace ChannelGuard.AccessControl

variable {ε ι : Type}

/-- Two controls with the same defaults and handle, and with rules in the same slots. -/
structure SameRules (control control' : AccessControl ε) : Prop where
  defaults : control'.defaults = control.defaults
  handle : control'.handle = control.handle
  occupied : ∀ type direction,
    (control'.registry.lookup type direction).isSome =
      (control.registry.lookup type direction).isSome

/-- Two controls with the same evaluator in a slot, that run it for as long and with the same
handle. -/
structure Agree (slot : String × Direction) (control control' : AccessControl ε) : Prop where
  rule : control.registry.lookup slot.1 slot.2 = control'.registry.lookup slot.1 slot.2
  timeout : control.defaults.timeout = control'.defaults.timeout
  handle : control.handle = control'.handle

/-- The calls that run the evaluator of a slot, in order. -/
def own (control : AccessControl ε) (calls : ι → Request) (slot : String × Direction)
    (order : List ι) : List ι :=
  order.filter fun call => control.slot? (calls call) = some slot

namespace SameRules

variable {control control' control'' : AccessControl ε}

theorem refl (control : AccessControl ε) : SameRules control control := ⟨rfl, rfl, fun _ _ => rfl⟩

theorem trans (h : SameRules control control') (h' : SameRules control' control'') :
    SameRules control control'' where
  defaults := h'.defaults.trans h.defaults
  handle := h'.handle.trans h.handle
  occupied type direction := (h'.occupied type direction).trans (h.occupied type direction)

theorem isSome_rule? (h : SameRules control control') (type : Option String)
    (direction : Direction) :
    (control'.rule? type direction).isSome = (control.rule? type direction).isSome := by
  cases type with
  | none => rfl
  | some type => exact h.occupied type direction

theorem slot?_eq (h : SameRules control control') (request : Request) :
    control'.slot? request = control.slot? request := by
  simp only [slot?, h.occupied]

theorem own_eq (h : SameRules control control') (calls : ι → Request)
    (slot : String × Direction) (order : List ι) :
    control'.own calls slot order = control.own calls slot order := by
  simp only [own, h.slot?_eq]

theorem replace {type : String} {direction : Direction} {old : ε}
    (h : control.registry.lookup type direction = some old) (evaluator : ε) :
    SameRules control (control.replace type direction evaluator) where
  defaults := rfl
  handle := rfl
  occupied other otherDirection := by
    by_cases here : (other, otherDirection) = (type, direction)
    · obtain ⟨rfl, rfl⟩ := Prod.mk.inj here
      simp only [AccessControl.replace, Registry.lookup_set_self h, h, Option.isSome_some]
    · simp only [AccessControl.replace, Registry.lookup_set_of_ne _ here]

end SameRules

namespace Agree

variable {slot : String × Direction} {control control' : AccessControl ε}

theorem refl (slot : String × Direction) (control : AccessControl ε) :
    Agree slot control control := ⟨rfl, rfl, rfl⟩

theorem symm (h : Agree slot control control') : Agree slot control' control :=
  ⟨h.rule.symm, h.timeout.symm, h.handle.symm⟩

theorem trans {control'' : AccessControl ε} (h : Agree slot control control')
    (h' : Agree slot control' control'') : Agree slot control control'' :=
  ⟨h.rule.trans h'.rule, h.timeout.trans h'.timeout, h.handle.trans h'.handle⟩

theorem slot?_eq_some_iff (h : Agree slot control control') (request : Request) :
    control.slot? request = some slot ↔ control'.slot? request = some slot := by
  simp only [slot?, Option.filter_eq_some_iff, h.rule]

end Agree

variable [Evaluator ε] {control control' : AccessControl ε} {request : Request}

/-! One call -/

/-- A call leaves the defaults, the handle and the occupied slots as they are. -/
theorem sameRules_answer (control : AccessControl ε) (request : Request) :
    SameRules control (control.answer request).2 := by
  cases aimed : control.slot? request with
  | none =>
    rw [answer_snd_of_slot?_eq_none aimed]
    exact .refl control
  | some slot =>
    obtain ⟨inquiry, evaluator, -, -, -, -, hslot, hanswer⟩ := answer_of_slot?_eq_some aimed
    rw [hanswer]
    exact .replace hslot _

theorem lookup_answer_of_ne {slot : String × Direction}
    (other : control.slot? request ≠ some slot) :
    (control.answer request).2.registry.lookup slot.1 slot.2 =
      control.registry.lookup slot.1 slot.2 := by
  cases aimed : control.slot? request with
  | none => rw [answer_snd_of_slot?_eq_none aimed]
  | some aim =>
    obtain ⟨inquiry, evaluator, -, -, -, -, -, hanswer⟩ := answer_of_slot?_eq_some aimed
    rw [hanswer]
    have different : (slot.1, slot.2) ≠ (aim.1, aim.2) := by
      intro same
      exact other (aimed.trans (congrArg some same.symm))
    exact Registry.lookup_set_of_ne _ different _

/-- A call that runs no evaluator comes out the same whatever the evaluators are. -/
theorem SameRules.answer_fst (h : SameRules control control')
    (quiet : control.slot? request = none) :
    (control'.answer request).1 = (control.answer request).1 := by
  unfold answer
  rw [h.handle]
  cases hplan : request.plan control.handle with
  | pass => rfl
  | refuse refusal => rfl
  | unruled direction denial => simp only [carryOut, fallback, h.defaults]
  | ask inquiry =>
    simp only [carryOut]
    have occupied := h.isSome_rule? inquiry.type inquiry.direction
    rcases unruled_or_granted quiet hplan with hrule | ⟨evaluator, hrule, hgranted⟩
    · rw [hrule] at occupied
      have hrule' := Option.not_isSome_iff_eq_none.mp (Bool.eq_false_iff.mp occupied)
      rw [inquire_of_unruled hrule, inquire_of_unruled hrule', fallback, fallback, h.defaults]
    · rw [hrule] at occupied
      obtain ⟨evaluator', hrule'⟩ := Option.isSome_iff_exists.mp occupied
      rw [inquire_of_granted hrule hgranted, inquire_of_granted hrule' hgranted]

/-- A call has the same outcome and leaves the same evaluator where the slot that it runs is the
same. -/
theorem Agree.answer {slot : String × Direction} (h : Agree slot control control')
    (aimed : control.slot? request = some slot) :
    (control.answer request).1 = (control'.answer request).1 ∧
      Agree slot (control.answer request).2 (control'.answer request).2 := by
  have aimed' := (h.slot?_eq_some_iff request).mp aimed
  obtain ⟨inquiry, evaluator, plan, -, -, -, hslot, hanswer⟩ := answer_of_slot?_eq_some aimed
  obtain ⟨inquiry', evaluator', plan', -, -, -, hslot', hanswer'⟩ := answer_of_slot?_eq_some aimed'
  rw [← h.handle] at plan'
  have sameInquiry : inquiry' = inquiry := Plan.ask.inj (plan'.symm.trans plan)
  have sameEvaluator : evaluator' = evaluator :=
    Option.some.inj (hslot'.symm.trans (h.rule.symm.trans hslot))
  subst sameInquiry sameEvaluator
  rw [hanswer, hanswer', ← h.timeout]
  refine ⟨rfl, ?_, h.timeout, h.handle⟩
  simp only [replace, Registry.lookup_set_self hslot, Registry.lookup_set_self hslot']

theorem Agree.answer_other {slot : String × Direction} (h : Agree slot control control')
    (other : control.slot? request ≠ some slot) :
    Agree slot (control.answer request).2 control' where
  rule := (lookup_answer_of_ne other).trans h.rule
  timeout := by rw [(sameRules_answer control request).defaults, h.timeout]
  handle := by rw [(sameRules_answer control request).handle, h.handle]

/-! Many calls -/

/-- Answers calls one after the other, and tells the outcome of each. -/
def answerEach (calls : ι → Request) (control : AccessControl ε) :
    List ι → List (ι × Outcome) × AccessControl ε
  | [] => ([], control)
  | call :: rest =>
    let (outcome, next) := control.answer (calls call)
    let (outcomes, last) := next.answerEach calls rest
    ((call, outcome) :: outcomes, last)

/-- The calls that run the evaluator of a slot, with their outcomes. -/
def ownOutcomes (control : AccessControl ε) (calls : ι → Request) (slot : String × Direction)
    (order : List ι) : List (ι × Outcome) :=
  (control.answerEach calls order).1.filter fun entry => control.slot? (calls entry.1) = some slot

variable {calls : ι → Request}

theorem sameRules_answerEach (control : AccessControl ε) (calls : ι → Request) (order : List ι) :
    SameRules control (control.answerEach calls order).2 := by
  induction order generalizing control with
  | nil => exact .refl control
  | cons call rest ih =>
    have step := sameRules_answer control (calls call)
    have later := ih (control.answer (calls call)).2
    exact step.trans later

/-- The calls of a run that run a given slot, or none, are told apart by the first control. -/
private theorem filter_answerEach_cons (aim : Option (String × Direction)) (call : ι)
    (rest : List ι) :
    (control.answerEach calls (call :: rest)).1.filter
        (fun entry => control.slot? (calls entry.1) = aim) =
      (if control.slot? (calls call) = aim then [(call, (control.answer (calls call)).1)]
        else []) ++
        ((control.answer (calls call)).2.answerEach calls rest).1.filter
          (fun entry => (control.answer (calls call)).2.slot? (calls entry.1) = aim) := by
  simp only [answerEach, List.filter_cons, (sameRules_answer control (calls call)).slot?_eq,
    decide_eq_true_eq]
  split <;> rfl

/-- To a slot, a run is the same as the run of its own calls only. -/
theorem Agree.answerEach_own {slot : String × Direction} (h : Agree slot control control')
    (order : List ι) :
    control.ownOutcomes calls slot order =
        (control'.answerEach calls (control.own calls slot order)).1 ∧
      Agree slot (control.answerEach calls order).2
        (control'.answerEach calls (control.own calls slot order)).2 := by
  induction order generalizing control control' with
  | nil => exact ⟨rfl, h⟩
  | cons call rest ih =>
    have kept := sameRules_answer control (calls call)
    unfold ownOutcomes
    rw [filter_answerEach_cons]
    by_cases mine : control.slot? (calls call) = some slot
    · obtain ⟨outcome, next⟩ := h.answer mine
      obtain ⟨outcomes, last⟩ := ih next
      have first : control.own calls slot (call :: rest) = call :: control.own calls slot rest := by
        simp [own, mine]
      rw [kept.own_eq] at outcomes last
      rw [first, if_pos mine, outcome]
      exact ⟨congrArg _ outcomes, last⟩
    · obtain ⟨outcomes, last⟩ := ih (h.answer_other mine)
      have skipped : control.own calls slot (call :: rest) = control.own calls slot rest := by
        simp [own, mine]
      rw [kept.own_eq] at outcomes last
      rw [skipped, if_neg mine]
      exact ⟨outcomes, last⟩

/-- To a slot, two runs are the same that have the same calls of its own. -/
theorem Agree.answerEach_congr {slot : String × Direction} (h : Agree slot control control')
    {order order' : List ι}
    (same : control.own calls slot order = control'.own calls slot order') :
    control.ownOutcomes calls slot order = control'.ownOutcomes calls slot order' ∧
      Agree slot (control.answerEach calls order).2 (control'.answerEach calls order').2 := by
  obtain ⟨outcomes, last⟩ := h.answerEach_own order
  obtain ⟨outcomes', last'⟩ := (refl slot control').answerEach_own order'
  rw [same] at outcomes last
  exact ⟨outcomes.trans outcomes'.symm, last.trans last'.symm⟩

/-- The calls of a run that run no evaluator come out as if each were the only one. -/
theorem quiet_answerEach (control : AccessControl ε) (calls : ι → Request) (order : List ι) :
    (control.answerEach calls order).1.filter
        (fun entry => control.slot? (calls entry.1) = none) =
      (order.filter fun call => control.slot? (calls call) = none).map
        fun call => (call, (control.answer (calls call)).1) := by
  induction order generalizing control with
  | nil => rfl
  | cons call rest ih =>
    have kept := sameRules_answer control (calls call)
    rw [filter_answerEach_cons, ih]
    simp only [kept.slot?_eq]
    have later : (rest.filter fun call => control.slot? (calls call) = none).map
          (fun other => (other, ((control.answer (calls call)).2.answer (calls other)).1)) =
        (rest.filter fun call => control.slot? (calls call) = none).map
          fun other => (other, (control.answer (calls other)).1) := by
      apply List.map_congr_left
      intro other found
      have quiet : control.slot? (calls other) = none := by simpa using List.of_mem_filter found
      rw [kept.answer_fst quiet]
    rw [later]
    by_cases quiet : control.slot? (calls call) = none <;> simp [quiet]

private theorem perm_of_filter_perm {α κ : Type} [DecidableEq κ] (key : α → κ) {left right : List α}
    (parts : ∀ k, (left.filter (key · = k)).Perm (right.filter (key · = k))) :
    left.Perm right := by
  classical
  rw [List.perm_iff_count]
  intro a
  have counts := (parts (key a)).count_eq a
  rwa [List.count_filter (by simp), List.count_filter (by simp)] at counts

theorem length_runs (control : AccessControl ε) (request : Request) (type : String)
    (direction : Direction) :
    (control.runs request type direction).length =
      if control.slot? request = some (type, direction) then 1 else 0 := by
  cases aimed : control.slot? request with
  | none => simp [runs_of_slot?_eq_none aimed]
  | some slot =>
    obtain ⟨inquiry, evaluator, plan, -⟩ := answer_of_slot?_eq_some aimed
    rw [runs_of_slot?_eq_some plan aimed]
    by_cases here : (type, direction) = slot
    · simp [here]
    · have elsewhere : slot ≠ (type, direction) := Ne.symm here
      simp [here, elsewhere]

/-- A run keeps each rule to the calls that run it. Calls are told apart by `ι`, so that a run can
be rearranged. -/
theorem rules_isolated (control : AccessControl ε) (calls : ι → Request) :
    (∀ before call, (control.answerEach calls before).2.Undisturbed (calls call) ∧
      ∀ type direction,
        ((control.answerEach calls before).2.runs (calls call) type direction).length =
          if control.slot? (calls call) = some (type, direction) then 1 else 0) ∧
    ((∀ channel data socket, control.slot? (.publishIn channel data socket) = none) ∧
      (∀ channel socket, control.slot? (.subscribe channel socket true) = none) ∧
      (∀ request : Request, request.plan control.handle = .pass → control.slot? request = none) ∧
      (∀ request : Request, (∀ type direction, request.aim? = some (type, direction) →
        control.registry.lookup type direction = none) → control.slot? request = none)) ∧
    (∀ slot control' order order', Agree slot control control' →
      control.own calls slot order = control'.own calls slot order' →
        control.ownOutcomes calls slot order = control'.ownOutcomes calls slot order' ∧
        (control.answerEach calls order).2.registry.lookup slot.1 slot.2 =
          (control'.answerEach calls order').2.registry.lookup slot.1 slot.2) ∧
    (∀ order order' : List ι, order.Perm order' →
      (∀ slot, control.own calls slot order = control.own calls slot order') →
        (control.answerEach calls order).1.Perm (control.answerEach calls order').1 ∧
        (∀ type direction,
          (control.answerEach calls order).2.registry.lookup type direction =
            (control.answerEach calls order').2.registry.lookup type direction) ∧
        (control.answerEach calls order).2.defaults = control.defaults ∧
        (control.answerEach calls order).2.handle = control.handle) := by
  refine ⟨?_, ⟨?_, ?_, ?_, ?_⟩, ?_, ?_⟩
  · intro before call
    refine ⟨undisturbed _ (calls call), fun type direction => ?_⟩
    rw [length_runs, (sameRules_answerEach control calls before).slot?_eq]
  · intro channel data socket
    rfl
  · intro channel socket
    rfl
  · intro request plan
    exact slot?_of_aim? (by rw [plan]; rfl)
  · intro request unruled
    exact slot?_of_unruled unruled
  · intro slot control' order order' agree same
    obtain ⟨outcomes, last⟩ := agree.answerEach_congr same
    exact ⟨outcomes, last.rule⟩
  · intro order order' rearranged same
    have kept := sameRules_answerEach control calls order
    refine ⟨?_, ?_, kept.defaults, kept.handle⟩
    · apply perm_of_filter_perm fun entry => control.slot? (calls entry.1)
      intro aim
      cases aim with
      | none =>
        rw [quiet_answerEach, quiet_answerEach]
        exact (rearranged.filter _).map _
      | some slot =>
        obtain ⟨outcomes, -⟩ := (Agree.refl slot control).answerEach_congr (same slot)
        exact .of_eq outcomes
    · intro type direction
      obtain ⟨-, last⟩ := (Agree.refl (type, direction) control).answerEach_congr (same _)
      exact last.rule

/-- Posts may be created twice and broadcast once. -/
def metered : AccessControl Script :=
  ⟨Registry.empty.overlay ⟨"Post", rfl⟩ ⟨some (.limited 2), some (.limited 1)⟩,
    ⟨true, true, none⟩, none⟩

/-- Creations and broadcasts of posts in turn. -/
def traffic (n : Nat) : Request :=
  if n % 2 = 0 then .emit "create" (.object [("type", .string "Post")]) ⟨"", none⟩
  else .publishOut "crud>Post" .null ⟨"", none⟩

theorem rules_isolated_metered :
    metered.ownOutcomes traffic ("Post", .outbound) [0, 1, 2, 3] =
        metered.ownOutcomes traffic ("Post", .outbound) [1, 3] ∧
      (metered.answerEach traffic [0, 1, 2, 3]).1.Perm
        (metered.answerEach traffic [1, 0, 3, 2]).1 := by
  obtain ⟨-, -, projected, reordered⟩ := rules_isolated metered traffic
  refine ⟨(projected ("Post", .outbound) metered [0, 1, 2, 3] [1, 3] (.refl _ _) rfl).1, ?_⟩
  refine (reordered [0, 1, 2, 3] [1, 0, 3, 2] (by decide) ?_).1
  intro slot
  have created : metered.slot? (traffic 0) = some ("Post", .inbound) := rfl
  have broadcast : metered.slot? (traffic 1) = some ("Post", .outbound) := rfl
  have createdAgain : metered.slot? (traffic 2) = some ("Post", .inbound) := rfl
  have broadcastAgain : metered.slot? (traffic 3) = some ("Post", .outbound) := rfl
  simp only [own, List.filter_cons, created, broadcast, createdAgain, broadcastAgain,
    Option.some.injEq]
  by_cases inbound : ("Post", Direction.inbound) = slot
  · subst inbound
    rfl
  · by_cases outbound : ("Post", Direction.outbound) = slot
    · subst outbound
      rfl
    · simp [inbound, outbound]

end ChannelGuard.AccessControl
