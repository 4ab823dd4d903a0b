import ChannelGuard.Proofs.Attempts
import ChannelGuard.Proofs.DecisionTable
import ChannelGuard.Proofs.ParsingByGrammar
import ChannelGuard.Proofs.RegistryBuilding

/-!
# Rules as they are declared

Policies decide as they are written. For each type and direction the last policy that declares a
condition counts, and a request that needs that rule is decided by the value of the condition's text
in the JSON view of the request. Conditions answer at once, so no limit and no handle matters.
-/

namespace ChannelGuard

/-! Conditions of a document -/

namespace ResourcePolicy

/-- Every condition is the one that its own text stands for. -/
def WellRead (policy : ResourcePolicy) : Prop :=
  ∀ direction condition, policy.conditions.slot direction = some condition →
    Condition.parse condition.source = .ok condition.expr

/-- All that a child declares, and what it takes for granted. -/
theorem declare_eq_ok {policy next : ResourcePolicy} {child : Kdl.Node}
    (h : policy.declare child = .ok next) :
    ∃ slot source expr, Direction.ofName? child.name = some slot ∧
      policy.conditions.slot slot = none ∧ child.firstString? = some source ∧
      Condition.parse source = .ok expr ∧
      next =
        { policy with conditions := policy.conditions.overlay (.single ⟨source, expr⟩ slot) } := by
  unfold declare at h
  cases named : Direction.ofName? child.name with
  | none => simp [named] at h
  | some slot =>
    cases empty : policy.conditions.slot slot with
    | some old => simp [named, empty] at h
    | none =>
      cases given : child.firstString? with
      | none => simp [named, empty, given] at h
      | some source =>
        cases read : Condition.parse source with
        | error e => simp [named, empty, given, Condition.ofSource, read, Except.map] at h
        | ok expr =>
          refine ⟨slot, source, expr, rfl, empty, rfl, read, ?_⟩
          simpa [named, empty, given, Condition.ofSource, read, Except.map] using h.symm

theorem WellRead.declare {policy next : ResourcePolicy} {child : Kdl.Node}
    (h : policy.declare child = .ok next) (well : policy.WellRead) : next.WellRead := by
  obtain ⟨slot, source, expr, -, -, -, read, rfl⟩ := declare_eq_ok h
  intro direction condition found
  rw [AccessRule.slot_overlay, Option.or_eq_some_iff] at found
  by_cases here : direction = slot
  · subst here
    simp only [AccessRule.slot_single_self, Option.some.injEq, reduceCtorEq, false_and,
      or_false] at found
    rw [← found]
    exact read
  · simp only [AccessRule.slot_single_of_ne _ here, reduceCtorEq, true_and, false_or] at found
    exact well direction condition found

theorem wellRead_of_node {node : Kdl.Node} {policy : ResourcePolicy}
    (h : ofNode node = .ok policy) : policy.WellRead := by
  unfold ofNode at h
  split at h
  · split at h
    · cases h
    · split at h
      · cases h
      · refine Attempts.foldlM_invariant (fun _ _ _ => WellRead.declare) h ?_
        intro direction condition found
        cases direction <;> cases found
  · cases h

theorem wellRead_of_document {source : String} {policies : List ResourcePolicy}
    (h : ofDocument source = .ok policies) : ∀ policy ∈ policies, policy.WellRead := by
  unfold ofDocument at h
  split at h
  · cases h
  · intro policy member
    obtain ⟨node, -, read⟩ := Attempts.exists_of_mem_mapM h member
    exact wellRead_of_node read

theorem wellRead_of_documents {sources : List String} {documents : List (List ResourcePolicy)}
    (h : sources.mapM ofDocument = .ok documents) :
    ∀ policy ∈ documents.flatten, policy.WellRead := by
  intro policy member
  obtain ⟨policies, document, listed⟩ := List.mem_flatten.mp member
  obtain ⟨source, -, read⟩ := Attempts.exists_of_mem_mapM h document
  exact wellRead_of_document read policy listed

/-- The policy has a condition for the type and the direction. -/
def Declares (type : String) (direction : Direction) (policy : ResourcePolicy) : Prop :=
  policy.type.name = type ∧ (policy.conditions.slot direction).isSome

/-- The condition that a policy has for a type and a direction. -/
def condition? (type : String) (direction : Direction) (policy : ResourcePolicy) :
    Option Condition :=
  if policy.type.name = type then policy.conditions.slot direction else none

theorem isSome_condition?_iff {type : String} {direction : Direction} {policy : ResourcePolicy} :
    (policy.condition? type direction).isSome ↔ policy.Declares type direction := by
  by_cases named : policy.type.name = type <;> simp [condition?, Declares, named]

end ResourcePolicy

/-! The registry of some policies -/

namespace Registry

open ResourcePolicy (Declares condition?)

variable {policies : List ResourcePolicy} {type : String} {direction : Direction}

theorem lookup_ofPolicies (policies : List ResourcePolicy) (type : String)
    (direction : Direction) :
    (ofPolicies policies).lookup type direction =
      policies.reverse.findSome? (condition? type direction) := by
  rw [ofPolicies, lookup_foldl fun registry policy =>
    lookup_overlay registry policy.type policy.conditions type direction]
  simp only [lookup_empty, Option.or_none]
  rfl

/-- The last declaration for a slot fills it. -/
theorem lookup_ofPolicies_of_isLast {policy : ResourcePolicy}
    (last : IsLast (·.Declares type direction) policies policy) :
    (ofPolicies policies).lookup type direction = policy.conditions.slot direction := by
  obtain ⟨before, after, split, ⟨named, full⟩, later⟩ := last
  obtain ⟨condition, filled⟩ := Option.isSome_iff_exists.mp full
  rw [lookup_ofPolicies, filled, findSome?_reverse_eq_some_iff]
  simp only [ResourcePolicy.isSome_condition?_iff]
  refine ⟨policy, ⟨before, after, split, ⟨named, full⟩, later⟩, ?_⟩
  rw [condition?, if_pos named, filled]

theorem lookup_ofPolicies_eq_none_iff :
    (ofPolicies policies).lookup type direction = none ↔
      ∀ policy ∈ policies, ¬policy.Declares type direction := by
  rw [lookup_ofPolicies, findSome?_reverse_eq_none_iff]
  simp only [← Option.not_isSome_iff_eq_none, ResourcePolicy.isSome_condition?_iff]

end Registry

/-! Requests that need a rule -/

/-- Another handle shows in a question only as the handle. -/
theorem Request.plan_of_handle {request : Request} {handle : Option QueryHandle}
    {inquiry : Inquiry} (plan : request.plan handle = .ask inquiry) (other : Option QueryHandle) :
    ∃ shown, request.plan other =
      .ask { inquiry with context := { inquiry.context with handle := shown } } := by
  cases request with
  | emit event data socket =>
    refine ⟨other, ?_⟩
    cases h : Action.ofEvent? event with
    | none => simp [Request.plan, h] at plan
    | some action =>
      simp only [Request.plan, h, Plan.ask.injEq] at plan ⊢
      rw [← plan]
  | publishIn channel data socket =>
    cases h : Channel.classify channel <;> simp [Request.plan, h] at plan
  | publishOut channel data socket =>
    refine ⟨other, ?_⟩
    cases h : Channel.classify channel with
    | other | malformed => simp [Request.plan, h] at plan
    | resource query =>
      simp only [Request.plan, h, Plan.ask.injEq] at plan ⊢
      rw [← plan]
  | subscribe channel socket granted =>
    refine ⟨other, ?_⟩
    cases h : Channel.classify channel with
    | other | malformed => simp [Request.plan, h] at plan
    | resource query =>
      simp only [Request.plan, h, Plan.ask.injEq] at plan ⊢
      rw [← plan]
  | readFilter context =>
    refine ⟨context.handle.or other, ?_⟩
    simp only [Request.plan, Plan.ask.injEq] at plan ⊢
    rw [← plan]

/-- A request needs the rule for a type in a direction, and `view` is what conditions get to see of
it, with whatever handle. -/
def Request.Needs (request : Request) (type : String) (direction : Direction) (denial : Denial)
    (view : Json) : Prop :=
  ∀ handle, ∃ inquiry, request.plan handle = .ask inquiry ∧ inquiry.type = some type ∧
    inquiry.direction = direction ∧ inquiry.granted = false ∧ inquiry.denial = denial ∧
    inquiry.context.toJson = view

theorem Request.needs_of_aim?_eq_some {request : Request} {type : String} {direction : Direction}
    (aimed : request.aim? = some (type, direction)) :
    ∃ denial view, request.Needs type direction denial view := by
  obtain ⟨inquiry, plan, named, turned, asked⟩ := plan_of_aim?_eq_some aimed none
  refine ⟨inquiry.denial, inquiry.context.toJson, fun handle => ?_⟩
  obtain ⟨shown, plan'⟩ := plan_of_handle plan handle
  exact ⟨_, plan', named, turned, asked, rfl, rfl⟩

/-- What the value of a condition means for what was asked. -/
def Outcome.ofValue (denial : Denial) : Except Condition.EvalError Bool → Outcome
  | .ok true => .allowed
  | .ok false => .refused (.denied denial)
  | .error e => .refused (.unanswered denial (.failed e.message))

namespace AccessControl

variable {control : AccessControl Condition} {request : Request} {type : String}
  {direction : Direction} {denial : Denial} {view : Json}

theorem outcome_of_unruled (needs : request.Needs type direction denial view)
    (unruled : control.registry.lookup type direction = none) :
    control.outcome request = control.fallback direction denial := by
  obtain ⟨inquiry, plan, named, rfl, -, rfl, -⟩ := needs control.handle
  have empty : control.rule? inquiry.type inquiry.direction = none := by
    rw [named]
    exact unruled
  exact outcome_of_no_rule plan empty

/-- A condition answers at once, so its value decides within every limit. -/
theorem outcome_of_condition_asked {inquiry : Inquiry} {condition : Condition}
    (plan : request.plan control.handle = .ask inquiry)
    (ruled : control.rule? inquiry.type inquiry.direction = some condition)
    (asked : inquiry.granted = false) :
    control.outcome request = .ofValue inquiry.denial (condition.holds inquiry.context.toJson) := by
  have answered : (Evaluator.start condition inquiry.context).answer? =
      some (0, (condition.holds inquiry.context.toJson).mapError (.failed ·.message)) := rfl
  rw [outcome_of_ruled plan ruled asked, Evaluator.decision_fst, answered,
    Decision.within_of_inTime fun t _ => t.zero_le]
  cases condition.holds inquiry.context.toJson with
  | error e => rfl
  | ok truth => cases truth <;> rfl

/-- Where all rules are conditions, every request is decided. -/
theorem outcome_ne_pending (control : AccessControl Condition) (request : Request) :
    control.outcome request ≠ .pending := by
  have fallback_ne (direction : Direction) (denial : Denial) :
      control.fallback direction denial ≠ .pending := by
    unfold fallback
    split <;> simp
  cases plan : request.plan control.handle with
  | pass => simp [outcome, answer, plan, carryOut]
  | refuse refusal => simp [outcome, answer, plan, carryOut]
  | unruled direction denial => simp [outcome, answer, plan, carryOut, fallback_ne]
  | ask inquiry =>
    cases ruled : control.rule? inquiry.type inquiry.direction with
    | none => simp [outcome, answer, plan, carryOut, inquire_of_unruled ruled, fallback_ne]
    | some condition =>
      cases asked : inquiry.granted with
      | true => simp [outcome, answer, plan, carryOut, inquire_of_granted ruled asked]
      | false =>
        rw [outcome_of_condition_asked plan ruled asked]
        cases condition.holds inquiry.context.toJson with
        | error e => simp [Outcome.ofValue]
        | ok truth => cases truth <;> simp [Outcome.ofValue]

theorem outcome_of_condition (needs : request.Needs type direction denial view)
    {condition : Condition}
    (ruled : control.registry.lookup type direction = some condition) :
    control.outcome request = .ofValue denial (condition.holds view) := by
  obtain ⟨inquiry, plan, named, rfl, asked, rfl, rfl⟩ := needs control.handle
  refine outcome_of_condition_asked plan ?_ asked
  rw [named]
  exact ruled

/-- Where all rules are conditions, a decision neither stays away nor comes too late. -/
theorem outcome_in_time (needs : request.Needs type direction denial view) :
    control.outcome request ≠ .pending ∧ ∀ denial' limit,
      control.outcome request ≠ .refused (.unanswered denial' (.timedOut limit)) := by
  cases filled : control.registry.lookup type direction with
  | none =>
    rw [outcome_of_unruled needs filled, fallback]
    split <;> simp
  | some condition =>
    rw [outcome_of_condition needs filled]
    cases condition.holds view with
    | error e => simp [Outcome.ofValue]
    | ok truth => cases truth <;> simp [Outcome.ofValue]

/-- Neither a limit nor a handle has a say where all rules are conditions. -/
theorem outcome_of_registry_eq (needs : request.Needs type direction denial view)
    {other : AccessControl Condition} (rules : other.registry = control.registry)
    (blocks : other.defaults.blocks direction = control.defaults.blocks direction) :
    other.outcome request = control.outcome request := by
  cases filled : control.registry.lookup type direction with
  | none =>
    rw [outcome_of_unruled needs filled, outcome_of_unruled needs (rules ▸ filled), fallback,
      fallback, blocks]
  | some condition =>
    rw [outcome_of_condition needs filled, outcome_of_condition needs (rules ▸ filled)]

/-- Documents decide as they are written. Where none declares a rule, `blockInbound` decides on what
clients do and `blockOutbound` on what goes out to them. -/
theorem documents_decide {sources : List String} {documents : List (List ResourcePolicy)}
    (read : sources.mapM ResourcePolicy.ofDocument = .ok documents) {request : Request}
    {type : String} {direction : Direction} (aimed : request.aim? = some (type, direction)) :
    ∃ denial view, request.Needs type direction denial view ∧
      ∀ defaults handle,
        let control : AccessControl Condition := ⟨.ofPolicies documents.flatten, defaults, handle⟩
        ((∀ policy ∈ documents.flatten, ¬policy.Declares type direction) →
          (direction = .inbound → control.outcome request =
            if defaults.blockInbound then .refused (.noRule denial) else .allowed) ∧
          (direction = .outbound → control.outcome request =
            if defaults.blockOutbound then .refused (.noRule denial) else .allowed)) ∧
        (∀ policy, IsLast (·.Declares type direction) documents.flatten policy →
          ∃ condition expr, policy.conditions.slot direction = some condition ∧
            Condition.parse condition.source = .ok expr ∧
            control.outcome request = .ofValue denial (Condition.evaluate expr view)) ∧
        (∀ timeout handle', outcome ⟨control.registry, { defaults with timeout }, handle'⟩ request =
          control.outcome request) ∧
        control.outcome request ≠ .pending ∧
        ∀ denial' limit,
          control.outcome request ≠ .refused (.unanswered denial' (.timedOut limit)) := by
  obtain ⟨denial, view, needs⟩ := Request.needs_of_aim?_eq_some aimed
  refine ⟨denial, view, needs, fun defaults handle => ?_⟩
  intro control
  refine ⟨?_, ?_, ?_, ?_⟩
  · intro undeclared
    have falls : control.outcome request = control.fallback direction denial :=
      outcome_of_unruled needs (Registry.lookup_ofPolicies_eq_none_iff.mpr undeclared)
    constructor
    · rintro rfl
      exact falls
    · rintro rfl
      exact falls
  · intro policy last
    have ruled := Registry.lookup_ofPolicies_of_isLast last
    obtain ⟨before, after, split, ⟨-, full⟩, -⟩ := last
    obtain ⟨condition, filled⟩ := Option.isSome_iff_exists.mp full
    have wellRead := ResourcePolicy.wellRead_of_documents read policy (by simp [split])
    rw [filled] at ruled
    exact ⟨condition, condition.expr, filled, wellRead direction condition filled,
      outcome_of_condition needs ruled⟩
  · intro timeout handle'
    refine outcome_of_registry_eq needs rfl ?_
    cases direction <;> rfl
  · exact outcome_in_time needs

end AccessControl

/-! Two documents for one slot -/

theorem Condition.tokens_word (k : Keyword) : tokens k.word = .ok [.name k.word] := by
  have t : lexeme 't' ['r', 'u', 'e'] = .token (.name "true") [] (by decide) := rfl
  have f : lexeme 'f' ['a', 'l', 's', 'e'] = .token (.name "false") [] (by decide) := rfl
  have n : lexeme 'n' ['u', 'l', 'l'] = .token (.name "null") [] (by decide) := rfl
  have inked : Text.isBlank 't' = false ∧ Text.isBlank 'f' = false ∧ Text.isBlank 'n' = false :=
    ⟨rfl, rfl, rfl⟩
  cases k <;> simp [Keyword.word, tokens, tokensWithin, inked, t, f, n, Except.map]

/-- A word that is a value is a condition by itself. -/
theorem Condition.parse_word (k : Keyword) : parse k.word = .ok (.literal k.value) := by
  simp [parse, tokens_word, parseTokens, parseBinary, parseUnary, parsePrimary, parseOperators,
    wordLiteral?_word, bind, Except.bind]

/-- The declaration of one rule for what clients do to `A`. -/
def ruleNode (condition : String) : Kdl.Node :=
  .node "resource" [.argument (.string "A")]
    (some [.node "inbound" [.argument (.string condition)] none])

def isRuleRow (condition : String) : Option (List Kdl.Node) → Bool
  | some [.node "resource" [.argument (.string "A")]
      (some [.node "inbound" [.argument (.string source)] none])] => source == condition
  | _ => false

theorem eq_of_isRuleRow {condition : String} {nodes : Option (List Kdl.Node)}
    (h : isRuleRow condition nodes = true) : nodes = some [ruleNode condition] := by
  unfold isRuleRow at h
  split at h
  · rw [eq_of_beq h, ruleNode]
  · cases h

def rulePolicy (k : Condition.Keyword) : ResourcePolicy :=
  ⟨⟨"A", by decide⟩, .single ⟨k.word, .literal k.value⟩ .inbound⟩

theorem ofDocument_of_isRuleRow {source : String} {k : Condition.Keyword}
    (written : isRuleRow k.word (Kdl.parse? source) = true) :
    ResourcePolicy.ofDocument source = .ok [rulePolicy k] := by
  have named : TypeName.ofString "A" = .ok ⟨"A", by decide⟩ := by decide
  have slot : Direction.ofName? "inbound" = some .inbound := by decide
  have declared : ResourcePolicy.ofNode (ruleNode k.word) = .ok (rulePolicy k) := by
    simp [ResourcePolicy.ofNode, ruleNode, Kdl.Node.name, Kdl.Node.firstString?, Kdl.Node.entries,
      Kdl.Node.children, named, ResourcePolicy.declare, slot, Condition.ofSource,
      Condition.parse_word, Except.map, AccessRule.empty, AccessRule.slot, AccessRule.single,
      AccessRule.overlay, rulePolicy]
  rw [ResourcePolicy.ofDocument, eq_of_isRuleRow written]
  simp only [List.mapM_cons, List.mapM_nil, declared]
  rfl

namespace AccessControl

/-- The first document forbids what clients do to `A`, and the second, which counts, permits it.
Neither of them mentions what goes out of `A`. -/
theorem documents_decide_last :
    ∃ documents,
      ["resource A\x7binbound \"false\"\x7d", "resource A\x7binbound \"true\"\x7d"].mapM
        ResourcePolicy.ofDocument = .ok documents ∧
      ∀ (defaults : Defaults) (handle : Option QueryHandle),
        outcome ⟨.ofPolicies documents.flatten, defaults, handle⟩
          (.emit "create" (.object [("type", .string "A")]) ⟨"", none⟩) = .allowed ∧
        outcome ⟨.ofPolicies documents.flatten, defaults, handle⟩
          (.publishOut "crud>A" .null ⟨"", none⟩) =
            if defaults.blockOutbound then .refused (.noRule (.broadcast "crud>A"))
            else .allowed := by
  have first := @ofDocument_of_isRuleRow "resource A\x7binbound \"false\"\x7d" .false
    (by decide +kernel)
  have second := @ofDocument_of_isRuleRow "resource A\x7binbound \"true\"\x7d" .true
    (by decide +kernel)
  have read := Attempts.mapM_eq_ok_iff.mpr (.cons first (.cons second .nil))
  refine ⟨_, read, fun defaults handle => ⟨?_, ?_⟩⟩
  · obtain ⟨denial, view, -, decided⟩ := @documents_decide _ _ read
      (.emit "create" (.object [("type", .string "A")]) ⟨"", none⟩) "A" .inbound rfl
    obtain ⟨-, declared, -⟩ := decided defaults handle
    have counts : IsLast (·.Declares "A" .inbound) [rulePolicy .false, rulePolicy .true]
        (rulePolicy .true) := ⟨[_], [], rfl, ⟨rfl, rfl⟩, by simp⟩
    obtain ⟨condition, expr, filled, parsed, outcome_eq⟩ := declared _ counts
    cases filled
    cases (Condition.parse_word .true).symm.trans parsed
    exact outcome_eq
  · obtain ⟨denial, view, needs, decided⟩ := @documents_decide _ _ read
      (.publishOut "crud>A" .null ⟨"", none⟩) "A" .outbound rfl
    obtain ⟨inquiry, plan, -, -, -, rfl, -⟩ := needs none
    have asked : inquiry.denial = .broadcast "crud>A" :=
      congrArg Inquiry.denial (Plan.ask.inj plan).symm
    obtain ⟨undeclared, -⟩ := decided defaults handle
    rw [← asked]
    refine (undeclared ?_).2 rfl
    rintro policy member ⟨-, full⟩
    simp only [List.flatten_cons, List.flatten_nil, List.cons_append, List.nil_append,
      List.mem_cons, List.not_mem_nil, or_false] at member
    rcases member with rfl | rfl <;> cases full

end AccessControl

end ChannelGuard
