import ChannelGuard.Proofs.DeclaredRules
import Mathlib.Data.List.Induction
import Mathlib.Data.List.Nodup

/-!
# Reading policies

A node of a document makes a policy if it is a resource with a proper name and each of its children
gives another direction a condition that can be parsed. Otherwise the first thing that is wrong with
it decides the error, and the first such node decides that of its document. Nothing that stands
after it has a say.
-/

namespace ChannelGuard

/-! What nodes say -/

theorem Direction.name_injective {slot slot' : Direction} (same : slot.name = slot'.name) :
    slot = slot' := by
  cases slot <;> cases slot' <;> simp [name] at same ⊢

theorem Direction.ofName?_eq_some_iff {name : String} {slot : Direction} :
    ofName? name = some slot ↔ name = slot.name := by
  constructor
  · intro found
    have same := List.find?_some found
    exact (eq_of_beq same).symm
  · rintro rfl
    cases slot <;> rfl

theorem Direction.ofName?_eq_none_iff {name : String} :
    ofName? name = none ↔ ∀ slot : Direction, name ≠ slot.name := by
  rw [Option.eq_none_iff_forall_ne_some]
  simp only [ne_eq, ofName?_eq_some_iff]

namespace Kdl.Node

/-- The value of the first entry of a node that is no property. -/
def FirstArgument (node : Node) (value : Value) : Prop :=
  ∃ before after, node.entries = before ++ .argument value :: after ∧
    ∀ entry ∈ before, ∃ name value, entry = .property name value

theorem firstString?_eq_some_iff {node : Node} {s : String} :
    node.firstString? = some s ↔ node.FirstArgument (.string s) := by
  unfold firstString? FirstArgument
  rw [Option.join_eq_some_iff, List.findSome?_eq_some_iff]
  constructor
  · rintro ⟨before, entry, after, split, found, skipped⟩
    have string : entry = .argument (.string s) := by
      rcases entry with (_ | _ | _ | _) | _ <;> simp at found ⊢
      exact found
    refine ⟨before, after, string ▸ split, fun entry member => ?_⟩
    have skip := skipped entry member
    rcases entry with (_ | _ | _ | _) | ⟨name, value⟩ <;> simp at skip
    exact ⟨name, value, rfl⟩
  · rintro ⟨before, after, split, properties⟩
    refine ⟨before, _, after, split, rfl, fun entry member => ?_⟩
    obtain ⟨name, value, rfl⟩ := properties entry member
    rfl

theorem firstString?_eq_none_iff {node : Node} :
    node.firstString? = none ↔ ∀ s, ¬node.FirstArgument (.string s) := by
  rw [Option.eq_none_iff_forall_ne_some]
  simp only [ne_eq, firstString?_eq_some_iff]

theorem FirstArgument.string_unique {node : Node} {s t : String}
    (first : node.FirstArgument (.string s)) (other : node.FirstArgument (.string t)) : s = t := by
  rw [← firstString?_eq_some_iff] at first other
  exact Option.some.inj (first.symm.trans other)

/-- The node gives a slot a condition. -/
structure Fills (node : Node) (slot : Direction) (condition : Condition) : Prop where
  named : node.name = slot.name
  given : node.FirstArgument (.string condition.source)
  parsed : Condition.parse condition.source = .ok condition.expr

theorem Fills.unique {node : Node} {slot slot' : Direction} {condition condition' : Condition}
    (fills : node.Fills slot condition) (other : node.Fills slot' condition') :
    slot = slot' ∧ condition = condition' := by
  refine ⟨Direction.name_injective (fills.named.symm.trans other.named), ?_⟩
  cases condition
  cases condition'
  cases fills.given.string_unique other.given
  cases fills.parsed.symm.trans other.parsed
  rfl

end Kdl.Node

namespace ResourcePolicy

open Kdl (Node)

variable {policy next : ResourcePolicy} {before children : List Node} {node child : Node}
  {slot : Direction} {condition : Condition} {e : PolicyError}

/-! Rows of children -/

/-- Each child fills a slot, and no two the same. -/
structure Sound (children : List Node) : Prop where
  filling : ∀ child ∈ children, ∃ slot condition, child.Fills slot condition
  once : (children.map Node.name).Nodup

/-- The conditions of a rule are those that the children give. -/
def Collects (children : List Node) (rule : AccessRule Condition) : Prop :=
  ∀ slot condition, rule.slot slot = some condition ↔ ∃ child ∈ children, child.Fills slot condition

/-- What is wrong with a child of the resource `type` that stands after `before`. -/
inductive ChildFault (type : String) (before : List Node) (child : Node) : PolicyError → Prop where
  | unexpected (unnamed : ∀ slot : Direction, child.name ≠ slot.name) :
    ChildFault type before child (.invalid (.unexpectedChild child.name type))
  | duplicate (slot : Direction) (named : child.name = slot.name)
      (known : child.name ∈ before.map Node.name) :
    ChildFault type before child (.invalid (.duplicateSlot slot type))
  | missing (slot : Direction) (named : child.name = slot.name)
      (new : child.name ∉ before.map Node.name)
      (lacking : ∀ source, ¬child.FirstArgument (.string source)) :
    ChildFault type before child (.invalid (.missingCondition slot type))
  | condition (slot : Direction) (source : String) (error : Condition.SyntaxError)
      (named : child.name = slot.name) (new : child.name ∉ before.map Node.name)
      (given : child.FirstArgument (.string source))
      (unparsed : Condition.parse source = .error error) :
    ChildFault type before child (.invalidCondition error)

theorem Collects.isSome_slot_iff {rule : AccessRule Condition} (collects : Collects before rule)
    (sound : Sound before) : (rule.slot slot).isSome ↔ slot.name ∈ before.map Node.name := by
  rw [Option.isSome_iff_exists, List.mem_map]
  constructor
  · rintro ⟨condition, held⟩
    obtain ⟨child, member, fills⟩ := (collects slot condition).mp held
    exact ⟨child, member, fills.named⟩
  · rintro ⟨child, member, named⟩
    obtain ⟨slot', condition, fills⟩ := sound.filling child member
    obtain rfl := Direction.name_injective (named.symm.trans fills.named)
    exact ⟨condition, (collects slot condition).mpr ⟨child, member, fills⟩⟩

theorem Collects.slot_eq_none_iff {rule : AccessRule Condition} (collects : Collects before rule)
    (sound : Sound before) : rule.slot slot = none ↔ slot.name ∉ before.map Node.name := by
  rw [← Option.not_isSome_iff_eq_none, collects.isSome_slot_iff sound]

theorem Collects.unique {rule rule' : AccessRule Condition} (collects : Collects children rule)
    (others : Collects children rule') : rule = rule' := by
  have same (slot : Direction) : rule.slot slot = rule'.slot slot :=
    Option.ext fun condition => (collects slot condition).trans (others slot condition).symm
  cases rule
  cases rule'
  exact congrArg₂ AccessRule.mk (same .inbound) (same .outbound)

/-- A child that fills a slot which was free leaves the others as they were. -/
theorem Collects.append {rule : AccessRule Condition} (collects : Collects before rule)
    (free : rule.slot slot = none) (fills : child.Fills slot condition) :
    Collects (before ++ [child]) (rule.overlay (.single condition slot)) := by
  intro slot' condition'
  rw [AccessRule.slot_overlay, Option.or_eq_some_iff, collects slot' condition']
  simp only [List.mem_append, List.mem_singleton, or_and_right, exists_or, exists_eq_left]
  by_cases here : slot' = slot
  · subst here
    have unfilled : ¬∃ child ∈ before, child.Fills slot' condition' := by
      rw [← collects slot' condition', free]
      simp
    simp only [AccessRule.slot_single_self, Option.some.injEq, reduceCtorEq, false_and, or_false,
      unfilled, false_or]
    constructor
    · rintro rfl
      exact fills
    · exact fun other => (fills.unique other).2
  · have elsewhere : ¬child.Fills slot' condition' := fun other => here (other.unique fills).1
    simp only [AccessRule.slot_single_of_ne _ here, reduceCtorEq, true_and, false_or, elsewhere,
      or_false]

/-! One more child -/

theorem declare_of_fills (fills : child.Fills slot condition)
    (free : policy.conditions.slot slot = none) :
    policy.declare child =
      .ok { policy with conditions := policy.conditions.overlay (.single condition slot) } := by
  have named := Direction.ofName?_eq_some_iff.mpr fills.named
  have given := Kdl.Node.firstString?_eq_some_iff.mpr fills.given
  simp [declare, named, free, given, Condition.ofSource, fills.parsed, Except.map]

theorem declare_eq_ok_iff (collects : Collects before policy.conditions) (sound : Sound before) :
    policy.declare child = .ok next ↔
      (∃ slot condition, child.Fills slot condition) ∧ child.name ∉ before.map Node.name ∧
        next.type = policy.type ∧ Collects (before ++ [child]) next.conditions := by
  constructor
  · intro declared
    obtain ⟨slot, source, expr, named, free, given, parsed, rfl⟩ := declare_eq_ok declared
    have fills : child.Fills slot ⟨source, expr⟩ :=
      ⟨Direction.ofName?_eq_some_iff.mp named, Kdl.Node.firstString?_eq_some_iff.mp given, parsed⟩
    refine ⟨⟨slot, _, fills⟩, ?_, rfl, collects.append free fills⟩
    rw [fills.named]
    exact (collects.slot_eq_none_iff sound).mp free
  · rintro ⟨⟨slot, condition, fills⟩, new, sameType, collected⟩
    have free := (collects.slot_eq_none_iff sound).mpr (fills.named ▸ new)
    rw [declare_of_fills fills free]
    have sameConditions := (collects.append free fills).unique collected
    cases next
    cases sameType
    rw [sameConditions]

theorem declare_eq_error_iff (collects : Collects before policy.conditions)
    (sound : Sound before) :
    policy.declare child = .error e ↔ ChildFault policy.type.name before child e := by
  have occupied (slot : Direction) := @Collects.isSome_slot_iff before slot _ collects sound
  constructor
  · intro failed
    unfold declare at failed
    split at failed
    · next unnamed =>
      cases failed
      exact .unexpected (Direction.ofName?_eq_none_iff.mp unnamed)
    · next slot named =>
      rw [Direction.ofName?_eq_some_iff] at named
      split at failed
      · next full =>
        cases failed
        exact .duplicate slot named (named ▸ (occupied slot).mp full)
      · next free =>
        have new : child.name ∉ before.map Node.name := named ▸ mt (occupied slot).mpr free
        split at failed
        · next lacking =>
          cases failed
          exact .missing slot named new (Kdl.Node.firstString?_eq_none_iff.mp lacking)
        · next source given =>
          rw [Kdl.Node.firstString?_eq_some_iff] at given
          cases parsed : Condition.parse source with
          | ok expr => simp [Condition.ofSource, parsed, Except.map] at failed
          | error error =>
            simp only [Condition.ofSource, parsed, Except.map, Except.error.injEq] at failed
            rw [← failed]
            exact .condition slot source error named new given parsed
  · intro fault
    cases fault with
    | unexpected unnamed => simp [declare, Direction.ofName?_eq_none_iff.mpr unnamed]
    | duplicate slot named known =>
      have full := (occupied slot).mpr (named ▸ known)
      simp [declare, Direction.ofName?_eq_some_iff.mpr named, full]
    | missing slot named new lacking =>
      have free := (collects.slot_eq_none_iff sound).mpr (named ▸ new)
      simp [declare, Direction.ofName?_eq_some_iff.mpr named, free,
        Kdl.Node.firstString?_eq_none_iff.mpr lacking]
    | condition slot source error named new given unparsed =>
      have free := (collects.slot_eq_none_iff sound).mpr (named ▸ new)
      simp [declare, Direction.ofName?_eq_some_iff.mpr named, free,
        Kdl.Node.firstString?_eq_some_iff.mpr given, Condition.ofSource, unparsed, Except.map]

/-! All children -/

theorem sound_append_singleton_iff :
    Sound (before ++ [child]) ↔
      Sound before ∧ (∃ slot condition, child.Fills slot condition) ∧
        child.name ∉ before.map Node.name := by
  have names : ((before ++ [child]).map Node.name).Nodup ↔
      child.name ∉ before.map Node.name ∧ (before.map Node.name).Nodup := by
    rw [List.map_append, List.map_singleton, ← List.concat_eq_append, List.nodup_concat]
  constructor
  · rintro ⟨filling, once⟩
    obtain ⟨new, earlier⟩ := names.mp once
    exact ⟨⟨fun other member => filling other (by simp [member]), earlier⟩,
      filling child (by simp), new⟩
  · rintro ⟨⟨filling, earlier⟩, last, new⟩
    refine ⟨fun other member => ?_, names.mpr ⟨new, earlier⟩⟩
    rcases List.mem_append.mp member with member | member
    · exact filling other member
    · obtain rfl := List.mem_singleton.mp member
      exact last

theorem collects_nil : Collects [] .empty := by
  intro slot condition
  cases slot <;> simp [AccessRule.slot, AccessRule.empty]

theorem Sound.exists_collects (sound : Sound children) : ∃ rule, Collects children rule := by
  induction children using List.reverseRecOn with
  | nil => exact ⟨.empty, collects_nil⟩
  | append_singleton before child ih =>
    obtain ⟨earlier, ⟨slot, condition, fills⟩, new⟩ := sound_append_singleton_iff.mp sound
    obtain ⟨rule, collects⟩ := ih earlier
    have free := (collects.slot_eq_none_iff earlier).mpr (fills.named ▸ new)
    exact ⟨_, collects.append free fills⟩

/-- A run through the children succeeds on sound ones only, and collects their conditions. -/
theorem foldlM_declare_eq_ok_iff {type : TypeName} :
    children.foldlM declare ⟨type, .empty⟩ = .ok policy ↔
      Sound children ∧ policy.type = type ∧ Collects children policy.conditions := by
  induction children using List.reverseRecOn generalizing policy with
  | nil =>
    constructor
    · intro run
      cases run
      exact ⟨⟨by simp, by simp⟩, rfl, collects_nil⟩
    · rintro ⟨-, rfl, collects⟩
      have ruleless : policy.conditions = .empty := collects.unique collects_nil
      rw [← ruleless]
      rfl
  | append_singleton before child ih =>
    simp only [List.foldlM_append, List.foldlM_cons, List.foldlM_nil, bind_pure,
      Attempts.bind_eq_ok_iff, ih, sound_append_singleton_iff]
    constructor
    · rintro ⟨middle, ⟨sound, rfl, collects⟩, declared⟩
      obtain ⟨fills, new, sameType, collected⟩ := (declare_eq_ok_iff collects sound).mp declared
      exact ⟨⟨sound, fills, new⟩, sameType, collected⟩
    · rintro ⟨⟨sound, fills, new⟩, rfl, collected⟩
      obtain ⟨rule, collects⟩ := sound.exists_collects
      refine ⟨⟨policy.type, rule⟩, ⟨sound, rfl, collects⟩, ?_⟩
      exact (declare_eq_ok_iff collects sound).mpr ⟨fills, new, rfl, collected⟩

theorem foldlM_declare_eq_error_iff {type : TypeName} :
    children.foldlM declare ⟨type, .empty⟩ = .error e ↔
      ∃ before bad after, children = before ++ bad :: after ∧ Sound before ∧
        ChildFault type.name before bad e := by
  simp only [Attempts.foldlM_eq_error_iff, foldlM_declare_eq_ok_iff]
  constructor
  · rintro ⟨before, bad, after, middle, split, ⟨sound, rfl, collects⟩, failed⟩
    exact ⟨before, bad, after, split, sound, (declare_eq_error_iff collects sound).mp failed⟩
  · rintro ⟨before, bad, after, split, sound, fault⟩
    obtain ⟨rule, collects⟩ := sound.exists_collects
    refine ⟨before, bad, after, ⟨type, rule⟩, split, ⟨sound, rfl, collects⟩, ?_⟩
    exact (declare_eq_error_iff collects sound).mpr fault

/-! Nodes -/

/-- A node is about the resource `type`. -/
structure Heads (node : Node) (type : String) : Prop where
  named : node.name = "resource"
  given : node.FirstArgument (.string type)
  proper : ProperName type

/-- What is wrong with a node apart from its children. -/
inductive HeadFault (node : Node) : PolicyError → Prop where
  | unexpected (unnamed : node.name ≠ "resource") :
    HeadFault node (.invalid (.unexpectedNode node.name))
  | missingType (named : node.name = "resource")
      (lacking : ∀ name, ¬node.FirstArgument (.string name)) :
    HeadFault node (.invalid .missingType)
  | invalidType (name : String) (named : node.name = "resource")
      (given : node.FirstArgument (.string name)) (improper : ¬ProperName name) :
    HeadFault node (.invalidType ⟨name⟩)

/-- A node is a resource, and its children are its rules. -/
structure Acceptable (node : Node) : Prop where
  heads : ∃ type, Heads node type
  sound : Sound node.children

/-- The policy is what an acceptable node says. -/
structure Says (node : Node) (policy : ResourcePolicy) : Prop where
  type : node.FirstArgument (.string policy.type.name)
  conditions : Collects node.children policy.conditions

/-- The first thing that is wrong with a node. -/
inductive Fault (node : Node) : PolicyError → Prop where
  | head {e : PolicyError} (fault : HeadFault node e) : Fault node e
  | child {e : PolicyError} (type : String) (before : List Node) (bad : Node) (after : List Node)
      (heads : Heads node type) (split : node.children = before ++ bad :: after)
      (sound : Sound before) (fault : ChildFault type before bad e) : Fault node e

/-- The type that a node is about. -/
def typeOf (node : Node) : Except PolicyError TypeName :=
  if node.name = "resource" then
    match node.firstString? with
    | none => .error (.invalid .missingType)
    | some name => (TypeName.ofString name).mapError .invalidType
  else .error (.invalid (.unexpectedNode node.name))

theorem ofNode_eq (node : Node) :
    ofNode node = typeOf node >>= fun type => node.children.foldlM declare ⟨type, .empty⟩ := by
  unfold ofNode typeOf
  split
  · cases node.firstString? with
    | none => rfl
    | some name =>
      cases given : TypeName.ofString name <;>
        simp [given, Except.mapError, bind, Except.bind]
  · rfl

theorem typeOf_eq_ok_iff {type : TypeName} : typeOf node = .ok type ↔ Heads node type.name := by
  constructor
  · intro read
    unfold typeOf at read
    split at read
    · next named =>
      split at read
      · cases read
      · next name given =>
        have proper : TypeName.ofString name = .ok type := by
          cases made : TypeName.ofString name <;> simp [made, Except.mapError] at read ⊢
          exact read
        rw [TypeName.ofString_eq_ok_iff] at proper
        subst proper
        exact ⟨named, Kdl.Node.firstString?_eq_some_iff.mp given, isTypeName_iff.mp type.valid⟩
    · cases read
  · rintro ⟨named, given, -⟩
    simp [typeOf, named, Kdl.Node.firstString?_eq_some_iff.mpr given, Except.mapError]

theorem typeOf_eq_error_iff : typeOf node = .error e ↔ HeadFault node e := by
  constructor
  · intro failed
    unfold typeOf at failed
    split at failed
    · next named =>
      split at failed
      · next lacking =>
        cases failed
        exact .missingType named (Kdl.Node.firstString?_eq_none_iff.mp lacking)
      · next name given =>
        unfold TypeName.ofString at failed
        split at failed
        · cases failed
        · next improper =>
          cases failed
          exact .invalidType name named (Kdl.Node.firstString?_eq_some_iff.mp given)
            (mt isTypeName_iff.mpr improper)
    · next unnamed =>
      cases failed
      exact .unexpected unnamed
  · intro fault
    cases fault with
    | unexpected unnamed => simp [typeOf, unnamed]
    | missingType named lacking =>
      simp [typeOf, named, Kdl.Node.firstString?_eq_none_iff.mpr lacking]
    | invalidType name named given improper =>
      simp [typeOf, named, Kdl.Node.firstString?_eq_some_iff.mpr given, TypeName.ofString,
        mt isTypeName_iff.mp improper, Except.mapError]

theorem ofNode_eq_ok_iff : ofNode node = .ok policy ↔ Acceptable node ∧ Says node policy := by
  simp only [ofNode_eq, Attempts.bind_eq_ok_iff, typeOf_eq_ok_iff, foldlM_declare_eq_ok_iff]
  constructor
  · rintro ⟨type, heads, sound, rfl, collects⟩
    exact ⟨⟨⟨_, heads⟩, sound⟩, heads.given, collects⟩
  · rintro ⟨⟨⟨name, heads⟩, sound⟩, given, collects⟩
    obtain rfl := heads.given.string_unique given
    exact ⟨policy.type, heads, sound, rfl, collects⟩

theorem ofNode_eq_error_iff : ofNode node = .error e ↔ Fault node e := by
  simp only [ofNode_eq, Attempts.bind_eq_error_iff, typeOf_eq_ok_iff, typeOf_eq_error_iff,
    foldlM_declare_eq_error_iff]
  constructor
  · rintro (fault | ⟨type, heads, before, bad, after, split, sound, fault⟩)
    · exact .head fault
    · exact .child _ before bad after heads split sound fault
  · intro fault
    cases fault with
    | head fault => exact .inl fault
    | child type before bad after heads split sound fault =>
      exact .inr ⟨⟨type, isTypeName_iff.mpr heads.proper⟩, heads, before, bad, after, split, sound,
        fault⟩

theorem exists_ofNode_eq_ok_iff : (∃ policy, ofNode node = .ok policy) ↔ Acceptable node := by
  simp only [ofNode_eq_ok_iff, exists_and_left]
  refine ⟨And.left, fun acceptable => ⟨acceptable, ?_⟩⟩
  obtain ⟨type, heads⟩ := acceptable.heads
  obtain ⟨rule, collects⟩ := acceptable.sound.exists_collects
  exact ⟨⟨⟨type, isTypeName_iff.mpr heads.proper⟩, rule⟩, heads.given, collects⟩

/-! Documents -/

theorem mapM_ofNode_eq_error_iff {nodes : List Node} :
    nodes.mapM ofNode = .error e ↔
      ∃ before bad after, nodes = before ++ bad :: after ∧ (∀ node ∈ before, Acceptable node) ∧
        Fault bad e := by
  simp only [Attempts.mapM_eq_error_iff, exists_ofNode_eq_ok_iff, ofNode_eq_error_iff]

/-- A document gives one policy for each of its nodes, or the error of the first that is at fault.
Neither the children nor the nodes after a fault count. -/
theorem policies_or_first_fault :
    (∀ source, Kdl.parse? source = none → ofDocument source = .error .malformed) ∧
    (∀ source nodes, Kdl.parse? source = some nodes → ofDocument source = nodes.mapM ofNode) ∧
    (∀ nodes : List Node,
      ((∃ policies, nodes.mapM ofNode = .ok policies) ↔ ∀ node ∈ nodes, Acceptable node) ∧
      (∀ policies, nodes.mapM ofNode = .ok policies ↔
        List.Forall₂ (fun node policy => Acceptable node ∧ Says node policy) nodes policies) ∧
      (∀ e, nodes.mapM ofNode = .error e ↔
        ∃ before bad after, nodes = before ++ bad :: after ∧
          (∀ node ∈ before, Acceptable node) ∧ Fault bad e)) ∧
    (∀ before node e, (∀ earlier ∈ before, Acceptable earlier) →
      (HeadFault node e → ∀ children after,
        (before ++ Node.node node.name node.entries children :: after).mapM ofNode = .error e) ∧
      (∀ type early bad, Heads node type → Sound early → ChildFault type early bad e →
        ∀ late after, (before ++ Node.node node.name node.entries (some (early ++ bad :: late)) ::
          after).mapM ofNode = .error e)) := by
  refine ⟨?_, ?_, ?_, ?_⟩
  · intro source unread
    simp [ofDocument, unread]
  · intro source nodes read
    simp [ofDocument, read]
  · intro nodes
    refine ⟨?_, fun policies => ?_, fun e => mapM_ofNode_eq_error_iff⟩
    · simp only [Attempts.exists_mapM_eq_ok_iff, exists_ofNode_eq_ok_iff]
    · simp only [Attempts.mapM_eq_ok_iff, ofNode_eq_ok_iff]
  · intro before node e acceptable
    constructor
    · intro fault children after
      refine mapM_ofNode_eq_error_iff.mpr ⟨before, _, after, rfl, acceptable, .head ?_⟩
      cases fault with
      | unexpected unnamed => exact .unexpected unnamed
      | missingType named lacking => exact .missingType named lacking
      | invalidType name named given improper => exact .invalidType name named given improper
    · intro type early bad heads sound fault late after
      refine mapM_ofNode_eq_error_iff.mpr ⟨before, _, after, rfl, acceptable, ?_⟩
      exact .child type early bad late ⟨heads.named, heads.given, heads.proper⟩ rfl sound fault

/-- A node of an improper type with a child that is no slot. -/
def misnamed : Node :=
  .node "resource" [.argument (.string "A/1")] (some [.node "sideways" [] none])

theorem policies_or_first_fault_misnamed :
    ofDocument "\x7d" = .error .malformed ∧
    (∃ policies, ofDocument "resource A\x7binbound \"true\"\x7d" = .ok policies) ∧
    [ruleNode "true", misnamed, .node "role" [] none].mapM ofNode = .error (.invalidType ⟨"A/1"⟩) ∧
    [ruleNode "true", .node "resource" [.argument (.string "A")]
      (some [.node "sideways" [] none, .node "inbound" [] none]), misnamed].mapM ofNode =
        .error (.invalid (.unexpectedChild "sideways" "A")) := by
  obtain ⟨malformed, read, rows, later⟩ := policies_or_first_fault
  have unread : Kdl.parse? "\x7d" = none := by
    rw [← Option.isNone_iff_eq_none]
    decide +kernel
  have written := @eq_of_isRuleRow "true" (Kdl.parse? "resource A\x7binbound \"true\"\x7d")
    (by decide +kernel)
  have fills : (Node.node "inbound" [.argument (.string "true")] none).Fills .inbound
      ⟨"true", .literal (.bool true)⟩ :=
    ⟨rfl, ⟨[], [], rfl, by simp⟩, Condition.parse_word .true⟩
  have heads : Heads (ruleNode "true") "A" := ⟨rfl, ⟨[], [], rfl, by simp⟩, by decide⟩
  have acceptable : ∀ node ∈ [ruleNode "true"], Acceptable node := by
    intro node member
    obtain rfl := List.mem_singleton.mp member
    refine ⟨⟨"A", heads⟩, ?_, by simp [ruleNode, Node.children]⟩
    intro child listed
    obtain rfl := List.mem_singleton.mp listed
    exact ⟨_, _, fills⟩
  refine ⟨malformed _ unread, ?_, ?_, ?_⟩
  · rw [read _ _ written]
    exact (rows _).1.mpr acceptable
  · refine (later [ruleNode "true"] misnamed _ acceptable).1 ?_ _ [.node "role" [] none]
    exact .invalidType "A/1" rfl ⟨[], [], rfl, by simp⟩ (by decide)
  · refine (later [ruleNode "true"] (ruleNode "true") _ acceptable).2 "A" [] _ heads
      ⟨by simp, by simp⟩ (.unexpected ?_) [.node "inbound" [] none] [misnamed]
    intro slot
    cases slot <;> decide

end ResourcePolicy

end ChannelGuard
