import ChannelGuard.Proofs.PolicyReading

/-!
# Parts of policies that do not count

Of a node only the name, the first argument and the children count, and of a child again only the
name and the first argument. Whatever else there is, further arguments, properties and what the
children hold in turn, is neither an error nor of any effect: a second condition that stands behind
the first is lost.
-/

namespace ChannelGuard

namespace Kdl

def Entry.isArgument : Entry → Bool
  | argument _ => true
  | property .. => false

namespace Node

/-- The node with its first argument as its only entry, and another block if it has one. -/
def pruned (block : List Node → List Node) : Node → Node
  | node name entries children =>
    node name (entries.find? Entry.isArgument).toList (children.map block)

/-- The node without the parts that do not count. -/
def essence : Node → Node := pruned (List.map (pruned fun _ => []))

variable {block : List Node → List Node}

@[simp] theorem name_pruned (n : Node) : (n.pruned block).name = n.name := by
  cases n
  rfl

theorem entries_pruned (n : Node) :
    (n.pruned block).entries = (n.entries.find? Entry.isArgument).toList := by
  cases n
  rfl

theorem children_pruned (n : Node) (empty : block [] = []) :
    (n.pruned block).children = block n.children := by
  cases n with
  | node name entries children =>
    cases children with
    | none => exact empty.symm
    | some children => rfl

theorem firstArgument_iff {n : Node} {value : Value} :
    n.FirstArgument value ↔ n.entries.find? Entry.isArgument = some (.argument value) := by
  have skipped (entry : Entry) :
      (!entry.isArgument) = true ↔ ∃ name value, entry = .property name value := by
    cases entry <;> simp [Entry.isArgument]
  rw [List.find?_eq_some_iff_append]
  simp only [skipped]
  constructor
  · rintro ⟨before, after, split, properties⟩
    exact ⟨rfl, before, after, split, properties⟩
  · rintro ⟨-, before, after, split, properties⟩
    exact ⟨before, after, split, properties⟩

theorem FirstArgument.entries_pruned {n : Node} {value : Value} (first : n.FirstArgument value) :
    (n.pruned block).entries = [.argument value] := by
  rw [Node.entries_pruned, firstArgument_iff.mp first]
  rfl

theorem firstArgument_pruned_iff {n : Node} {value : Value} :
    (n.pruned block).FirstArgument value ↔ n.FirstArgument value := by
  rw [firstArgument_iff, firstArgument_iff, entries_pruned]
  cases found : n.entries.find? Entry.isArgument with
  | none => simp
  | some entry => simp [List.find?_some found]

theorem firstString?_pruned (n : Node) : (n.pruned block).firstString? = n.firstString? := by
  apply Option.ext
  intro s
  rw [firstString?_eq_some_iff, firstString?_eq_some_iff, firstArgument_pruned_iff]

/-- A node with one argument as its only entry and a block that stays the same stays the same. -/
theorem pruned_eq_self {n : Node} {value : Value} (single : n.entries = [.argument value])
    (same : block n.children = n.children) : n.pruned block = n := by
  cases n with
  | node name entries children =>
    cases single
    cases children with
    | none => rfl
    | some children => exact congrArg (fun nodes => node name _ (some nodes)) same

theorem children_essence (n : Node) :
    n.essence.children = n.children.map (pruned fun _ => []) :=
  children_pruned n rfl

end Node

end Kdl

namespace ResourcePolicy

open Kdl (Node)

variable {policy : ResourcePolicy} {node : Node}

theorem declare_pruned (policy : ResourcePolicy) (child : Node) (block : List Node → List Node) :
    policy.declare (child.pruned block) = policy.declare child := by
  unfold declare
  rw [Node.name_pruned, Node.firstString?_pruned]

theorem ofNode_essence (node : Node) : ofNode node.essence = ofNode node := by
  unfold ofNode
  rw [Node.children_essence]
  simp only [List.foldlM_map, declare_pruned]
  unfold Node.essence
  rw [Node.name_pruned, Node.firstString?_pruned]

theorem mapM_ofNode_essence (nodes : List Node) :
    (nodes.map Node.essence).mapM ofNode = nodes.mapM ofNode := by
  rw [List.mapM_map]
  simp only [Function.comp_def, ofNode_essence]

/-- The node holds what the policy says and nothing else. -/
structure Spells (node : Node) (policy : ResourcePolicy) : Prop where
  named : node.name = "resource"
  entries : node.entries = [.argument (.string policy.type.name)]
  children : ∀ child ∈ node.children, ∃ slot condition,
    policy.conditions.slot slot = some condition ∧ child.name = slot.name ∧
      child.entries = [.argument (.string condition.source)] ∧ child.children = []

/-- What counts of a node that is read is all that the policy says. -/
theorem spells_essence (read : ofNode node = .ok policy) : Spells node.essence policy := by
  obtain ⟨⟨⟨type, heads⟩, sound⟩, said⟩ := ofNode_eq_ok_iff.mp read
  refine ⟨?_, said.type.entries_pruned, ?_⟩
  · exact (Node.name_pruned node).trans heads.named
  · intro child member
    rw [Node.children_essence] at member
    obtain ⟨whole, listed, rfl⟩ := List.mem_map.mp member
    obtain ⟨slot, condition, fills⟩ := sound.filling whole listed
    refine ⟨slot, condition, ?_, ?_, fills.given.entries_pruned, Node.children_pruned whole rfl⟩
    · exact (said.conditions slot condition).mpr ⟨whole, listed, fills⟩
    · exact (Node.name_pruned whole).trans fills.named

theorem Spells.essence_eq (spells : Spells node policy) : node.essence = node := by
  have childless : ∀ child ∈ node.children, child.pruned (fun _ => []) = child := by
    intro child member
    obtain ⟨slot, condition, -, -, single, blockless⟩ := spells.children child member
    exact Node.pruned_eq_self single blockless.symm
  refine Node.pruned_eq_self spells.entries ?_
  exact (List.map_congr_left childless).trans (List.map_id _)

theorem map_essence_eq {nodes : List Node} {policies : List ResourcePolicy}
    (spelled : List.Forall₂ Spells nodes policies) : nodes.map Node.essence = nodes := by
  induction spelled with
  | nil => rfl
  | cons first others ih => rw [List.map_cons, first.essence_eq, ih]

/-- Beside its essence nothing of a document has any effect, and where it is read, the essence is
what the policies spell out. So they spell out the whole document only if there is nothing else. -/
theorem only_first_arguments_count (nodes : List Node) :
    (∀ source, Kdl.parse? source = some nodes →
      ofDocument source = (nodes.map Node.essence).mapM ofNode) ∧
    (nodes.map Node.essence).mapM ofNode = nodes.mapM ofNode ∧
    ∀ policies, nodes.mapM ofNode = .ok policies →
      List.Forall₂ Spells (nodes.map Node.essence) policies ∧
      (List.Forall₂ Spells nodes policies ↔ nodes.map Node.essence = nodes) := by
  refine ⟨?_, mapM_ofNode_essence nodes, ?_⟩
  · intro source written
    rw [mapM_ofNode_essence, ofDocument, written]
  · intro policies read
    have spelled : List.Forall₂ Spells (nodes.map Node.essence) policies := by
      rw [List.forall₂_map_left_iff]
      exact (Attempts.mapM_eq_ok_iff.mp read).imp fun _ _ made => spells_essence made
    refine ⟨spelled, map_essence_eq, fun nothingElse => ?_⟩
    rwa [nothingElse] at spelled

/-! A second condition -/

/-- A rule that permits everything, with a second condition behind it that forbids everything. -/
def twofoldNode : Node :=
  .node "resource" [.argument (.string "A")]
    (some [.node "inbound" [.argument (.string "true"), .argument (.string "false")] none])

def isTwofoldRow : Option (List Node) → Bool
  | some [.node "resource" [.argument (.string "A")]
      (some [.node "inbound" [.argument (.string "true"), .argument (.string "false")] none])] =>
    true
  | _ => false

theorem eq_of_isTwofoldRow {nodes : Option (List Node)} (h : isTwofoldRow nodes = true) :
    nodes = some [twofoldNode] := by
  unfold isTwofoldRow at h
  split at h
  · rfl
  · cases h

def twofoldSource : String := "resource A\x7binbound \"true\" \"false\"\x7d"

theorem parse?_twofoldSource : Kdl.parse? twofoldSource = some [twofoldNode] :=
  eq_of_isTwofoldRow (by decide +kernel)

theorem mapM_ofNode_twofoldNode : [twofoldNode].mapM ofNode = .ok [rulePolicy .true] := by
  have single := @ofDocument_of_isRuleRow "resource A\x7binbound \"true\"\x7d" .true
    (by decide +kernel)
  have written := @eq_of_isRuleRow "true" (Kdl.parse? "resource A\x7binbound \"true\"\x7d")
    (by decide +kernel)
  rw [← mapM_ofNode_essence, ← single, ofDocument, written]
  rfl

/-- The second condition is in the document that is read, and in no policy. -/
theorem second_condition_lost :
    ∃ nodes policies, Kdl.parse? twofoldSource = some nodes ∧
      ofDocument twofoldSource = .ok policies ∧
      ∃ node ∈ nodes, ∃ child ∈ node.children, child.entries.length ≠ 1 := by
  refine ⟨_, [rulePolicy .true], parse?_twofoldSource, ?_, twofoldNode, List.mem_singleton_self _,
    _, List.mem_singleton_self _, by decide⟩
  rw [ofDocument, parse?_twofoldSource]
  exact mapM_ofNode_twofoldNode

theorem only_first_arguments_count_twofold :
    ofDocument twofoldSource = [ruleNode "true"].mapM ofNode ∧
    List.Forall₂ Spells [ruleNode "true"] [rulePolicy .true] ∧
    ¬List.Forall₂ Spells [twofoldNode] [rulePolicy .true] := by
  obtain ⟨documents, -, policies⟩ := only_first_arguments_count [twofoldNode]
  obtain ⟨spelled, whole_iff⟩ := policies _ mapM_ofNode_twofoldNode
  refine ⟨documents _ parse?_twofoldSource, spelled, ?_⟩
  intro whole
  cases whole_iff.mp whole

end ResourcePolicy

end ChannelGuard
