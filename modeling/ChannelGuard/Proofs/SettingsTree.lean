import ChannelGuard.Settings.Raw
import Mathlib.Data.List.Nodup

/-!
# Members of the settings tree

What setting the value at a place does to the members of the tree and to the members of these. The
value is laid over the one that is there, all that is not at the place stays as it was, and only a
place above two members can change more than one of them.
-/

namespace ChannelGuard.Settings

namespace Raw

def IsTable : Raw → Prop
  | table _ => True
  | _ => False

/-- The member under a key, if the value is a table that has it. -/
def member? (key : String) (value : Raw) : Option Raw := Keyed.find? key value.members

/-- The member under a key of the member under another. -/
def leaf? (group key : String) (root : Raw) : Option Raw := (root.member? group).bind (member? key)

/-- A value laid over what is below: a table is merged into it, all else takes its place. -/
def laidOver (below : Option Raw) : Raw → Raw
  | table incoming => setMembers incoming (below.getD (.table []))
  | value => value

theorem setMember_eq (key : String) (value root : Raw) :
    setMember key value root = .table (Keyed.insert (smallLetters key)
      (value.laidOver (root.member? (smallLetters key))) root.members) := by
  cases value <;> simp only [setMember, laidOver, member?]

theorem setMember_isTable (key : String) (value root : Raw) :
    (setMember key value root).IsTable := by
  rw [setMember_eq]
  trivial

theorem member?_setMember_self {key : String} (small : smallLetters key = key) (value root : Raw) :
    (setMember key value root).member? key = some (value.laidOver (root.member? key)) := by
  rw [setMember_eq, small]
  exact Keyed.find?_insert_self ..

theorem member?_setMember_of_ne {key other : String} (different : other ≠ smallLetters key)
    (value root : Raw) : (setMember key value root).member? other = root.member? other := by
  rw [setMember_eq]
  exact Keyed.find?_insert_of_ne different ..

theorem setMembers_isTable (incoming : List (String × Raw)) {root : Raw} (table : root.IsTable) :
    (setMembers incoming root).IsTable := by
  induction incoming generalizing root with
  | nil => exact table
  | cons member rest ih => exact ih (setMember_isTable ..)

theorem setMembers_ne_absent (incoming : List (String × Raw)) {root : Raw}
    (filled : root ≠ .absent) : setMembers incoming root ≠ .absent := by
  cases incoming with
  | nil => exact filled
  | cons member rest =>
    have table : (setMembers (member :: rest) root).IsTable :=
      setMembers_isTable rest (setMember_isTable member.1 member.2 root)
    intro absent
    rw [absent] at table
    exact table

/-- A table merges member by member: those that it has not stay. -/
theorem member?_setMembers {incoming : List (String × Raw)}
    (small : ∀ member ∈ incoming, smallLetters member.1 = member.1)
    (distinct : (incoming.map Prod.fst).Nodup) (key : String) (root : Raw) :
    (setMembers incoming root).member? key =
      match Keyed.find? key incoming with
      | some value => some (value.laidOver (root.member? key))
      | none => root.member? key := by
  induction incoming generalizing root with
  | nil => rfl
  | cons member rest ih =>
    obtain ⟨name, value⟩ := member
    obtain ⟨smallName, smallRest⟩ := List.forall_mem_cons.mp small
    obtain ⟨new, distinctRest⟩ := List.nodup_cons.mp distinct
    rw [setMembers, ih smallRest distinctRest]
    by_cases same : key = name
    · subst same
      rw [Keyed.find?_eq_none new, Keyed.find?_cons_self]
      exact member?_setMember_self smallName value root
    · have other : key ≠ smallLetters name := by rwa [smallName]
      rw [member?_setMember_of_ne other, Keyed.find?_cons_of_ne same]

end Raw

namespace Path

open Raw

/-- The member of the root that a place is or lies in. -/
def root : Path → String
  | member key => smallLetters key
  | child parent _ => parent.root
  | item parent _ => parent.root

/-- The member of this member that a place is or lies in. -/
def second? : Path → Option String
  | member _ => none
  | child (member _) key => some (smallLetters key)
  | child parent _ => parent.second?
  | item parent _ => parent.second?

theorem member?_changeMember_self (key : String) (f : Raw → Raw) (value : Raw) :
    (changeMember key f value).member? (smallLetters key) =
      some (f ((value.member? (smallLetters key)).getD .absent)) := Keyed.find?_insert_self ..

theorem member?_changeMember_of_ne {key other : String} (different : other ≠ smallLetters key)
    (f : Raw → Raw) (value : Raw) :
    (changeMember key f value).member? other = value.member? other :=
  Keyed.find?_insert_of_ne different ..

/-! Elsewhere in the root -/

theorem change_isTable (path : Path) (f : Raw → Raw) (tree : Raw) :
    (path.change f tree).IsTable := by
  induction path generalizing f with
  | member key => trivial
  | child parent key ih => exact ih _
  | item parent index ih => exact ih _

theorem set_isTable (path : Path) (value tree : Raw) : (path.set value tree).IsTable := by
  cases path with
  | member key => exact setMember_isTable ..
  | child parent key => exact change_isTable ..
  | item parent index => exact change_isTable ..

theorem member?_change_of_ne (path : Path) {group : String} (elsewhere : group ≠ path.root)
    (f : Raw → Raw) (tree : Raw) : (path.change f tree).member? group = tree.member? group := by
  induction path generalizing f with
  | member key => exact member?_changeMember_of_ne elsewhere ..
  | child parent key ih => exact ih elsewhere _
  | item parent index ih => exact ih elsewhere _

theorem member?_set_of_ne {path : Path} {group : String} (elsewhere : group ≠ path.root)
    (value tree : Raw) : (path.set value tree).member? group = tree.member? group := by
  cases path with
  | member key => exact member?_setMember_of_ne elsewhere ..
  | child parent key => exact member?_change_of_ne parent elsewhere ..
  | item parent index => exact member?_change_of_ne parent elsewhere ..

/-! Elsewhere in a member of the root -/

/-- A change that leaves the member of the root a table and touches one member there at most. -/
def Touches (group name : String) (before after : Raw) : Prop :=
  ∃ inside, after.member? group = some inside ∧ inside.IsTable ∧
    ∀ key, key ≠ name → inside.member? key = leaf? group key before

theorem touches_changeMember {group name : String} {f : Raw → Raw} {tree : Raw}
    (table : ∀ value, (f value).IsTable)
    (kept : ∀ value key, key ≠ name → (f value).member? key = value.member? key) :
    Touches (smallLetters group) name tree (changeMember group f tree) := by
  refine ⟨_, member?_changeMember_self group f tree, table _, fun key different => ?_⟩
  rw [kept _ key different, leaf?]
  cases tree.member? (smallLetters group) <;> rfl

theorem touches_change (path : Path) {name : String} (second : path.second? = some name)
    (f : Raw → Raw) (tree : Raw) : Touches path.root name tree (path.change f tree) := by
  induction path generalizing f with
  | member key => cases second
  | child parent key ih =>
    cases parent with
    | member group =>
      cases second
      exact touches_changeMember (fun _ => trivial)
        fun value other different => member?_changeMember_of_ne different f value
    | child parent' key' => exact ih second _
    | item parent' index => exact ih second _
  | item parent index ih => exact ih second _

theorem touches_set {path : Path} {name : String} (second : path.second? = some name)
    (value tree : Raw) : Touches path.root name tree (path.set value tree) := by
  cases path with
  | member key => cases second
  | child parent key =>
    cases parent with
    | member group =>
      cases second
      exact touches_changeMember (fun _ => setMember_isTable ..)
        fun inside other different => member?_setMember_of_ne different value inside
    | child parent' key' => exact touches_change (child parent' key') second _ tree
    | item parent' index => exact touches_change (item parent' index) second _ tree
  | item parent index => exact touches_change parent second _ tree

/-! At a member of the root, and at a member of one -/

theorem leaf?_set_member {group : String} (smallGroup : smallLetters group = group)
    {incoming : List (String × Raw)}
    (small : ∀ member ∈ incoming, smallLetters member.1 = member.1)
    (distinct : (incoming.map Prod.fst).Nodup) (key : String) (tree : Raw) :
    leaf? group key ((member group).set (.table incoming) tree) =
      match Keyed.find? key incoming with
      | some value => some (value.laidOver (leaf? group key tree))
      | none => leaf? group key tree := by
  change (Raw.member? group (setMember group (.table incoming) tree)).bind _ = _
  rw [member?_setMember_self smallGroup, Option.bind_some, laidOver,
    member?_setMembers small distinct, leaf?]
  cases tree.member? group <;> rfl

theorem leaf?_set_child {group key : String} (smallGroup : smallLetters group = group)
    (smallKey : smallLetters key = key) (value tree : Raw) :
    leaf? group key (((member group).child key).set value tree) =
      some (value.laidOver (leaf? group key tree)) := by
  change (Raw.member? group (changeMember group (setMember key value) tree)).bind _ = _
  have inside := member?_changeMember_self group (setMember key value) tree
  rw [smallGroup] at inside
  rw [inside, Option.bind_some, member?_setMember_self smallKey, leaf?]
  cases tree.member? group <;> rfl

end Path

end ChannelGuard.Settings
