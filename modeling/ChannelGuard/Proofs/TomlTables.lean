import ChannelGuard.Toml.Document
import Mathlib.Data.List.Nodup

/-!
# Tables of TOML documents

Whatever statements a document is made of, no table that comes of it, at any depth, holds a key
twice, and its integers have 64 bits.
-/

namespace ChannelGuard.Toml

/-! Words -/

/-- A value that is no array and no table; an integer has 64 bits. -/
def Value.IsSingle : Value → Prop
  | .array _ | .table _ => False
  | .integer i => -0x8000000000000000 ≤ i ∧ i < 0x8000000000000000
  | _ => True

theorem integerWithin?_single {i : Int} {v : Value} (h : integerWithin? i = some v) :
    v.IsSingle := by
  obtain ⟨within, ⟨⟩⟩ := Option.ite_none_right_eq_some.mp h
  exact (Bool.and_eq_true_iff.mp within).imp of_decide_eq_true of_decide_eq_true

theorem basedInteger?_single {base : Nat} {digits : List Char} {v : Value}
    (h : basedInteger? base digits = some v) : v.IsSingle :=
  integerWithin?_single (Option.ite_none_right_eq_some.mp h).2

theorem integer?_single {word : List Char} {v : Value} (h : integer? word = some v) :
    v.IsSingle := by
  unfold integer? at h
  split at h
  · exact basedInteger?_single h
  · exact basedInteger?_single h
  · exact basedInteger?_single h
  · exact integerWithin?_single (Option.ite_none_right_eq_some.mp h).2

theorem decimalFloat?_single {negative : Bool} {digits : List Char} {exponent : Int} {v : Value}
    (h : decimalFloat? negative digits exponent = some v) : v.IsSingle := by
  simp only [decimalFloat?] at h
  split at h
  · cases h
    trivial
  · split at h
    · cases h
      trivial
    · obtain ⟨-, ⟨⟩⟩ := Option.ite_none_right_eq_some.mp h
      trivial

theorem float?_single {word : List Char} {v : Value} (h : float? word = some v) : v.IsSingle := by
  simp only [float?] at h
  split at h
  · cases h
    trivial
  · cases h
    trivial
  · obtain ⟨-, h⟩ := Option.ite_none_right_eq_some.mp h
    obtain ⟨power, -, h⟩ := Option.bind_eq_some_iff.mp h
    exact decimalFloat?_single h
  · obtain ⟨-, h⟩ := Option.ite_none_right_eq_some.mp h
    obtain ⟨power, -, h⟩ := Option.bind_eq_some_iff.mp h
    exact decimalFloat?_single h

theorem datetime?_single {word : List Char} {v : Value} (h : datetime? word = some v) :
    v.IsSingle := by
  obtain ⟨written, -, rfl⟩ := Option.map_eq_some_iff.mp h
  trivial

theorem word?_single {word : List Char} {v : Value} (h : word? word = some v) : v.IsSingle := by
  unfold word? at h
  split at h
  · cases h
    trivial
  · split at h
    · cases h
      trivial
    · rcases Option.or_eq_some_iff.mp h with h | ⟨-, h⟩
      · exact datetime?_single h
      · rcases Option.or_eq_some_iff.mp h with h | ⟨-, h⟩
        · exact float?_single h
        · exact integer?_single h

theorem scalar?_single {text rest : List Char} {v : Value} (h : scalar? text = some (v, rest)) :
    v.IsSingle := by
  rcases Option.or_eq_some_iff.mp h with h | ⟨-, h⟩
  · split at h
    · obtain ⟨time, -, ⟨⟩⟩ := Option.map_eq_some_iff.mp h
      trivial
    · cases h
  · obtain ⟨v, read, ⟨⟩⟩ := Option.map_eq_some_iff.mp h
    exact word?_single read

/-- No table in the value, at any depth, holds a key twice, and integers have 64 bits. -/
inductive Value.Distinct : Value → Prop where
  | single {v : Value} : v.IsSingle → v.Distinct
  | array {items : List Value} : (∀ item ∈ items, item.Distinct) → Distinct (.array items)
  | table {members : List (String × Value)} : (members.map Prod.fst).Nodup →
      (∀ member ∈ members, member.2.Distinct) → Distinct (.table members)

theorem Value.Distinct.of_table {members : List (String × Value)}
    (distinct : Distinct (.table members)) :
    (members.map Prod.fst).Nodup ∧ ∀ member ∈ members, member.2.Distinct := by
  cases distinct with
  | single impossible => exact impossible.elim
  | table keys values => exact ⟨keys, values⟩

theorem Value.Distinct.of_array {items : List Value} (distinct : Distinct (.array items)) :
    ∀ item ∈ items, item.Distinct := by
  cases distinct with
  | single impossible => exact impossible.elim
  | array items => exact items

/-! Building tables -/

theorem membersToValues_eq_map (members : Members) :
    membersToValues members = members.map fun (key, item) => (key, item.toValue) := by
  induction members with
  | nil => rfl
  | cons member rest ih => rw [membersToValues, ih, List.map_cons]

theorem elementsToValues_eq_map (elements : List Members) :
    elementsToValues elements = elements.map fun members => .table (membersToValues members) := by
  induction elements with
  | nil => rfl
  | cons members rest ih => rw [elementsToValues, ih, List.map_cons]

/-- No key stands twice among the members, nor in a table inside of them. -/
def Members.Distinct (members : Members) : Prop := (Value.table (membersToValues members)).Distinct

theorem Members.distinct_iff {members : Members} : members.Distinct ↔
    (members.map Prod.fst).Nodup ∧ ∀ member ∈ members, member.2.toValue.Distinct := by
  have keys : (membersToValues members).map Prod.fst = members.map Prod.fst := by
    rw [membersToValues_eq_map, List.map_map]
    rfl
  have values : (∀ member ∈ membersToValues members, member.2.Distinct) ↔
      ∀ member ∈ members, member.2.toValue.Distinct := by
    rw [membersToValues_eq_map, List.forall_mem_map]
  rw [← keys, ← values]
  exact ⟨Value.Distinct.of_table, fun ⟨keys, values⟩ => .table keys values⟩

theorem Members.distinct_nil : Members.Distinct [] := .table .nil nofun

theorem distinct_tables_iff {elements : List Members} :
    (Item.tables elements).toValue.Distinct ↔ ∀ members ∈ elements, members.Distinct := by
  rw [Item.toValue, elementsToValues_eq_map]
  refine ⟨fun distinct members found => ?_, fun distinct => .array ?_⟩
  · exact distinct.of_array _ (List.mem_map_of_mem found)
  · exact List.forall_mem_map.mpr distinct

/-- What stands under a key takes the place it had, and a new key comes last. -/
theorem keys_putItem (key : String) (item : Item) (members : Members) :
    (putItem key item members).map Prod.fst =
      if key ∈ members.map Prod.fst then members.map Prod.fst
      else members.map Prod.fst ++ [key] := by
  induction members with
  | nil => rfl
  | cons member rest ih =>
    obtain ⟨k, old⟩ := member
    by_cases same : k = key
    · simp [putItem, same]
    · have other : ¬ key = k := fun h => same h.symm
      simp only [putItem, if_neg same, List.map_cons, ih, List.mem_cons, other, false_or]
      split <;> rfl

theorem mem_putItem {key : String} {item : Item} {members : Members} {member : String × Item}
    (found : member ∈ putItem key item members) : member = (key, item) ∨ member ∈ members := by
  induction members with
  | nil => exact .inl (List.mem_singleton.mp found)
  | cons first rest ih =>
    obtain ⟨k, old⟩ := first
    by_cases same : k = key
    · rw [putItem, if_pos same, same, List.mem_cons] at found
      exact found.imp_right (List.mem_cons_of_mem _)
    · rw [putItem, if_neg same, List.mem_cons] at found
      rcases found with rfl | later
      · exact .inr List.mem_cons_self
      · exact (ih later).imp_right (List.mem_cons_of_mem _)

theorem Members.Distinct.putItem {members : Members} (distinct : members.Distinct) (key : String)
    {item : Item} (value : item.toValue.Distinct) : (putItem key item members).Distinct := by
  obtain ⟨keys, values⟩ := distinct_iff.mp distinct
  refine distinct_iff.mpr ⟨?_, fun member found => ?_⟩
  · rw [keys_putItem]
    split
    · exact keys
    · next new =>
      have apart : ∀ k ∈ members.map Prod.fst, k ≠ key := fun k found =>
        ne_of_mem_of_not_mem found new
      exact List.nodup_append.mpr ⟨keys, by simp, by simpa using apart⟩
  · rcases mem_putItem found with rfl | old
    · exact value
    · exact values member old

theorem Members.Distinct.of_lookup {members : Members} (distinct : members.Distinct)
    {key : String} {item : Item} (found : members.lookup key = some item) :
    item.toValue.Distinct := by
  obtain ⟨before, after, rfl, -⟩ := List.lookup_eq_some_iff.mp found
  exact (distinct_iff.mp distinct).2 _ (List.mem_append_right _ List.mem_cons_self)

/-- What keeps the keys of one table apart keeps those of all tables apart. -/
theorem Members.Distinct.changeAt {byKey : Bool} {change : Origin → Members → Option Members}
    (kept : ∀ {origin} {members after : Members},
      members.Distinct → change origin members = some after → after.Distinct)
    (path : List String) {origin : Origin} {members after : Members} (distinct : members.Distinct)
    (changed : changeAt byKey path change origin members = some after) : after.Distinct := by
  induction path generalizing origin members after with
  | nil => exact kept distinct changed
  | cons key rest ih =>
    rw [Toml.changeAt] at changed
    split at changed
    · obtain ⟨inner, made, rfl⟩ := Option.map_eq_some_iff.mp changed
      exact distinct.putItem key (ih distinct_nil made)
    · next inner found =>
      have inside : Members.Distinct inner := distinct.of_lookup found
      split at changed
      · cases changed
      · obtain ⟨inner, made, rfl⟩ := Option.map_eq_some_iff.mp changed
        exact distinct.putItem key (ih inside made)
    · next elements found =>
      have each := distinct_tables_iff.mp (distinct.of_lookup found)
      obtain ⟨last, made, rfl⟩ := Option.map_eq_some_iff.mp changed
      obtain ⟨old, ends, made⟩ := Option.bind_eq_some_iff.mp made
      refine distinct.putItem key (distinct_tables_iff.mpr ?_)
      intro members found
      rcases List.mem_append.mp found with found | found
      · exact each members (List.dropLast_subset elements found)
      · rw [List.mem_singleton.mp found]
        exact ih (each old (List.mem_of_getLast? ends)) made
    · cases changed

theorem Members.Distinct.setKey {path : List String} {key : String} {v : Value}
    {members after : Members} (distinct : members.Distinct) (value : v.Distinct)
    (changed : setKey path key v members = some after) : after.Distinct := by
  refine distinct.changeAt (fun {_ members _} distinct changed => ?_) path changed
  split at changed
  · cases changed
  · cases changed
    exact distinct.putItem key value

theorem Members.Distinct.openTable {path : List String} {key : String} {members after : Members}
    (distinct : members.Distinct) (changed : openTable path key members = some after) :
    after.Distinct := by
  refine distinct.changeAt (fun {_ members _} distinct changed => ?_) path changed
  split at changed
  · cases changed
    exact distinct.putItem key distinct_nil
  · next inner found =>
    cases changed
    have inside : Members.Distinct inner := distinct.of_lookup found
    exact distinct.putItem key inside
  · cases changed

theorem Members.Distinct.openElement {path : List String} {key : String} {members after : Members}
    (distinct : members.Distinct) (changed : openElement path key members = some after) :
    after.Distinct := by
  refine distinct.changeAt (fun {_ members _} distinct changed => ?_) path changed
  split at changed
  · cases changed
    exact distinct.putItem key (distinct_tables_iff.mpr (by simpa using distinct_nil))
  · next elements found =>
    cases changed
    have each := distinct_tables_iff.mp (distinct.of_lookup found)
    refine distinct.putItem key (distinct_tables_iff.mpr ?_)
    intro members found
    rcases List.mem_append.mp found with found | found
    · exact each members found
    · rw [List.mem_singleton.mp found]
      exact distinct_nil
  · cases changed

/-! Reading -/

/-- Readers of values, of items and of pairs keep keys apart; each calls those of fewer steps. -/
theorem read_distinct (steps : Nat) :
    (∀ {depth text v rest}, value? steps depth text = some (v, rest) → v.Distinct) ∧
    (∀ {depth text items rest}, items? steps depth text = some (items, rest) →
      ∀ item ∈ items, item.Distinct) ∧
    (∀ {depth members text after rest}, members.Distinct →
      pairs? steps depth members text = some (after, rest) → after.Distinct) := by
  induction steps with
  | zero => exact ⟨nofun, nofun, nofun⟩
  | succ steps ih =>
    obtain ⟨values, rows, pairs⟩ := ih
    refine ⟨fun {depth text v rest} read => ?_, fun {depth text items rest} read => ?_,
      fun {depth members text after rest} distinct read => ?_⟩
    · unfold value? at read
      split at read
      · obtain ⟨_, -, ⟨⟩⟩ := Option.map_eq_some_iff.mp read
        exact .single trivial
      · obtain ⟨_, -, ⟨⟩⟩ := Option.map_eq_some_iff.mp read
        exact .single trivial
      · obtain ⟨-, read⟩ := Option.ite_none_left_eq_some.mp read
        obtain ⟨_, inside, ⟨⟩⟩ := Option.map_eq_some_iff.mp read
        exact .array (rows inside)
      · obtain ⟨-, read⟩ := Option.ite_none_left_eq_some.mp read
        split at read
        · cases read
          exact .table .nil nofun
        · obtain ⟨_, inside, ⟨⟩⟩ := Option.map_eq_some_iff.mp read
          exact pairs Members.distinct_nil inside
      · exact .single (scalar?_single read)
    · rw [items?] at read
      split at read
      · cases read
        exact nofun
      · obtain ⟨⟨item, rest⟩, first, read⟩ := Option.bind_eq_some_iff.mp read
        dsimp only at read
        split at read
        · cases read
          exact List.forall_mem_singleton.mpr (values first)
        · obtain ⟨⟨items, rest⟩, more, read⟩ := Option.bind_eq_some_iff.mp read
          cases read
          exact List.forall_mem_cons.mpr ⟨values first, rows more⟩
        · cases read
    · rw [pairs?] at read
      obtain ⟨⟨path, key, rest⟩, -, read⟩ := Option.bind_eq_some_iff.mp read
      dsimp only at read
      split at read
      · obtain ⟨⟨v, rest⟩, value, read⟩ := Option.bind_eq_some_iff.mp read
        obtain ⟨next, set, read⟩ := Option.bind_eq_some_iff.mp read
        have kept := distinct.setKey (values value) set
        dsimp only at read
        split at read
        · cases read
          exact kept
        · exact pairs kept read
        · cases read
      · cases read

theorem statement?_distinct {draft after : Draft} {text rest : List Char}
    (distinct : draft.members.Distinct) (read : statement? draft text = some (after, rest)) :
    after.members.Distinct := by
  unfold statement? at read
  split at read
  · obtain ⟨⟨path, key, rest⟩, -, read⟩ := Option.bind_eq_some_iff.mp read
    obtain ⟨members, opened, read⟩ := Option.bind_eq_some_iff.mp read
    split at read
    · obtain ⟨_, -, ⟨⟩⟩ := Option.bind_eq_some_iff.mp read
      exact distinct.openElement opened
    · cases read
  · obtain ⟨⟨path, key, rest⟩, -, read⟩ := Option.bind_eq_some_iff.mp read
    obtain ⟨members, opened, read⟩ := Option.bind_eq_some_iff.mp read
    split at read
    · obtain ⟨_, -, ⟨⟩⟩ := Option.bind_eq_some_iff.mp read
      exact distinct.openTable opened
    · cases read
  · obtain ⟨⟨path, key, rest⟩, -, read⟩ := Option.bind_eq_some_iff.mp read
    dsimp only at read
    split at read
    · obtain ⟨⟨v, rest⟩, value, read⟩ := Option.bind_eq_some_iff.mp read
      obtain ⟨members, set, read⟩ := Option.bind_eq_some_iff.mp read
      obtain ⟨_, -, ⟨⟩⟩ := Option.bind_eq_some_iff.mp read
      refine distinct.changeAt (fun distinct changed => ?_) draft.path set
      exact distinct.setKey ((read_distinct _).1 value) changed
    · cases read

theorem statements?_distinct (steps : Nat) {draft : Draft} {text : List Char} {members : Members}
    (distinct : draft.members.Distinct) (read : statements? steps draft text = some members) :
    members.Distinct := by
  induction steps generalizing draft text with
  | zero =>
    obtain ⟨-, ⟨⟩⟩ := Option.ite_none_right_eq_some.mp read
    exact distinct
  | succ steps ih =>
    rw [statements?] at read
    split at read
    · cases read
      exact distinct
    · split at read
      · exact ih distinct read
      · obtain ⟨⟨after, rest⟩, first, read⟩ := Option.bind_eq_some_iff.mp read
        exact ih (statement?_distinct distinct first) read

/-- No table of a document holds a key twice, the root and tables within values included. -/
theorem parse?_distinct {source : String} {members : List (String × Value)}
    (read : parse? source = some members) : (Value.table members).Distinct := by
  obtain ⟨_, built, rfl⟩ := Option.map_eq_some_iff.mp read
  exact statements?_distinct _ Members.distinct_nil built

end ChannelGuard.Toml
