import ChannelGuard.Proofs.QueryWireForm
import ChannelGuard.Proofs.RegistryBuilding

/-!
# Names of models

A type, and perhaps a record and one of its fields, have a channel of their own, whose name spells
the three out between slashes. Reading the name gives them back, so no two of them share a name.
Many other names carry a model too, but none of them carries one that could not be named like this.
-/

namespace ChannelGuard

namespace Channel

/-- A text that can be one part of the name of a model. -/
structure IsPart (part : String) : Prop where
  nonempty : part ≠ ""
  free : ∀ c ∈ part.toList, c ≠ '/' ∧ c ≠ ':' ∧ c ≠ '>'

theorem IsPart.slash_free {part : String} (h : IsPart part) : '/' ∉ part.toList :=
  fun found => (h.free _ found).1 rfl

/-- The name of every type can be such a part. -/
theorem isPart_of_properName {name : String} (proper : ProperName name) : IsPart name := by
  obtain ⟨nonempty, free⟩ := proper
  refine ⟨nonempty, fun c found => ?_⟩
  have separate := (free c found).2
  simp only [List.mem_cons, not_or] at separate
  exact ⟨separate.1, separate.2.1, separate.2.2.1⟩

/-! Parts of a segment -/

theorem parts_intercalate {row : List String} (nonempty : row ≠ [])
    (free : ∀ part ∈ row, '/' ∉ part.toList) : parts ("/".intercalate row) = row := by
  have texts_free : ∀ text ∈ row.map String.toList, '/' ∉ text := by simpa using free
  have slash : "/".toList = ['/'] := rfl
  rw [parts, String.toList_intercalate, slash,
    List.splitOn_intercalate '/' texts_free (by simpa using nonempty), List.map_map]
  simp [Function.comp_def]

theorem mem_of_mem_intercalate {c : Char} {row : List String}
    (found : c ∈ ("/".intercalate row).toList) : c = '/' ∨ ∃ part ∈ row, c ∈ part.toList := by
  induction row with
  | nil => simp at found
  | cons first rest ih =>
    cases rest with
    | nil => exact .inr ⟨first, by simp, by simpa using found⟩
    | cons second rest =>
      simp only [String.intercalate_cons_cons, String.toList_append, List.mem_append,
        String.reduceToList, List.mem_singleton] at found
      rcases found with (found | rfl) | found
      · exact .inr ⟨first, by simp, found⟩
      · exact .inl rfl
      · refine (ih found).imp_right ?_
        rintro ⟨part, inside, here⟩
        exact ⟨part, List.mem_cons_of_mem _ inside, here⟩

theorem mem_of_mem_before {c x : Char} {text : List Char} (found : x ∈ before c text) :
    x ∈ text :=
  (List.takeWhile_sublist _).subset found

theorem mem_of_mem_after {c x : Char} {text : List Char} (found : x ∈ after c text) : x ∈ text :=
  (List.dropWhile_sublist _).subset (List.mem_of_mem_drop found)

theorem mem_of_mem_iterate_after {c x : Char} {text : List Char} (n : Nat)
    (found : x ∈ (after c)^[n] text) : x ∈ text := by
  induction n generalizing text with
  | zero => exact found
  | succ n ih => exact mem_of_mem_after (ih found)

/-- A part of a segment holds no slash, and nothing that the segment does not hold. -/
theorem mem_part {segment part : String} {n : Nat} (found : (parts segment)[n]? = some part) :
    '/' ∉ part.toList ∧ ∀ c ∈ part.toList, c ∈ segment.toList := by
  rw [parts, List.getElem?_map] at found
  obtain ⟨text, there, rfl⟩ := Option.map_eq_some_iff.mp found
  have taken := getD_splitOn '/' segment.toList n
  rw [there, Option.getD_some] at taken
  rw [String.toList_ofList, taken]
  refine ⟨(before_spec '/' _).1, fun c found => ?_⟩
  exact mem_of_mem_iterate_after n (mem_of_mem_before found)

theorem isPart_of_mem {name segment part : String} {n : Nat} (h : Segment name segment)
    (plain : ':' ∉ segment.toList) (found : (parts segment)[n]? = some part)
    (nonempty : part ≠ "") : IsPart part := by
  obtain ⟨slash_free, inside⟩ := mem_part found
  refine ⟨nonempty, fun c here => ⟨?_, ?_, ?_⟩⟩
  · rintro rfl
    exact slash_free here
  · rintro rfl
    exact plain (inside _ here)
  · rintro rfl
    exact h.1 (inside _ here)

end Channel

open Channel (IsPart)

/-- The type of a model, and the record and the field to which it is narrowed. -/
structure ModelAddress where
  type : String
  id : Option String
  field : Option String
  type_isPart : IsPart type
  id_isPart : ∀ part ∈ id, IsPart part
  field_isPart : ∀ part ∈ field, IsPart part

namespace ModelAddress

def query (address : ModelAddress) : ResourceQuery :=
  .model address.type address.id address.field

/-- The parts of the name. A record that is missing before a field leaves its place empty. -/
def parts (address : ModelAddress) : List String :=
  match address.id, address.field with
  | none, none => [address.type]
  | some id, none => [address.type, id]
  | none, some field => [address.type, "", field]
  | some id, some field => [address.type, id, field]

def segment (address : ModelAddress) : String := "/".intercalate address.parts

def name (address : ModelAddress) : String := "crud>" ++ address.segment

theorem query_injective : Function.Injective query := by
  intro address address' same
  cases address
  cases address'
  cases same
  rfl

variable (address : ModelAddress)

theorem eq_empty_or_isPart {part : String} (found : part ∈ address.parts) :
    part = "" ∨ IsPart part := by
  have listed : part = "" ∨ part = address.type ∨ part ∈ address.id ∨ part ∈ address.field := by
    unfold parts at found
    split at found <;> grind
  rcases listed with rfl | rfl | recorded | focused
  · exact .inl rfl
  · exact .inr address.type_isPart
  · exact .inr (address.id_isPart part recorded)
  · exact .inr (address.field_isPart part focused)

/-- An address spells out, part by part, what a query of its own is read from. -/
theorem parts_query :
    address.parts[0]? = some address.type ∧ address.parts[1]?.filter (· ≠ "") = address.id ∧
      address.parts[2]?.filter (· ≠ "") = address.field := by
  obtain ⟨type, id, field, -, recorded, focused⟩ := address
  cases id with
  | none =>
    cases field with
    | none => simp [parts]
    | some field => simp [parts, (focused field rfl).nonempty]
  | some id =>
    have said := (recorded id rfl).nonempty
    cases field with
    | none => simp [parts, said]
    | some field => simp [parts, said, (focused field rfl).nonempty]

theorem mem_segment {c : Char} (found : c ∈ address.segment.toList) : c ≠ ':' ∧ c ≠ '>' := by
  rcases Channel.mem_of_mem_intercalate found with rfl | ⟨part, listed, here⟩
  · decide
  · rcases address.eq_empty_or_isPart listed with rfl | isPart
    · simp at here
    · exact (isPart.free c here).2

theorem parts_segment : Channel.parts address.segment = address.parts := by
  apply Channel.parts_intercalate
  · intro none
    have first := address.parts_query.1
    rw [none] at first
    cases first
  · intro part listed
    rcases address.eq_empty_or_isPart listed with rfl | isPart
    · simp
    · exact isPart.slash_free

theorem segment_name : Channel.Segment address.name address.segment :=
  ⟨fun found => (address.mem_segment found).2 rfl, "", String.append_empty.symm, .inl rfl⟩

/-- The name of an address names its model. -/
theorem classify_name : Channel.classify address.name = .resource address.query := by
  have plain : ':' ∉ address.segment.toList := fun found => (address.mem_segment found).1 rfl
  obtain ⟨typed, recorded, focused⟩ := address.parts_query
  have said : address.segment ≠ "" := by
    intro empty
    have none : Channel.parts address.segment = [""] := by
      rw [empty]
      rfl
    rw [address.parts_segment] at none
    rw [none] at typed
    exact address.type_isPart.nonempty (Option.some.inj typed).symm
  refine (Channel.classify_of_no_colon address.segment_name said plain _).mpr
    ⟨address.type, ?_, address.type_isPart.nonempty, ?_⟩
  · rw [address.parts_segment, typed]
  · rw [address.parts_segment, recorded, focused]
    rfl

theorem ofChannel?_name : ResourceQuery.ofChannel? address.name = some address.query := by
  rw [ResourceQuery.ofChannel?, address.classify_name]
  rfl

theorem name_injective : Function.Injective name := by
  intro address address' same
  apply query_injective
  have read := address.ofChannel?_name
  rw [same, address'.ofChannel?_name] at read
  exact (Option.some.inj read).symm

end ModelAddress

namespace ResourceQuery

/-- Whatever name carries a model, the model has an address. -/
theorem exists_address {name type : String} {id field : Option String}
    (named : ofChannel? name = some (.model type id field)) :
    ∃ address : ModelAddress, address.query = .model type id field := by
  have found := classify_of_ofChannel? named
  have known : Channel.classify name ≠ .other := by simp [found]
  obtain ⟨segment, here, said⟩ := Channel.exists_segment_of_ne_other known
  by_cases colon : ':' ∈ segment.toList
  · obtain ⟨view, predicate, type, -, seen⟩ := (Channel.classify_of_colon here colon _).mp found
    cases seen
  · obtain ⟨type', first, typed, seen⟩ :=
      (Channel.classify_of_no_colon here said colon _).mp found
    have isPart {n : Nat} {part : String}
        (taken : part ∈ (Channel.parts segment)[n]?.filter (· ≠ "")) : IsPart part := by
      obtain ⟨there, nonempty⟩ := Option.filter_eq_some_iff.mp taken
      exact Channel.isPart_of_mem here colon there (by simpa using nonempty)
    cases seen
    exact ⟨⟨_, _, _, Channel.isPart_of_mem here colon first typed, fun part => isPart,
      fun part => isPart⟩, rfl⟩

/-- Models and their names correspond: every address has a name of its own, from which it is read
and the rule for its type is found, and every name of a model stands for an address. -/
theorem model_names_correspond :
    (∀ address : ModelAddress, ofChannel? address.name = some address.query) ∧
    Function.Injective ModelAddress.name ∧
    (∀ name type, TypeName.ofString name = .ok type → IsPart name ∧
      ∀ address : ModelAddress, address.type = name →
        ∀ {ε : Type} (registry : Registry ε) rule direction evaluator,
          rule.slot direction = some evaluator →
          ∃ query, ofChannel? address.name = some query ∧
            (registry.overlay type rule).lookup query.type direction = some evaluator) ∧
    (∀ name type id field, ofChannel? name = some (.model type id field) →
      ∃ address : ModelAddress, address.query = .model type id field ∧
        ofChannel? address.name = some (.model type id field)) := by
  refine ⟨fun address => address.ofChannel?_name, ModelAddress.name_injective, ?_, ?_⟩
  · intro name type accepted
    obtain rfl := TypeName.ofString_eq_ok_iff.mp accepted
    refine ⟨Channel.isPart_of_properName (isTypeName_iff.mp type.valid), ?_⟩
    intro address typed ε registry rule direction evaluator set
    have spelled : type.name = address.query.type := typed.symm
    refine ⟨address.query, address.ofChannel?_name, ?_⟩
    rw [Registry.lookup_overlay, if_pos spelled, set, Option.some_or]
  · intro name type id field named
    obtain ⟨address, same⟩ := exists_address named
    exact ⟨address, same, same ▸ address.ofChannel?_name⟩

theorem isPart_post : IsPart "Post" := ⟨by decide, by simp⟩

theorem isPart_title : IsPart "title" := ⟨by decide, by simp⟩

/-- The titles of all posts, and the channel of one title under a longer name. -/
theorem model_names_correspond_title :
    let titles : ModelAddress :=
      ⟨"Post", none, some "title", isPart_post, by simp, by simpa using isPart_title⟩
    titles.name = "crud>Post//title" ∧
      ofChannel? "crud>Post//title" = some (.model "Post" none (some "title")) ∧
      (∃ type, TypeName.ofString "Post" = .ok type ∧ ∃ query,
        ofChannel? "crud>Post//title" = some query ∧
        (Registry.empty.overlay type (.single true .inbound)).lookup query.type .inbound =
          some true) ∧
      ofChannel? "crud>Post/42/title/1>x" = some (.model "Post" (some "42") (some "title")) ∧
      ∃ address : ModelAddress, address.query = .model "Post" (some "42") (some "title") := by
  intro titles
  obtain ⟨read, -, found, addressed⟩ := model_names_correspond
  have spelled : titles.name = "crud>Post//title" := by decide
  have accepted : TypeName.ofString "Post" = .ok ⟨"Post", rfl⟩ := rfl
  have named : ofChannel? "crud>Post/42/title/1>x" =
      some (.model "Post" (some "42") (some "title")) := rfl
  obtain ⟨address, same, -⟩ := addressed _ _ _ _ named
  have ruled := (found "Post" _ accepted).2 titles rfl .empty (.single true .inbound) .inbound
    true rfl
  rw [spelled] at ruled
  exact ⟨spelled, spelled ▸ read titles, ⟨_, accepted, ruled⟩, named, address, same⟩

end ResourceQuery

end ChannelGuard
