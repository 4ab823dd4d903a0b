import ChannelGuard.Json.Shape
import Mathlib.Data.List.Nodup

/-!
# The forms of a record

A record may be written as an object, with its fields in any order and other members among them, or
as the array of its fields. Fields that may be left out are left out anywhere in an object, and at
the end of an array. Reading under a shape finds the same fields in every form.
-/

namespace ChannelGuard.Json

/-! Values -/

mutual

/-- The value that an outline stands for; of members under one name the last one counts. -/
inductive Outline.Denotes : Outline → Json → Prop where
  | null : Denotes .null .null
  | bool (b : Bool) : Denotes (.bool b) (.bool b)
  | number (n : JsonNumber) : Denotes (.number (some n)) (.number n)
  | string (s : String) : Denotes (.string (some s)) (.string s)
  | array {items : List Outline} {values : List Json} (inside : Outline.DenoteItems items values) :
      Denotes (.array items true) (.array values)
  | object {members : List (Option String × Outline)} {values : List (String × Json)}
      (inside : Outline.DenoteMembers members values) :
      Denotes (.object members true) (.ofMembers values)

inductive Outline.DenoteItems : List Outline → List Json → Prop where
  | nil : DenoteItems [] []
  | cons {item : Outline} {value : Json} {items : List Outline} {values : List Json}
      (here : Outline.Denotes item value) (others : DenoteItems items values) :
      DenoteItems (item :: items) (value :: values)

inductive Outline.DenoteMembers : List (Option String × Outline) → List (String × Json) → Prop where
  | nil : DenoteMembers [] []
  | cons {name : String} {item : Outline} {value : Json} {members : List (Option String × Outline)}
      {values : List (String × Json)} (here : Outline.Denotes item value)
      (others : DenoteMembers members values) :
      DenoteMembers ((some name, item) :: members) ((name, value) :: values)

end

namespace Outline

mutual

/-- How deep arrays and objects are nested. -/
def nesting : Outline → Nat
  | array items _ => itemsNesting items + 1
  | object members _ => membersNesting members + 1
  | _ => 0

def itemsNesting : List Outline → Nat
  | [] => 0
  | item :: items => max item.nesting (itemsNesting items)

def membersNesting : List (Option String × Outline) → Nat
  | [] => 0
  | (_, item) :: members => max item.nesting (membersNesting members)

end

theorem itemsNesting_le_iff {items : List Outline} {depth : Nat} :
    itemsNesting items ≤ depth ↔ ∀ item ∈ items, item.nesting ≤ depth := by
  induction items with
  | nil => simp [itemsNesting]
  | cons item items ih =>
    rw [itemsNesting, Nat.max_le, ih, List.forall_mem_cons]

theorem membersNesting_le_iff {members : List (Option String × Outline)} {depth : Nat} :
    membersNesting members ≤ depth ↔ ∀ member ∈ members, member.2.nesting ≤ depth := by
  induction members with
  | nil => simp [membersNesting]
  | cons member members ih =>
    rw [membersNesting, Nat.max_le, ih, List.forall_mem_cons]

theorem areWhole_iff {items : List Outline} :
    areWhole items = true ↔ ∀ item ∈ items, item.isWhole = true := by
  induction items with
  | nil => simp [areWhole]
  | cons item items ih => simp [areWhole, ih]

theorem haveWholeValues_iff {members : List (Option String × Outline)} :
    haveWholeValues members = true ↔ ∀ member ∈ members, member.2.isWhole = true := by
  induction members with
  | nil => simp [haveWholeValues]
  | cons member members ih => simp [haveWholeValues, ih]

mutual

theorem Denotes.toJson?_eq {depth : Nat} : ∀ {outline : Outline} {value : Json},
    outline.Denotes value → outline.nesting ≤ depth → outline.toJson? depth = some value
  | _, _, .null, _ | _, _, .bool _, _ | _, _, .number _, _ | _, _, .string _, _ => rfl
  | _, _, .array inside, shallow => by
    cases depth with
    | zero => simp [nesting] at shallow
    | succ depth => simp [toJson?, inside.toJson?_eq (Nat.le_of_succ_le_succ shallow)]
  | _, _, .object inside, shallow => by
    cases depth with
    | zero => simp [nesting] at shallow
    | succ depth => simp [toJson?, inside.toJson?_eq (Nat.le_of_succ_le_succ shallow)]

theorem DenoteItems.toJson?_eq {depth : Nat} : ∀ {items : List Outline} {values : List Json},
    DenoteItems items values → itemsNesting items ≤ depth →
      itemsToJson? depth items = some values
  | _, _, .nil, _ => rfl
  | _, _, .cons here others, shallow => by
    obtain ⟨shallow, shallow'⟩ := Nat.max_le.mp shallow
    simp [itemsToJson?, here.toJson?_eq shallow, others.toJson?_eq shallow']

theorem DenoteMembers.toJson?_eq {depth : Nat} :
    ∀ {members : List (Option String × Outline)} {values : List (String × Json)},
      DenoteMembers members values → membersNesting members ≤ depth →
        membersToJson? depth members = some values
  | _, _, .nil, _ => rfl
  | _, _, .cons here others, shallow => by
    obtain ⟨shallow, shallow'⟩ := Nat.max_le.mp shallow
    simp [membersToJson?, here.toJson?_eq shallow, others.toJson?_eq shallow']

end

end Outline

/-! Records -/

/-- A field of a record as it may be written. -/
structure Field where
  name : String
  /-- What may stand for it. -/
  writes : Outline → Prop
  /-- Whether it may be left out. -/
  optional : Prop

/-- Under a name stands one thing, with a property, or nothing if that is allowed. -/
def AtMostOnce {α : Type} (name : String) (good : α → Prop) (optional : Prop)
    (members : List (String × α)) : Prop :=
  match members.filter (·.1 == name) with
  | [] => optional
  | [(_, item)] => good item
  | _ => False

/-- Fields in their order, of which those at the end may be left out. -/
inductive Field.ListedBy : List Field → List Outline → Prop where
  | rest {fields : List Field} (optional : ∀ field ∈ fields, field.optional) : ListedBy fields []
  | next {field : Field} {fields : List Field} {item : Outline} {items : List Outline}
      (here : field.writes item) (others : ListedBy fields items) :
      ListedBy (field :: fields) (item :: items)

theorem Field.ListedBy.optional {fields : List Field} (listed : ListedBy fields []) :
    ∀ field ∈ fields, field.optional := by
  cases listed with
  | rest optional => exact optional

/-- The outline is a record with these fields. -/
inductive Outline.IsRecord (fields : List Field) : Outline → Prop where
  | object {members : List (String × Outline)}
      (stated : ∀ field ∈ fields, AtMostOnce field.name field.writes field.optional members) :
      IsRecord fields (.object (members.map fun (name, item) => (some name, item)) true)
  | array {items : List Outline} (listed : Field.ListedBy fields items) :
      IsRecord fields (.array items true)

/-! Reading -/

/-- A field with the shape under which it is read, and what is known of the value read. -/
structure FieldReading (depth : Nat) where
  field : Field
  shape : Shape
  needed : Bool
  means : Json → Prop
  decodes : ∀ outline, field.writes outline → outline.nesting ≤ depth → outline.isWhole = true →
    ∃ value, shape.decode depth outline = .ok value ∧ means value
  needed_eq : field.optional → needed = false

namespace FieldReading

variable {depth : Nat}

abbrev name (reading : FieldReading depth) : String := reading.field.name

/-- The field as a shape lists it. -/
def entry (reading : FieldReading depth) : String × Shape × Bool :=
  (reading.name, reading.shape, reading.needed)

/-- The field has been found once, or not at all if it may be left out. -/
def FoundIn (reading : FieldReading depth) (found : List (String × Json)) : Prop :=
  AtMostOnce reading.name reading.means reading.field.optional found

/-- The field has been found and stands nowhere else, or is yet to come. -/
inductive Due (reading : FieldReading depth) (found : List (String × Json))
    (members : List (String × Outline)) : Prop where
  | done {value : Json} (here : found.filter (·.1 == reading.name) = [(reading.name, value)])
      (meant : reading.means value) (absent : members.filter (·.1 == reading.name) = [])
  | awaited (missing : found.filter (·.1 == reading.name) = [])
      (stated : AtMostOnce reading.name reading.field.writes reading.field.optional members)

/-- What a record holds under the name of the field, or that it may be left out. -/
def HeldBy (reading : FieldReading depth) (body : Json) : Prop :=
  match body.member? reading.name with
  | some value => reading.means value
  | none => reading.field.optional

theorem HeldBy.found_or_missing {reading : FieldReading depth} {body : Json}
    (held : reading.HeldBy body) :
    (∃ value, body.member? reading.name = some value ∧ reading.means value) ∨
      (body.member? reading.name = none ∧ reading.field.optional) := by
  unfold HeldBy at held
  split at held
  · next value there => exact .inl ⟨value, there, held⟩
  · next missing => exact .inr ⟨missing, held⟩

theorem Due.foundIn {reading : FieldReading depth} {found : List (String × Json)}
    (due : reading.Due found []) : reading.FoundIn found := by
  cases due with
  | done here meant _ => simpa [FoundIn, AtMostOnce, here] using meant
  | awaited missing stated => simpa [FoundIn, AtMostOnce, missing] using stated

theorem Due.of_ne {reading : FieldReading depth} {found : List (String × Json)}
    {member : String × Outline} {members : List (String × Outline)}
    (due : reading.Due found (member :: members)) (other : member.1 ≠ reading.name) :
    reading.Due found members := by
  cases due with
  | done here meant absent => exact .done here meant (by simpa [other] using absent)
  | awaited missing stated => exact .awaited missing (by simpa [AtMostOnce, other] using stated)

theorem Due.of_eq {reading : FieldReading depth} {found : List (String × Json)}
    {member : String × Outline} {members : List (String × Outline)}
    (due : reading.Due found (member :: members)) (same : member.1 = reading.name) :
    found.filter (·.1 == reading.name) = [] ∧ reading.field.writes member.2 ∧
      members.filter (·.1 == reading.name) = [] := by
  cases due with
  | done here meant absent => simp [same] at absent
  | awaited missing stated =>
    unfold AtMostOnce at stated
    rw [List.filter_cons_of_pos (by simpa using same)] at stated
    cases others : members.filter (·.1 == reading.name) with
    | nil => exact ⟨missing, by simpa [others] using stated, rfl⟩
    | cons _ _ => simp [others] at stated

/-- One member of a known field is read into what has been found. -/
theorem due_cons {readings : List (FieldReading depth)}
    (distinct : (readings.map (·.name)).Nodup) {reading : FieldReading depth}
    (known : reading ∈ readings) {found : List (String × Json)} {item : Outline}
    {members : List (String × Outline)} {value : Json}
    (due : ∀ r ∈ readings, r.Due found ((reading.name, item) :: members))
    (meant : reading.means value) :
    ∀ r ∈ readings, r.Due ((reading.name, value) :: found) members := by
  intro r hr
  by_cases same : reading.name = r.name
  · obtain rfl : reading = r := List.inj_on_of_nodup_map distinct known hr same
    obtain ⟨missing, -, absent⟩ := (due reading known).of_eq rfl
    exact .done (by simpa using missing) meant absent
  · cases (due r hr).of_ne same with
    | done here meant absent => exact .done (by simpa [same] using here) meant absent
    | awaited missing stated => exact .awaited (by simpa [same] using missing) stated

theorem find?_entry (readings : List (FieldReading depth)) (name : String) :
    (readings.map entry).find? (·.1 == name) = (readings.find? (·.name == name)).map entry :=
  List.find?_map

/-- The members of an object are read one by one. -/
theorem decodeMembers_eq {readings : List (FieldReading depth)}
    (distinct : (readings.map (·.name)).Nodup) :
    ∀ (members : List (String × Outline)) (found : List (String × Json)),
      (∀ r ∈ readings, r.Due found members) →
      (∀ m ∈ members, m.2.nesting ≤ depth ∧ m.2.isWhole = true) →
      ∃ found', (∀ r ∈ readings, r.FoundIn found') ∧
        Shape.decodeMembers depth (readings.map entry) found true
          (members.map fun (name, item) => (some name, item)) =
        Shape.finish (readings.map entry) found' true
  | [], found, due, _ => ⟨found, fun r hr => (due r hr).foundIn, rfl⟩
  | (name, item) :: members, found, due, whole => by
    obtain ⟨⟨shallow, item_whole⟩, others_whole⟩ := List.forall_mem_cons.mp whole
    have entry_eq := find?_entry readings name
    cases search : readings.find? (·.name == name) with
    | some reading =>
      have known : reading ∈ readings := List.mem_of_find?_eq_some search
      obtain rfl : reading.name = name := by simpa using List.find?_some search
      obtain ⟨missing, writes, -⟩ := (due reading known).of_eq rfl
      have fresh : found.any (·.1 == reading.name) = false := by simpa using missing
      obtain ⟨value, decoded, meant⟩ := reading.decodes item writes shallow item_whole
      obtain ⟨found', foundIn, others⟩ := decodeMembers_eq distinct members
        ((reading.name, value) :: found) (due_cons distinct known due meant) others_whole
      refine ⟨found', foundIn, ?_⟩
      rw [search] at entry_eq
      simp only [List.map_cons, Shape.decodeMembers, entry_eq, Option.map_some, fresh]
      simpa [entry, decoded] using others
    | none =>
      have other : ∀ r ∈ readings, name ≠ r.name := by
        rintro r hr rfl
        exact List.find?_eq_none.mp search r hr (beq_self_eq_true r.name)
      obtain ⟨found', foundIn, others⟩ := decodeMembers_eq distinct members found
        (fun r hr => (due r hr).of_ne (other r hr)) others_whole
      refine ⟨found', foundIn, ?_⟩
      rw [search] at entry_eq
      simpa [Shape.decodeMembers, entry_eq, item_whole] using others

/-- The items of an array are read one by one. -/
theorem decodeItems_eq (readings : List (FieldReading depth)) :
    ∀ (left : List (FieldReading depth)) (items : List Outline) (found : List (String × Json)),
      (left.map (·.name)).Nodup → (∀ r ∈ left, found.filter (·.1 == r.name) = []) →
      Field.ListedBy (left.map (·.field)) items →
      (∀ item ∈ items, item.nesting ≤ depth ∧ item.isWhole = true) →
      ∃ found', (∀ r ∈ left, r.FoundIn found') ∧
        (∀ name ∉ left.map (·.name), found'.filter (·.1 == name) = found.filter (·.1 == name)) ∧
        Shape.decodeItems depth (readings.map entry) (left.map entry) found true items =
          Shape.finish (readings.map entry) found' true
  | left, [], found, _, missing, listed, _ => by
    refine ⟨found, ?_, fun _ _ => rfl, by simp [Shape.decodeItems]⟩
    intro r hr
    simpa [FoundIn, AtMostOnce, missing r hr] using
      listed.optional r.field (List.mem_map_of_mem hr)
  | [], _ :: _, _, _, _, listed, _ => nomatch listed
  | reading :: left, item :: items, found, distinct, missing, .next writes listed, whole => by
    obtain ⟨⟨shallow, item_whole⟩, others_whole⟩ := List.forall_mem_cons.mp whole
    obtain ⟨fresh, distinct⟩ := List.nodup_cons.mp distinct
    obtain ⟨missing, others_missing⟩ := List.forall_mem_cons.mp missing
    obtain ⟨value, decoded, meant⟩ := reading.decodes item writes shallow item_whole
    have others_missing : ∀ r ∈ left,
        ((reading.name, value) :: found).filter (·.1 == r.name) = [] := by
      intro r hr
      have different : reading.name ≠ r.name := by
        intro same
        exact fresh (List.mem_map.mpr ⟨r, hr, same.symm⟩)
      simpa [different] using others_missing r hr
    obtain ⟨found', foundIn, kept, others⟩ := decodeItems_eq readings left items
      ((reading.name, value) :: found) distinct others_missing listed others_whole
    refine ⟨found', List.forall_mem_cons.mpr ⟨?_, foundIn⟩, ?_, ?_⟩
    · have here := kept reading.name fresh
      simp only [List.filter_cons_of_pos, beq_self_eq_true, missing] at here
      simpa [FoundIn, AtMostOnce, here] using meant
    · intro name absent
      obtain ⟨different, absent⟩ := List.ne_and_not_mem_of_not_mem_cons absent
      rw [kept name absent, List.filter_cons_of_neg (by simpa using Ne.symm different)]
    · simpa [Shape.decodeItems, entry, decoded] using others

theorem findSome?_eq_head? (name : String) (members : List (String × Json)) :
    (members.findSome? fun (k, value) => if name = k then some value else none) =
      ((members.filter (·.1 == name)).head?).map (·.2) := by
  induction members with
  | nil => rfl
  | cons member members ih =>
    by_cases here : member.1 = name
    · simp [here]
    · simp [here, Ne.symm here, ih]

theorem member?_ofMembers_of_filter (name : String) (found : List (String × Json)) :
    (Json.ofMembers found).member? name = ((found.filter (·.1 == name)).getLast?).map (·.2) := by
  rw [member?_ofMembers, findSome?_eq_head?, List.filter_reverse, List.head?_reverse]

theorem FoundIn.heldBy {reading : FieldReading depth} {found : List (String × Json)}
    (foundIn : reading.FoundIn found) : reading.HeldBy (.ofMembers found) := by
  unfold HeldBy
  rw [member?_ofMembers_of_filter]
  unfold FoundIn AtMostOnce at foundIn
  split at foundIn
  · next nothing => simpa [nothing] using foundIn
  · next one => simpa [one] using foundIn
  · exact foundIn.elim

theorem finish_eq {readings : List (FieldReading depth)} {found : List (String × Json)}
    (foundIn : ∀ r ∈ readings, r.FoundIn found) :
    Shape.finish (readings.map entry) found true = .ok (.ofMembers found) := by
  have complete : Shape.lacksField (readings.map entry) found = false := by
    unfold Shape.lacksField
    rw [List.any_map, List.any_eq_false]
    intro r hr
    have once := foundIn r hr
    unfold FoundIn AtMostOnce at once
    split at once
    · simp [entry, r.needed_eq once]
    · next member value one =>
      have here : (member, value) ∈ found.filter (·.1 == r.name) := by simp [one]
      have there : found.any (·.1 == r.name) = true :=
        List.any_eq_true.mpr ⟨_, List.mem_filter.mp here⟩
      simp [entry, there]
    · exact once.elim
  simp [Shape.finish, complete]

/-- In every form of a record, its fields are found. -/
theorem decode_isRecord (readings : List (FieldReading depth))
    (distinct : (readings.map (·.name)).Nodup) {outline : Outline}
    (record : outline.IsRecord (readings.map (·.field))) (whole : outline.isWhole = true)
    (shallow : outline.nesting ≤ depth + 1) :
    ∃ body, Shape.decode (depth + 1) (.record (readings.map entry)) outline = .ok body ∧
      ∀ r ∈ readings, r.HeldBy body := by
  cases record with
  | @object members stated =>
    have members_whole : ∀ m ∈ members, m.2.nesting ≤ depth ∧ m.2.isWhole = true := by
      intro m hm
      have values_whole : Outline.haveWholeValues _ = true := (Bool.and_eq_true_iff.mp whole).1
      have here : (some m.1, m.2) ∈ members.map fun (name, item) => (some name, item) :=
        List.mem_map_of_mem hm
      exact ⟨Outline.membersNesting_le_iff.mp (Nat.le_of_succ_le_succ shallow) _ here,
        Outline.haveWholeValues_iff.mp values_whole _ here⟩
    have due : ∀ r ∈ readings, r.Due [] members := fun r hr =>
      .awaited rfl (stated r.field (List.mem_map_of_mem hr))
    obtain ⟨found, foundIn, decoded⟩ := decodeMembers_eq distinct members [] due members_whole
    refine ⟨.ofMembers found, ?_, fun r hr => (foundIn r hr).heldBy⟩
    rw [Shape.decode, decoded, finish_eq foundIn]
  | @array items listed =>
    have items_whole : ∀ item ∈ items, item.nesting ≤ depth ∧ item.isWhole = true := by
      intro item hi
      have values_whole : Outline.areWhole items = true := (Bool.and_eq_true_iff.mp whole).1
      exact ⟨Outline.itemsNesting_le_iff.mp (Nat.le_of_succ_le_succ shallow) item hi,
        Outline.areWhole_iff.mp values_whole item hi⟩
    obtain ⟨found, foundIn, -, decoded⟩ := decodeItems_eq readings readings items [] distinct
      (fun _ _ => rfl) listed items_whole
    refine ⟨.ofMembers found, ?_, fun r hr => (foundIn r hr).heldBy⟩
    rw [Shape.decode, decoded, finish_eq foundIn]

end FieldReading

/-! Fields of one value -/

namespace Field

/-- A string, always written. -/
def text (name value : String) : Field := ⟨name, (· = .string (some value)), False⟩

/-- A truth value, of which false may be left out. -/
def flag (name : String) (value : Bool) : Field := ⟨name, (· = .bool value), value = false⟩

/-- Any value, always written. -/
def value (name : String) (value : Json) : Field := ⟨name, (·.Denotes value), False⟩

/-- Any value, of which null may be left out. -/
def nullable (name : String) (value : Json) : Field := ⟨name, (·.Denotes value), value = .null⟩

end Field

namespace FieldReading

variable {depth : Nat}

def text (name value : String) : FieldReading depth where
  field := .text name value
  shape := .string
  needed := true
  means := (· = .string value)
  decodes := by
    rintro outline rfl - -
    exact ⟨_, rfl, rfl⟩
  needed_eq := False.elim

def flag (name : String) (value : Bool) : FieldReading depth where
  field := .flag name value
  shape := .bool
  needed := false
  means := (· = .bool value)
  decodes := by
    rintro outline rfl - -
    exact ⟨_, rfl, rfl⟩
  needed_eq := fun _ => rfl

theorem decode_any {outline : Outline} {value : Json} (denotes : outline.Denotes value)
    (shallow : outline.nesting ≤ depth) : Shape.decode depth .any outline = .ok value := by
  simp [Shape.decode, denotes.toJson?_eq shallow]

def value (name : String) (value : Json) : FieldReading depth where
  field := .value name value
  shape := .any
  needed := true
  means := (· = value)
  decodes := fun _ denotes shallow _ => ⟨value, decode_any denotes shallow, rfl⟩
  needed_eq := False.elim

def nullable (name : String) (value : Json) : FieldReading depth where
  field := .nullable name value
  shape := .any
  needed := false
  means := (· = value)
  decodes := fun _ denotes shallow _ => ⟨value, decode_any denotes shallow, rfl⟩
  needed_eq := fun _ => rfl

end FieldReading

end ChannelGuard.Json
