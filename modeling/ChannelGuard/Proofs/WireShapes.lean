import ChannelGuard.Proofs.QueryWireForm

/-!
# Shapes of written queries

Which JSON values are read as queries is said here by what members they have. A value with the
members of a view is a view, whatever else it holds; any other value with the members of a model is
a model; and that is all. What has been read is written in one way, which reads back as the same
query and spends no member on what is absent.
-/

namespace ChannelGuard

/-- What an object has under a key that it need not have. A null says that there is nothing. -/
inductive Json.Optionally (v : Json) (key : String) : Option Json → Prop where
  | absent (missing : v.member? key = none) : Optionally v key none
  | null (found : v.member? key = some .null) : Optionally v key none
  | given {value : Json} (found : v.member? key = some value) (said : value ≠ .null) :
      Optionally v key (some value)

theorem Json.isObject_of_member? {v value : Json} {key : String}
    (found : v.member? key = some value) : v.isObject = true := by
  cases v with
  | object members => rfl
  | _ => cases found

namespace ResourceQuery

/-- The members of a view. -/
structure IsViewShape (v : Json) (name type : String) (predicate : Option Json) : Prop where
  isObject : v.isObject = true
  named : v.member? "view" = some (.string name)
  typed : v.member? "type" = some (.string type)
  narrowed : v.Optionally "predicateData" predicate

/-- The members of a model. -/
structure IsModelShape (v : Json) (type : String) (id field : Option String) : Prop where
  isObject : v.isObject = true
  typed : v.member? "type" = some (.string type)
  recorded : v.Optionally "id" (id.map .string)
  focused : v.Optionally "field" (field.map .string)

def HasViewShape (v : Json) : Prop := ∃ name type predicate, IsViewShape v name type predicate

def HasModelShape (v : Json) : Prop := ∃ type id field, IsModelShape v type id field

/-! Members -/

theorem string?_eq_some_iff {v : Json} {key s : String} :
    string? v key = some s ↔ v.member? key = some (.string s) := by
  constructor
  · intro read
    obtain ⟨value, found, text⟩ := Option.bind_eq_some_iff.mp read
    cases value with
    | string _ =>
      cases text
      exact found
    | _ => cases text
  · exact string?_of_member?

theorem optionally_iff {v : Json} {key : String} {value : Option Json} :
    v.Optionally key value ↔
      (match v.member? key with
        | some .null => none
        | other => other) = value := by
  constructor
  · rintro (missing | found | ⟨found, said⟩)
    · rw [missing]
    · rw [found]
    · rw [found]
      split
      · next null => exact absurd (Option.some.inj null) said
      · rfl
  · rintro rfl
    split
    · next found => exact .null found
    · next other =>
      cases found : v.member? key with
      | none => exact .absent found
      | some value =>
        refine .given found ?_
        rintro rfl
        exact other found

theorem optionalString?_eq_some_iff {v : Json} {key : String} {s : Option String} :
    optionalString? v key = some s ↔ v.Optionally key (s.map .string) := by
  unfold optionalString?
  rw [optionally_iff]
  match v.member? key with
  | none | some .null | some (.string _) => cases s <;> simp
  | some (.bool _) | some (.number _) | some (.array _) | some (.object _) => cases s <;> simp

/-! Views and models -/

theorem viewOfJson?_eq_some_iff {v : Json} {q : ResourceQuery} :
    viewOfJson? v = some q ↔
      ∃ name type predicate, IsViewShape v name type predicate ∧ q = .view name type predicate := by
  simp only [viewOfJson?, Option.bind_eq_bind, Option.bind_eq_some_iff, string?_eq_some_iff,
    Option.some.injEq]
  constructor
  · rintro ⟨name, named, type, typed, rfl⟩
    exact ⟨name, type, _, ⟨Json.isObject_of_member? typed, named, typed, optionally_iff.mpr rfl⟩,
      rfl⟩
  · rintro ⟨name, type, predicate, ⟨-, named, typed, narrowed⟩, rfl⟩
    exact ⟨name, named, type, typed,
      congrArg (ResourceQuery.view name type) (optionally_iff.mp narrowed)⟩

theorem modelOfJson?_eq_some_iff {v : Json} {q : ResourceQuery} :
    modelOfJson? v = some q ↔
      ∃ type id field, IsModelShape v type id field ∧ q = .model type id field := by
  simp only [modelOfJson?, Option.bind_eq_bind, Option.bind_eq_some_iff, string?_eq_some_iff,
    optionalString?_eq_some_iff, Option.some.injEq]
  constructor
  · rintro ⟨type, typed, id, recorded, field, focused, rfl⟩
    exact ⟨type, id, field, ⟨Json.isObject_of_member? typed, typed, recorded, focused⟩, rfl⟩
  · rintro ⟨type, id, field, ⟨-, typed, recorded, focused⟩, rfl⟩
    exact ⟨type, typed, id, recorded, field, focused, rfl⟩

theorem viewOfJson?_eq_none_iff {v : Json} : viewOfJson? v = none ↔ ¬HasViewShape v := by
  simp only [Option.eq_none_iff_forall_ne_some, ne_eq, viewOfJson?_eq_some_iff, HasViewShape]
  constructor
  · rintro none ⟨name, type, predicate, shape⟩
    exact none _ ⟨name, type, predicate, shape, rfl⟩
  · rintro none q ⟨name, type, predicate, shape, -⟩
    exact none ⟨name, type, predicate, shape⟩

theorem modelOfJson?_eq_none_iff {v : Json} : modelOfJson? v = none ↔ ¬HasModelShape v := by
  simp only [Option.eq_none_iff_forall_ne_some, ne_eq, modelOfJson?_eq_some_iff, HasModelShape]
  constructor
  · rintro none ⟨type, id, field, shape⟩
    exact none _ ⟨type, id, field, shape, rfl⟩
  · rintro none q ⟨type, id, field, shape, -⟩
    exact none ⟨type, id, field, shape⟩

theorem ofJson?_eq_view_iff {v : Json} {name type : String} {predicate : Option Json} :
    ofJson? v = some (.view name type predicate) ↔ IsViewShape v name type predicate := by
  rw [ofJson?, Option.or_eq_some_iff, viewOfJson?_eq_some_iff, modelOfJson?_eq_some_iff]
  constructor
  · rintro (⟨_, _, _, shape, same⟩ | ⟨-, _, _, _, -, same⟩)
    · cases same
      exact shape
    · cases same
  · intro shape
    exact .inl ⟨name, type, predicate, shape, rfl⟩

theorem ofJson?_eq_model_iff {v : Json} {type : String} {id field : Option String} :
    ofJson? v = some (.model type id field) ↔ ¬HasViewShape v ∧ IsModelShape v type id field := by
  rw [ofJson?, Option.or_eq_some_iff, viewOfJson?_eq_some_iff, modelOfJson?_eq_some_iff,
    viewOfJson?_eq_none_iff]
  constructor
  · rintro (⟨_, _, _, -, same⟩ | ⟨noView, _, _, _, shape, same⟩)
    · cases same
    · cases same
      exact ⟨noView, shape⟩
  · rintro ⟨noView, shape⟩
    exact .inr ⟨noView, type, id, field, shape, rfl⟩

theorem ofJson?_eq_none_iff {v : Json} :
    ofJson? v = none ↔ ¬HasViewShape v ∧ ¬HasModelShape v := by
  rw [ofJson?, Option.or_eq_none_iff, viewOfJson?_eq_none_iff, modelOfJson?_eq_none_iff]

/-! Having a shape -/

theorem hasViewShape_iff {v : Json} :
    HasViewShape v ↔ v.isObject = true ∧
      ∀ key ∈ ["view", "type"], ∃ s, v.member? key = some (.string s) := by
  simp only [List.mem_cons, List.not_mem_nil, or_false, forall_eq_or_imp, forall_eq]
  constructor
  · rintro ⟨name, type, predicate, shape⟩
    exact ⟨shape.isObject, ⟨name, shape.named⟩, type, shape.typed⟩
  · rintro ⟨isObject, ⟨name, named⟩, type, typed⟩
    exact ⟨name, type, _, isObject, named, typed, optionally_iff.mpr rfl⟩

theorem exists_optionally_string_iff {v : Json} {key : String} :
    (∃ s : Option String, v.Optionally key (s.map .string)) ↔
      v.member? key = none ∨ v.member? key = some .null ∨
        ∃ s, v.member? key = some (.string s) := by
  constructor
  · rintro ⟨s, held⟩
    cases s with
    | none =>
      rcases held with missing | found
      · exact .inl missing
      · exact .inr (.inl found)
    | some s =>
      cases held with
      | given found said => exact .inr (.inr ⟨s, found⟩)
  · rintro (missing | found | ⟨s, found⟩)
    · exact ⟨none, .absent missing⟩
    · exact ⟨none, .null found⟩
    · exact ⟨some s, .given found (by simp)⟩

theorem hasModelShape_iff {v : Json} :
    HasModelShape v ↔ v.isObject = true ∧ (∃ s, v.member? "type" = some (.string s)) ∧
      ∀ key ∈ ["id", "field"], v.member? key = none ∨ v.member? key = some .null ∨
        ∃ s, v.member? key = some (.string s) := by
  simp only [List.mem_cons, List.not_mem_nil, or_false, forall_eq_or_imp, forall_eq,
    ← exists_optionally_string_iff]
  constructor
  · rintro ⟨type, id, field, shape⟩
    exact ⟨shape.isObject, ⟨type, shape.typed⟩, ⟨id, shape.recorded⟩, field, shape.focused⟩
  · rintro ⟨isObject, ⟨type, typed⟩, ⟨id, recorded⟩, field, focused⟩
    exact ⟨type, id, field, isObject, typed, recorded, focused⟩

/-! Other members -/

/-- The members that are looked at. -/
def memberKeys : List String := ["view", "type", "predicateData", "id", "field"]

theorem ofJson?_congr {v v' : Json} (same : ∀ key ∈ memberKeys, v.member? key = v'.member? key) :
    ofJson? v = ofJson? v' := by
  have view := same "view" (by decide)
  have type := same "type" (by decide)
  have predicate := same "predicateData" (by decide)
  have id := same "id" (by decide)
  have field := same "field" (by decide)
  simp only [ofJson?, viewOfJson?, modelOfJson?, string?, optionalString?, view, type, predicate,
    id, field]

/-! Writing what was read -/

theorem mem_optionalMember {key : String} {value : Option Json} {entry : String × Json} :
    entry ∈ optionalMember key value ↔ ∃ given, value = some given ∧ entry = (key, given) := by
  cases value <;> simp [optionalMember]

/-- Only a null predicate is written as null. -/
theorem toJson_has_no_null {q : ResourceQuery} (said : q.predicate? ≠ some .null) :
    ∃ members, q.toJson = .object members ∧ ∀ entry ∈ members, entry.2 ≠ .null := by
  cases q with
  | model type id field =>
    refine ⟨_, rfl, fun entry found => ?_⟩
    have listed := Keyed.mem_of_mem_ofList found
    simp only [List.cons_append, List.mem_cons, List.mem_append, mem_optionalMember,
      Option.map_eq_some_iff] at listed
    rcases listed with rfl | ⟨_, ⟨s, -, rfl⟩, rfl⟩ | ⟨_, ⟨s, -, rfl⟩, rfl⟩ <;> simp
  | view name type predicate =>
    refine ⟨_, rfl, fun entry found => ?_⟩
    have listed := Keyed.mem_of_mem_ofList found
    simp only [List.mem_cons, mem_optionalMember] at listed
    rcases listed with rfl | rfl | ⟨value, rfl, rfl⟩
    · simp
    · simp
    · rintro rfl
      exact said rfl

theorem predicate?_ne_null_of_ofJson? {v : Json} {q : ResourceQuery} (read : ofJson? v = some q) :
    q.predicate? ≠ some .null := by
  cases q with
  | model type id field => simp [predicate?]
  | view name type predicate =>
    rintro null
    obtain rfl : predicate = some .null := null
    have narrowed := (ofJson?_eq_view_iff.mp read).narrowed
    cases narrowed with
    | given found said => exact said rfl

/-- A value is read as a view or as a model by the members that it has, and as nothing else. What
has been read is written without a null and reads back. -/
theorem queries_read_by_shape :
    (∀ v, (∀ name type predicate,
        ofJson? v = some (.view name type predicate) ↔ IsViewShape v name type predicate) ∧
      (∀ type id field,
        ofJson? v = some (.model type id field) ↔ ¬HasViewShape v ∧ IsModelShape v type id field) ∧
      (ofJson? v = none ↔ ¬HasViewShape v ∧ ¬HasModelShape v)) ∧
    (∀ v, HasViewShape v ↔ v.isObject = true ∧
      ∀ key ∈ ["view", "type"], ∃ s, v.member? key = some (.string s)) ∧
    (∀ v, HasModelShape v ↔ v.isObject = true ∧ (∃ s, v.member? "type" = some (.string s)) ∧
      ∀ key ∈ ["id", "field"], v.member? key = none ∨ v.member? key = some .null ∨
        ∃ s, v.member? key = some (.string s)) ∧
    (∀ v v' : Json, (∀ key ∈ memberKeys, v.member? key = v'.member? key) →
      ofJson? v = ofJson? v') ∧
    (∀ v q, ofJson? v = some q → ofJson? q.toJson = some q ∧
      ∃ members, q.toJson = .object members ∧ ∀ entry ∈ members, entry.2 ≠ .null) := by
  refine ⟨fun v => ⟨fun _ _ _ => ofJson?_eq_view_iff, fun _ _ _ => ofJson?_eq_model_iff,
    ofJson?_eq_none_iff⟩, fun v => hasViewShape_iff, fun v => hasModelShape_iff,
    fun v v' => ofJson?_congr, ?_⟩
  intro v q read
  have said := predicate?_ne_null_of_ofJson? read
  exact ⟨by rw [q.ofJson?_toJson, withoutNull_eq_self_iff.mpr said], toJson_has_no_null said⟩

/-- A view that is not named by a string is read as a model, and its predicate is not looked at. -/
theorem queries_read_by_shape_unnamed :
    let v : Json := .object [("field", .null), ("predicateData", .bool true),
      ("type", .string "Post"), ("view", .null)]
    ofJson? v = some (.model "Post" none none) ∧
      ofJson? v = ofJson? (.object [("field", .null), ("other", .string "Post"),
        ("predicateData", .bool true), ("type", .string "Post"), ("view", .null)]) ∧
      ofJson? (model "Post" none none).toJson = some (.model "Post" none none) := by
  intro v
  obtain ⟨shapes, view, -, others, written⟩ := queries_read_by_shape
  have noView : ¬HasViewShape v := by
    rw [view]
    rintro ⟨-, strings⟩
    obtain ⟨s, named⟩ := strings "view" (by decide)
    have null : v.member? "view" = some .null := rfl
    rw [null] at named
    cases named
  have read := ((shapes v).2.1 "Post" none none).mpr ⟨noView, rfl, rfl, .absent rfl, .null rfl⟩
  refine ⟨read, others _ _ ?_, (written _ _ read).1⟩
  intro key known
  simp only [memberKeys, List.mem_cons, List.not_mem_nil, or_false] at known
  rcases known with rfl | rfl | rfl | rfl | rfl <;> rfl

end ResourceQuery

end ChannelGuard
