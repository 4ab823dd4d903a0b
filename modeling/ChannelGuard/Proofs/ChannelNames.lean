import ChannelGuard.Proofs.Splitting

/-!
# Channel names

Whether a name is that of a resource channel, and which resource it then names, is said here by how
the name can be taken apart, without a scanner. The scanner agrees on every name.
-/

namespace ChannelGuard.Channel

/-! Segments -/

/-- The segment of a name is what stands between `crud>` and the next `>`, or the end. -/
def Segment (name segment : String) : Prop :=
  '>' ∉ segment.toList ∧
    ∃ rest, name = "crud>" ++ segment ++ rest ∧ (rest = "" ∨ ∃ more, rest = ">" ++ more)

/-- A segment that names a view, and how it is taken apart. -/
structure IsView (segment view predicate type : String) : Prop where
  text : segment = view ++ "(" ++ predicate ++ "):" ++ type
  view_free : '(' ∉ view.toList
  one_line : ∀ c ∈ predicate.toList, c ≠ '\n' ∧ c ≠ '\r' ∧ c ≠ '\u2028' ∧ c ≠ '\u2029'
  type_free : ':' ∉ type.toList
  typed : type ≠ ""

/-- The parts of a segment between slashes. -/
def parts (segment : String) : List String := (segment.toList.splitOn '/').map String.ofList

theorem Segment.before_eq {name segment : String} (h : Segment name segment) :
    ∃ rest, name.toList = 'c' :: 'r' :: 'u' :: 'd' :: '>' :: rest ∧
      before '>' rest = segment.toList := by
  obtain ⟨free, rest, rfl, ends⟩ := h
  refine ⟨segment.toList ++ rest.toList, by simp, before_append free ?_⟩
  rcases ends with rfl | ⟨more, rfl⟩
  · exact .inl rfl
  · exact .inr ⟨more.toList, by simp⟩

theorem Segment.unique {name segment segment' : String} (h : Segment name segment)
    (h' : Segment name segment') : segment' = segment := by
  obtain ⟨rest, spelled, found⟩ := h.before_eq
  obtain ⟨rest', spelled', found'⟩ := h'.before_eq
  have same : rest' = rest := by simpa using spelled'.symm.trans spelled
  rw [← String.toList_inj, ← found', ← found, same]

/-- A name that starts as those of resource channels do has exactly one segment. -/
theorem existsUnique_segment (rest : String) : ∃! segment, Segment ("crud>" ++ rest) segment := by
  obtain ⟨free, tail, same, ends⟩ := before_spec '>' rest.toList
  have here : Segment ("crud>" ++ rest) (String.ofList (before '>' rest.toList)) := by
    refine ⟨by simpa using free, String.ofList tail, ?_, ?_⟩
    · rw [String.append_assoc, ← String.ofList_append, ← same, String.ofList_toList]
    · rcases ends with rfl | ⟨more, rfl⟩
      · exact .inl rfl
      · exact .inr ⟨String.ofList more, by rw [← String.toList_inj]; simp⟩
  exact ⟨_, here, fun segment other => here.unique other⟩

theorem classify_of_segment {name segment : String} (h : Segment name segment) :
    classify name = if segment = "" then .other else ofSegment segment.toList := by
  obtain ⟨rest, spelled, found⟩ := h.before_eq
  unfold classify
  rw [spelled]
  simp only [found, List.isEmpty_iff, String.toList_eq_nil_iff]

theorem classify_of_not_prefixed {name : String} (h : ¬∃ rest, name = "crud>" ++ rest) :
    classify name = .other := by
  unfold classify
  split
  · next rest spelled =>
    refine absurd ⟨String.ofList rest, ?_⟩ h
    rw [← String.toList_inj, spelled]
    simp
  · rfl

/-! Views -/

theorem any_isLineTerminator_eq_false_iff {text : List Char} :
    text.any isLineTerminator = false ↔
      ∀ c ∈ text, c ≠ '\n' ∧ c ≠ '\r' ∧ c ≠ '\u2028' ∧ c ≠ '\u2029' := by
  simp [isLineTerminator, and_assoc]

theorem viewOf?_eq_some_iff {segment : List Char} {query : ResourceQuery} :
    viewOf? segment = some query ↔
      ∃ view predicate type,
        segment = view ++ '(' :: (predicate ++ ')' :: ':' :: type) ∧
        '(' ∉ view ∧ predicate.any isLineTerminator = false ∧ ':' ∉ type ∧
        query = .view (String.ofList view) (String.ofList type)
          (Json.read? (String.ofList predicate)) := by
  simp only [viewOf?, Option.bind_eq_bind, Option.bind_eq_some_iff, Prod.exists, Option.bind_none,
    Option.ite_none_left_eq_some, splitLast?_eq_some_iff, splitFirst?_eq_some_iff]
  constructor
  · rintro ⟨head, type, ⟨rfl, typeFree⟩, inner, closed, ⟨rfl, -⟩, isClosed, view, predicate,
      ⟨rfl, viewFree⟩, oneLine, made⟩
    have nothing : closed = [] := by simpa using isClosed
    subst nothing
    exact ⟨view, predicate, type, by simp, viewFree, by simpa using oneLine, typeFree,
      (Option.some.inj made).symm⟩
  · rintro ⟨view, predicate, type, rfl, viewFree, oneLine, typeFree, rfl⟩
    exact ⟨view ++ '(' :: (predicate ++ [')']), type, ⟨by simp, typeFree⟩,
      view ++ '(' :: predicate, [], ⟨by simp, by simp⟩, by simp, view, predicate,
      ⟨rfl, viewFree⟩, by simp [oneLine], rfl⟩

/-- The scanner reads a view with a type exactly where the segment can be taken apart into one. -/
theorem viewOf?_toList_eq_some_iff {segment : String} {query : ResourceQuery} :
    viewOf? segment.toList = some query ∧ query.type ≠ "" ↔
      ∃ view predicate type, IsView segment view predicate type ∧
        query = .view view type (Json.read? predicate) := by
  rw [viewOf?_eq_some_iff]
  constructor
  · rintro ⟨⟨view, predicate, type, text, viewFree, oneLine, typeFree, rfl⟩, typed⟩
    refine ⟨String.ofList view, String.ofList predicate, String.ofList type,
      ⟨?_, ?_, ?_, ?_, typed⟩, rfl⟩
    · rw [← String.toList_inj, text]
      simp
    · simpa using viewFree
    · simpa using any_isLineTerminator_eq_false_iff.mp oneLine
    · simpa using typeFree
  · rintro ⟨view, predicate, type, ⟨rfl, viewFree, oneLine, typeFree, typed⟩, rfl⟩
    refine ⟨⟨view.toList, predicate.toList, type.toList, by simp, viewFree, ?_, typeFree, by simp⟩,
      typed⟩
    exact any_isLineTerminator_eq_false_iff.mpr oneLine

theorem IsView.unique {segment view predicate type view' predicate' type' : String}
    (h : IsView segment view predicate type) (h' : IsView segment view' predicate' type') :
    view = view' ∧ predicate = predicate' ∧ type = type' := by
  have text : view.toList ++ '(' :: (predicate.toList ++ [')']) ++ ':' :: type.toList =
      view'.toList ++ '(' :: (predicate'.toList ++ [')']) ++ ':' :: type'.toList := by
    have same := congrArg String.toList (h.text.symm.trans h'.text)
    simpa using same
  obtain ⟨heads, types⟩ := eq_of_last_eq text h.type_free h'.type_free
  obtain ⟨views, closed⟩ := eq_of_first_eq heads h.view_free h'.view_free
  have predicates := List.append_cancel_right closed
  exact ⟨String.toList_inj.mp views, String.toList_inj.mp predicates, String.toList_inj.mp types⟩

/-! Models -/

private theorem nonEmpty?_getD (part : Option (List Char)) :
    nonEmpty? (part.getD []) = (part.map String.ofList).filter (· ≠ "") := by
  cases part with
  | none => rfl
  | some text => cases text <;> simp [nonEmpty?, Option.filter]

theorem modelOf_toList (segment : String) :
    modelOf segment.toList =
      .model ((parts segment)[0]?.getD "") ((parts segment)[1]?.filter (· ≠ ""))
        ((parts segment)[2]?.filter (· ≠ "")) := by
  have part (n : Nat) := getD_splitOn '/' segment.toList n
  have first : String.ofList (before '/' segment.toList) = (parts segment)[0]?.getD "" := by
    have head : _ = before '/' segment.toList := part 0
    rw [← head, parts, List.getElem?_map]
    cases (segment.toList.splitOn '/')[0]? <;> rfl
  have later (n : Nat) : nonEmpty? (before '/' ((after '/')^[n] segment.toList)) =
      (parts segment)[n]?.filter (· ≠ "") := by
    rw [← part, nonEmpty?_getD, parts, List.getElem?_map]
  have second : nonEmpty? (before '/' (after '/' segment.toList)) = _ := later 1
  have third : nonEmpty? (before '/' (after '/' (after '/' segment.toList))) = _ := later 2
  simp only [modelOf, first, second, third]

/-! Names -/

/-- A segment carries the resource that is read from it, unless that has no type. -/
theorem ofSegment_eq_resource_iff {segment : List Char} {query : ResourceQuery} :
    ofSegment segment = .resource query ↔
      (if ':' ∈ segment then viewOf? segment else some (modelOf segment)) = some query ∧
        query.type ≠ "" := by
  simp only [ofSegment, List.contains_iff_mem]
  cases (if ':' ∈ segment then viewOf? segment else some (modelOf segment)) with
  | none => simp
  | some read =>
    simp only [Option.some.injEq]
    split
    · next empty =>
      have untyped : read.type = "" := String.isEmpty_iff.mp empty
      constructor
      · intro h
        cases h
      · rintro ⟨rfl, typed⟩
        exact absurd untyped typed
    · next said =>
      have typed : read.type ≠ "" := fun untyped => said (String.isEmpty_iff.mpr untyped)
      rw [Channel.resource.injEq]
      constructor
      · rintro rfl
        exact ⟨rfl, typed⟩
      · exact And.left

theorem ofSegment_ne_other (segment : List Char) : ofSegment segment ≠ .other := by
  simp only [ofSegment]
  generalize (if segment.contains ':' then viewOf? segment else some (modelOf segment)) = read
  cases read with
  | none => simp
  | some query =>
    by_cases empty : query.type.isEmpty <;> simp [empty]

/-- A name carries no resource unless it starts as those of resource channels do and its segment
says something. -/
theorem classify_eq_other_iff (name : String) :
    classify name = .other ↔ (¬∃ rest, name = "crud>" ++ rest) ∨ Segment name "" := by
  constructor
  · intro other
    by_contra absent
    obtain ⟨prefixed, said⟩ := not_or.mp absent
    obtain ⟨rest, rfl⟩ := not_not.mp prefixed
    obtain ⟨segment, h, -⟩ := existsUnique_segment rest
    have nonempty : segment ≠ "" := by
      rintro rfl
      exact said h
    rw [classify_of_segment h, if_neg nonempty] at other
    exact ofSegment_ne_other _ other
  · rintro (h | h)
    · exact classify_of_not_prefixed h
    · rw [classify_of_segment h, if_pos rfl]

theorem exists_segment_of_ne_other {name : String} (h : classify name ≠ .other) :
    ∃ segment, Segment name segment ∧ segment ≠ "" := by
  obtain ⟨prefixed, said⟩ := not_or.mp (mt (classify_eq_other_iff name).mpr h)
  obtain ⟨rest, rfl⟩ := not_not.mp prefixed
  obtain ⟨segment, here, -⟩ := existsUnique_segment rest
  refine ⟨segment, here, ?_⟩
  rintro rfl
  exact said here

/-- A name whose segment says something is malformed when it carries no resource. -/
theorem classify_eq_malformed_iff {name segment : String} (h : Segment name segment)
    (nonempty : segment ≠ "") :
    classify name = .malformed ↔ ∀ query, classify name ≠ .resource query := by
  rw [classify_of_segment h, if_neg nonempty]
  cases found : ofSegment segment.toList with
  | resource query => simp
  | malformed => simp
  | other => exact absurd found (ofSegment_ne_other _)

private theorem ne_empty_of_colon {segment : String} (colon : ':' ∈ segment.toList) :
    segment ≠ "" := by
  rintro rfl
  simp at colon

/-- A segment with a colon carries a resource where it can be taken apart into a view. -/
theorem classify_of_colon {name segment : String} (h : Segment name segment)
    (colon : ':' ∈ segment.toList) (query : ResourceQuery) :
    classify name = .resource query ↔
      ∃ view predicate type, IsView segment view predicate type ∧
        query = .view view type (Json.read? predicate) := by
  rw [classify_of_segment h, if_neg (ne_empty_of_colon colon), ofSegment_eq_resource_iff,
    if_pos colon]
  exact viewOf?_toList_eq_some_iff

theorem exists_first_part (segment : String) : ∃ type, (parts segment)[0]? = some type := by
  have nonempty : parts segment ≠ [] := by
    intro nothing
    exact List.splitOn_ne_nil '/' segment.toList (List.map_eq_nil_iff.mp nothing)
  exact ⟨_, List.getElem?_eq_getElem (List.length_pos_iff.mpr nonempty)⟩

/-- A segment without a colon carries the resource that its parts spell. -/
theorem classify_of_no_colon {name segment : String} (h : Segment name segment)
    (nonempty : segment ≠ "") (plain : ':' ∉ segment.toList) (query : ResourceQuery) :
    classify name = .resource query ↔
      ∃ type, (parts segment)[0]? = some type ∧ type ≠ "" ∧
        query = .model type ((parts segment)[1]?.filter (· ≠ ""))
          ((parts segment)[2]?.filter (· ≠ "")) := by
  obtain ⟨type, first⟩ := exists_first_part segment
  rw [classify_of_segment h, if_neg nonempty, ofSegment_eq_resource_iff, if_neg plain,
    modelOf_toList, first]
  simp only [Option.some.injEq, Option.getD_some]
  constructor
  · rintro ⟨rfl, typed⟩
    exact ⟨type, rfl, typed, rfl⟩
  · rintro ⟨type, rfl, typed, rfl⟩
    exact ⟨rfl, typed⟩

/-- What a channel name says about the resource it carries, for every name. -/
theorem classify_follows_names :
    (∀ rest, ∃! segment, Segment ("crud>" ++ rest) segment) ∧
    (∀ name, classify name = .other ↔ (¬∃ rest, name = "crud>" ++ rest) ∨ Segment name "") ∧
    (∀ segment rest, '>' ∉ segment.toList →
      classify ("crud>" ++ segment ++ ">" ++ rest) = classify ("crud>" ++ segment)) ∧
    (∀ segment view predicate type view' predicate' type',
      IsView segment view predicate type → IsView segment view' predicate' type' →
        view = view' ∧ predicate = predicate' ∧ type = type') ∧
    (∀ name segment, Segment name segment → ':' ∈ segment.toList →
      (∀ query, classify name = .resource query ↔
        ∃ view predicate type, IsView segment view predicate type ∧
          query = .view view type (Json.read? predicate)) ∧
      (classify name = .malformed ↔
        ¬∃ view predicate type, IsView segment view predicate type)) ∧
    (∀ name segment, Segment name segment → segment ≠ "" → ':' ∉ segment.toList →
      (∀ query, classify name = .resource query ↔
        ∃ type, (parts segment)[0]? = some type ∧ type ≠ "" ∧
          query = .model type ((parts segment)[1]?.filter (· ≠ ""))
            ((parts segment)[2]?.filter (· ≠ ""))) ∧
      (classify name = .malformed ↔ (parts segment)[0]? = some "")) := by
  refine ⟨existsUnique_segment, classify_eq_other_iff, ?_, ?_, ?_, ?_⟩
  · intro segment rest free
    have longer : Segment ("crud>" ++ segment ++ ">" ++ rest) segment :=
      ⟨free, ">" ++ rest, String.append_assoc .., .inr ⟨rest, rfl⟩⟩
    have bare : Segment ("crud>" ++ segment) segment :=
      ⟨free, "", String.append_empty.symm, .inl rfl⟩
    rw [classify_of_segment longer, classify_of_segment bare]
  · intro segment view predicate type view' predicate' type' h h'
    exact h.unique h'
  · intro name segment h colon
    have carries := classify_of_colon h colon
    refine ⟨carries, ?_⟩
    rw [classify_eq_malformed_iff h (ne_empty_of_colon colon)]
    constructor
    · rintro none ⟨view, predicate, type, isView⟩
      exact none _ ((carries _).mpr ⟨view, predicate, type, isView, rfl⟩)
    · intro none query carried
      obtain ⟨view, predicate, type, isView, -⟩ := (carries query).mp carried
      exact none ⟨view, predicate, type, isView⟩
  · intro name segment h nonempty plain
    have carries := classify_of_no_colon h nonempty plain
    obtain ⟨type, first⟩ := exists_first_part segment
    refine ⟨carries, ?_⟩
    rw [classify_eq_malformed_iff h nonempty, first, Option.some.injEq]
    constructor
    · intro none
      by_contra typed
      exact none _ ((carries _).mpr ⟨type, first, typed, rfl⟩)
    · rintro rfl query carried
      obtain ⟨type, first', typed, -⟩ := (carries query).mp carried
      rw [first, Option.some.injEq] at first'
      exact typed first'.symm

theorem classify_follows_names_samples :
    classify "crud>recent(a:(b)):Post>c" =
        .resource (.view "recent" "Post" (Json.read? "a:(b)")) ∧
      classify "crud>Post/42//c" = .resource (.model "Post" (some "42") none) ∧
      classify "crud>/42" = .malformed := by
  obtain ⟨-, -, -, -, views, models⟩ := classify_follows_names
  have viewed : Segment "crud>recent(a:(b)):Post>c" "recent(a:(b)):Post" :=
    ⟨by simp, ">c", by decide, .inr ⟨"c", by decide⟩⟩
  have narrowed : Segment "crud>Post/42//c" "Post/42//c" := ⟨by simp, "", by decide, .inl rfl⟩
  have untyped : Segment "crud>/42" "/42" := ⟨by simp, "", by decide, .inl rfl⟩
  refine ⟨?_, ?_, ?_⟩
  · refine ((views _ _ viewed (by simp)).1 _).mpr ⟨"recent", "a:(b)", "Post", ?_, rfl⟩
    exact ⟨by decide, by simp, by simp, by simp, by decide⟩
  · refine ((models _ _ narrowed (by decide) (by simp)).1 _).mpr ⟨"Post", ?_, ?_, ?_⟩
    · decide
    · decide
    · congr
  · exact ((models _ _ untyped (by decide) (by simp)).2).mpr (by decide)

end ChannelGuard.Channel
