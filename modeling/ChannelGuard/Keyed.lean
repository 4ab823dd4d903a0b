/-! Finite maps as lists of pairs in ascending order of key, each key at most once. -/
namespace ChannelGuard.Keyed

variable {κ α : Type} [DecidableEq κ] [LT κ] [DecidableLT κ]

def find? (key : κ) : List (κ × α) → Option α
  | [] => none
  | (k, value) :: rest => if key = k then some value else find? key rest

/-- Puts a value in its place; a value already there under that key gives way. -/
def insert (key : κ) (value : α) : List (κ × α) → List (κ × α)
  | [] => [(key, value)]
  | (k, old) :: rest =>
    if key = k then (key, value) :: rest
    else if key < k then (key, value) :: (k, old) :: rest
    else (k, old) :: insert key value rest

/-- The map of a row of pairs, later pairs winning over earlier ones. -/
def ofList (pairs : List (κ × α)) : List (κ × α) :=
  pairs.foldl (fun entries (key, value) => insert key value entries) []

/-- Each key stands before all greater ones, and only once. -/
def Ascending (entries : List (κ × α)) : Prop := entries.Pairwise fun a b => a.1 < b.1

omit [LT κ] [DecidableLT κ] in
@[simp] theorem find?_nil (key : κ) : find? key ([] : List (κ × α)) = none := rfl

omit [LT κ] [DecidableLT κ] in
theorem find?_cons_self (key : κ) (value : α) (rest : List (κ × α)) :
    find? key ((key, value) :: rest) = some value := if_pos rfl

omit [LT κ] [DecidableLT κ] in
theorem find?_cons_of_ne {key other : κ} (different : other ≠ key) (value : α)
    (rest : List (κ × α)) : find? other ((key, value) :: rest) = find? other rest :=
  if_neg different

omit [LT κ] [DecidableLT κ] in
theorem mem_of_find? {key : κ} {value : α} {entries : List (κ × α)}
    (found : find? key entries = some value) : (key, value) ∈ entries := by
  induction entries with
  | nil => cases found
  | cons entry rest ih =>
    by_cases here : key = entry.1
    · rw [find?, if_pos here] at found
      cases found
      exact here ▸ List.mem_cons_self
    · rw [find?, if_neg here] at found
      exact List.mem_cons_of_mem entry (ih found)

omit [LT κ] [DecidableLT κ] in
theorem find?_eq_none {key : κ} {entries : List (κ × α)} (missing : key ∉ entries.map (·.1)) :
    find? key entries = none := by
  cases found : find? key entries with
  | none => rfl
  | some value => exact (missing (List.mem_map.mpr ⟨_, mem_of_find? found, rfl⟩)).elim

@[simp] theorem find?_insert_self (key : κ) (value : α) (entries : List (κ × α)) :
    find? key (insert key value entries) = some value := by
  induction entries with
  | nil => simp [insert, find?]
  | cons entry rest ih =>
    simp only [insert]
    split
    · simp [find?]
    · next different =>
      split
      · simp [find?]
      · simp [find?, different, ih]

theorem find?_insert_of_ne {key other : κ} (different : other ≠ key) (value : α)
    (entries : List (κ × α)) : find? other (insert key value entries) = find? other entries := by
  induction entries with
  | nil => simp [insert, find?, different]
  | cons entry rest ih =>
    simp only [insert]
    split
    · next same => simp [find?, different, ← same]
    · split
      · simp [find?, different]
      · simp [find?, ih]

/-- Of several values under one key the last one stays. -/
theorem find?_ofList (key : κ) (pairs : List (κ × α)) :
    find? key (ofList pairs) =
      pairs.reverse.findSome? fun (k, value) => if key = k then some value else none := by
  have general (entries : List (κ × α)) :
      find? key (pairs.foldl (fun entries (k, value) => insert k value entries) entries) =
        (pairs.reverse.findSome? fun (k, value) => if key = k then some value else none).or
          (find? key entries) := by
    induction pairs generalizing entries with
    | nil => simp
    | cons pair rest ih =>
      rw [List.foldl_cons, ih, List.reverse_cons, List.findSome?_append, Option.or_assoc]
      by_cases same : key = pair.1
      · simp [same]
      · simp [same, find?_insert_of_ne same]
  simpa [ofList] using general []

theorem mem_keys_insert {key other : κ} {value : α} {entries : List (κ × α)} :
    other ∈ (insert key value entries).map (·.1) ↔ other = key ∨ other ∈ entries.map (·.1) := by
  induction entries with
  | nil => simp [insert]
  | cons entry rest ih =>
    simp only [insert]
    split
    · next same => simp [same]
    · split
      · simp
      · simp only [List.map_cons, List.mem_cons, ih, or_left_comm]

theorem mem_of_mem_insert {key : κ} {value : α} {entries : List (κ × α)} {entry : κ × α}
    (found : entry ∈ insert key value entries) : entry = (key, value) ∨ entry ∈ entries := by
  induction entries with
  | nil => exact .inl (List.mem_singleton.mp found)
  | cons first rest ih =>
    simp only [insert] at found
    split at found
    · exact (List.mem_cons.mp found).imp_right (List.mem_cons_of_mem _)
    · split at found
      · exact List.mem_cons.mp found
      · rcases List.mem_cons.mp found with rfl | later
        · exact .inr List.mem_cons_self
        · exact (ih later).imp_right (List.mem_cons_of_mem _)

theorem mem_of_mem_ofList {pairs : List (κ × α)} {entry : κ × α} (found : entry ∈ ofList pairs) :
    entry ∈ pairs := by
  have general (pairs entries : List (κ × α))
      (found : entry ∈ pairs.foldl (fun entries (k, value) => insert k value entries) entries) :
      entry ∈ pairs ∨ entry ∈ entries := by
    induction pairs generalizing entries with
    | nil => exact .inr found
    | cons pair rest ih =>
      rcases ih _ found with later | now
      · exact .inl (List.mem_cons_of_mem _ later)
      · rcases mem_of_mem_insert now with rfl | before
        · exact .inl List.mem_cons_self
        · exact .inr before
  simpa using general pairs [] found

theorem Ascending.insert [Trans (fun s t : κ => s < t) (fun s t => s < t) (fun s t => s < t)]
    [Std.Trichotomous fun s t : κ => s < t] {entries : List (κ × α)} (h : Ascending entries)
    (key : κ) (value : α) : Ascending (insert key value entries) := by
  induction entries with
  | nil => exact List.pairwise_singleton _ _
  | cons entry rest ih =>
    obtain ⟨later, rest_ascending⟩ := List.pairwise_cons.mp h
    simp only [Keyed.insert]
    split
    · next same => exact List.pairwise_cons.mpr ⟨same ▸ later, rest_ascending⟩
    · next different =>
      split
      · next before =>
        refine List.pairwise_cons.mpr ⟨?_, h⟩
        intro other found
        rcases List.mem_cons.mp found with rfl | found
        · exact before
        · exact Trans.trans before (later other found)
      · next before =>
        refine List.pairwise_cons.mpr ⟨?_, ih rest_ascending⟩
        intro other found
        rcases mem_keys_insert.mp (List.mem_map_of_mem found) with here | elsewhere
        · rw [here]
          exact (Std.Trichotomous.rel_or_eq_or_rel_swap.resolve_left before).resolve_left different
        · obtain ⟨same, found, key_eq⟩ := List.mem_map.mp elsewhere
          rw [← key_eq]
          exact later same found

omit [DecidableEq κ] [DecidableLT κ] in
theorem Ascending.map {β : Type} {entries : List (κ × α)} (h : Ascending entries) (f : α → β) :
    Ascending (entries.map fun (key, value) => (key, f value)) := List.pairwise_map.mpr h

end ChannelGuard.Keyed
