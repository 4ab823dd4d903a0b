import ChannelGuard.Policy.Directory
import ChannelGuard.Proofs.DeclaredRules
import Mathlib.Data.List.Perm.Basic

/-!
# Loading policies from a directory

What is loaded depends on the policy files of a directory and on nothing else, least of all on the
order in which its entries are listed. The files are read in the order of the bytes of their names:
the first that cannot be read decides the error, and otherwise a slot comes from the last file that
declares it.
-/

namespace ChannelGuard

/-- The name has something before a final `.kdl`. -/
def IsPolicyName (name : String) : Prop := ∃ stem, stem ≠ "" ∧ name = stem ++ ".kdl"

theorem fileExtension?_eq_kdl_iff {name : String} :
    fileExtension? name = some "kdl" ↔ IsPolicyName name := by
  unfold fileExtension?
  constructor
  · intro h
    dsimp only at h
    split at h
    · next c rest point =>
      have letters : (name.toList.reverse.takeWhile (· != '.')).reverse = "kdl".toList :=
        String.ofList_injective (by simpa using h)
      have parts : name.toList.reverse.takeWhile (· != '.') ++ '.' :: c :: rest =
          name.toList.reverse := by
        rw [← point, List.takeWhile_append_dropWhile]
      refine ⟨String.ofList (c :: rest).reverse, by simp, ?_⟩
      rw [← String.toList_inj, ← List.reverse_reverse name.toList, ← parts]
      simp [letters]
    · cases h
  · rintro ⟨stem, full, rfl⟩
    obtain ⟨c, rest, spelled⟩ : ∃ c rest, stem.toList.reverse = c :: rest := by
      refine List.exists_cons_of_ne_nil ?_
      simpa using full
    have fromEnd : (stem ++ ".kdl").toList.reverse = 'l' :: 'd' :: 'k' :: '.' :: c :: rest := by
      simp [← spelled]
    rw [fromEnd]
    rfl

theorem DirectoryEntry.isPolicyFile_iff {entry : DirectoryEntry} :
    entry.isPolicyFile = true ↔ IsPolicyName entry.name := by
  rw [isPolicyFile, beq_iff_eq, fileExtension?_eq_kdl_iff]

/-! The policy files of a directory -/

/-- The entries of a directory that count, in the order of the bytes of their names. -/
structure PolicyFiles (entries files : List DirectoryEntry) : Prop where
  mem_iff : ∀ entry, entry ∈ files ↔ entry ∈ entries ∧ IsPolicyName entry.name
  ascending : files.Pairwise fun a b => Text.bytes a.name < Text.bytes b.name

namespace PolicyFiles

variable {entries other files files' : List DirectoryEntry}

theorem nodup (h : PolicyFiles entries files) : files.Nodup := by
  refine h.ascending.imp ?_
  rintro a b less rfl
  exact List.lt_irrefl _ less

/-- A directory has its policy files in one order only. -/
theorem unique (h : PolicyFiles entries files) (h' : PolicyFiles other files')
    (same : ∀ entry, IsPolicyName entry.name → (entry ∈ other ↔ entry ∈ entries)) :
    files = files' := by
  have members (entry : DirectoryEntry) : entry ∈ files ↔ entry ∈ files' := by
    rw [h.mem_iff, h'.mem_iff]
    exact and_congr_left fun counts => (same entry counts).symm
  have perm : files.Perm files' := (List.perm_ext_iff_of_nodup h.nodup h'.nodup).mpr members
  refine perm.eq_of_pairwise ?_ h.ascending h'.ascending
  intro a b _ _ less greater
  exact absurd greater (List.lt_asymm less)

/-- Sorting finds them, where no two entries have the same name. -/
theorem mergeSort (distinct : (entries.map (·.name)).Nodup) :
    PolicyFiles entries
      ((entries.filter (·.isPolicyFile)).mergeSort fun a b => a.name ≤ b.name) where
  mem_iff entry := by
    rw [List.mem_mergeSort, List.mem_filter, DirectoryEntry.isPolicyFile_iff]
  ascending := by
    have sorted := @List.pairwise_mergeSort DirectoryEntry (fun a b => decide (a.name ≤ b.name))
      (by simpa using fun a b c => String.le_trans) (by simpa using fun a b => String.le_total _ _)
      (entries.filter (·.isPolicyFile))
    have kept : ((entries.filter (·.isPolicyFile)).map (·.name)).Nodup :=
      (List.filter_sublist.map _).nodup distinct
    have apart (row : List DirectoryEntry) (perm : row.Perm (entries.filter (·.isPolicyFile))) :
        row.Pairwise fun a b => a.name ≠ b.name :=
      List.pairwise_map.mp ((perm.map DirectoryEntry.name).nodup_iff.mpr kept)
    refine (sorted.and (apart _ (List.mergeSort_perm _ _))).imp ?_
    rintro a b ⟨upTo, different⟩
    refine Text.bytes_lt_bytes (String.not_le.mp fun downTo => different ?_)
    exact String.le_antisymm (of_decide_eq_true upTo) downTo

end PolicyFiles

/-! What the files hold -/

namespace DirectoryEntry

variable {path : String} {file : DirectoryEntry}

theorem policies_of_text {text : String} (given : file.content.text? = some text) :
    file.policies path = ResourcePolicy.ofDocument text := by
  rw [policies, given]

theorem policies_of_no_text (missing : file.content.text? = none) :
    file.policies path = .error (.unreadable (Text.joinPath path file.name)) := by
  rw [policies, missing]

/-- The file has a condition for the type and the direction. -/
def Declares (path type : String) (direction : Direction) (file : DirectoryEntry) : Prop :=
  ∃ part, file.policies path = .ok part ∧ ∃ policy ∈ part, policy.Declares type direction

/-- The condition that a file alone has for a type and a direction. -/
def condition? (path type : String) (direction : Direction) (file : DirectoryEntry) :
    Option Condition :=
  (file.policies path).toOption.bind fun part => (Registry.ofPolicies part).lookup type direction

theorem condition?_of_policies {part : List ResourcePolicy} {type : String} {direction : Direction}
    (read : file.policies path = .ok part) :
    file.condition? path type direction = (Registry.ofPolicies part).lookup type direction := by
  rw [condition?, read]
  rfl

theorem condition?_eq_some_iff {type : String} {direction : Direction} {condition : Condition} :
    file.condition? path type direction = some condition ↔
      ∃ part, file.policies path = .ok part ∧
        (Registry.ofPolicies part).lookup type direction = some condition := by
  cases read : file.policies path with
  | error e => simp [condition?, read, Except.toOption]
  | ok part => simp [condition?_of_policies read]

theorem isSome_condition?_iff {type : String} {direction : Direction} :
    (file.condition? path type direction).isSome ↔ file.Declares path type direction := by
  unfold Declares
  cases read : file.policies path with
  | error e => simp [condition?, read, Except.toOption]
  | ok part =>
    have empty := @Registry.lookup_ofPolicies_eq_none_iff part type direction
    rw [condition?_of_policies read, Option.isSome_iff_ne_none, ne_eq, empty]
    simp

end DirectoryEntry

/-- What is declared later counts. -/
theorem Registry.lookup_ofPolicies_append (earlier later : List ResourcePolicy) (type : String)
    (direction : Direction) :
    (ofPolicies (earlier ++ later)).lookup type direction =
      ((ofPolicies later).lookup type direction).or
        ((ofPolicies earlier).lookup type direction) := by
  simp only [lookup_ofPolicies, List.reverse_append, List.findSome?_append]

theorem lookup_flatten_eq_findSome? {path : String} {files : List DirectoryEntry}
    {parts : List (List ResourcePolicy)}
    (read : List.Forall₂ (fun file part => file.policies path = .ok part) files parts)
    (type : String) (direction : Direction) :
    (Registry.ofPolicies parts.flatten).lookup type direction =
      files.reverse.findSome? (DirectoryEntry.condition? path type direction) := by
  induction read with
  | nil => exact Registry.lookup_empty type direction
  | cons first others ih =>
    rw [List.flatten_cons, Registry.lookup_ofPolicies_append, ih, List.reverse_cons,
      List.findSome?_append, ← DirectoryEntry.condition?_of_policies first]
    simp

/-! The directory as a whole -/

namespace PolicySource

variable {path : String} {entries files : List DirectoryEntry}

theorem load_eq_of_policyFiles (distinct : (entries.map (·.name)).Nodup)
    (h : PolicyFiles entries files) :
    load path (.entries entries) =
      (files.mapM (DirectoryEntry.policies path)).map (Registry.ofPolicies ·.flatten) := by
  rw [h.unique (.mergeSort distinct) fun _ _ => Iff.rfl]
  unfold load policies
  dsimp only
  cases List.mapM (DirectoryEntry.policies path) _ <;> rfl

/-- The first file that cannot be read decides the error. -/
theorem load_eq_error_iff (distinct : (entries.map (·.name)).Nodup) (h : PolicyFiles entries files)
    {e : PolicyError} :
    load path (.entries entries) = .error e ↔
      ∃ before bad after, files = before ++ bad :: after ∧
        (∀ file ∈ before, ∃ part, file.policies path = .ok part) ∧
        bad.policies path = .error e := by
  rw [load_eq_of_policyFiles distinct h, Attempts.map_eq_error_iff, Attempts.mapM_eq_error_iff]

theorem load_eq_ok_iff (distinct : (entries.map (·.name)).Nodup) (h : PolicyFiles entries files)
    {registry : Registry Condition} :
    load path (.entries entries) = .ok registry ↔
      ∃ parts, List.Forall₂ (fun file part => file.policies path = .ok part) files parts ∧
        Registry.ofPolicies parts.flatten = registry := by
  rw [load_eq_of_policyFiles distinct h, Attempts.map_eq_ok_iff]
  simp only [Attempts.mapM_eq_ok_iff]

theorem load_congr {other : List DirectoryEntry} (distinct : (entries.map (·.name)).Nodup)
    (distinct' : (other.map (·.name)).Nodup)
    (same : ∀ entry, IsPolicyName entry.name → (entry ∈ other ↔ entry ∈ entries)) :
    load path (.entries other) = load path (.entries entries) := by
  have files := PolicyFiles.mergeSort distinct
  have files' := PolicyFiles.mergeSort distinct'
  rw [load_eq_of_policyFiles distinct files, load_eq_of_policyFiles distinct' files',
    files.unique files' same]

/-- Loading goes by the names of the files, not by the order in which they are listed. -/
theorem load_follows_names (path : String) {entries : List DirectoryEntry}
    (distinct : (entries.map (·.name)).Nodup) :
    (∀ other, other.Perm entries →
      load path (.entries other) = load path (.entries entries)) ∧
    (∀ other, (other.map (·.name)).Nodup →
      (∀ entry, IsPolicyName entry.name → (entry ∈ other ↔ entry ∈ entries)) →
      load path (.entries other) = load path (.entries entries)) ∧
    ∃ files, PolicyFiles entries files ∧
      (∀ e, load path (.entries entries) = .error e ↔
        ∃ before bad after, files = before ++ bad :: after ∧
          (∀ file ∈ before, ∃ part, file.policies path = .ok part) ∧
          bad.policies path = .error e) ∧
      (∀ registry, load path (.entries entries) = .ok registry ↔
        ∃ parts, List.Forall₂ (fun file part => file.policies path = .ok part) files parts ∧
          Registry.compile parts.flatten = .ok registry) ∧
      (∀ registry, load path (.entries entries) = .ok registry →
        ∀ type direction condition, registry.lookup type direction = some condition ↔
          ∃ file, IsLast (DirectoryEntry.Declares path type direction) files file ∧
            ∃ part, file.policies path = .ok part ∧
              (Registry.ofPolicies part).lookup type direction = some condition) ∧
      (∀ file ∈ files,
        (∀ text, file.content.text? = some text →
          file.policies path = ResourcePolicy.ofDocument text) ∧
        (file.content.text? = none →
          file.policies path = .error (.unreadable (Text.joinPath path file.name)) ∧
          (PolicyError.unreadable (Text.joinPath path file.name)).kind = "PolicyLoadError")) := by
  have listed := PolicyFiles.mergeSort distinct
  refine ⟨?_, ?_, _, listed, ?_, ?_, ?_, ?_⟩
  · intro other perm
    have distinct' := (perm.map DirectoryEntry.name).nodup_iff.mpr distinct
    exact load_congr distinct distinct' fun entry _ => perm.mem_iff
  · intro other distinct' same
    exact load_congr distinct distinct' same
  · intro e
    exact load_eq_error_iff distinct listed
  · intro registry
    simp only [load_eq_ok_iff distinct listed, Registry.compile_eq_ok, Except.ok.injEq]
  · intro registry loaded type direction condition
    obtain ⟨parts, read, rfl⟩ := (load_eq_ok_iff distinct listed).mp loaded
    rw [lookup_flatten_eq_findSome? read, findSome?_reverse_eq_some_iff]
    simp only [DirectoryEntry.isSome_condition?_iff, DirectoryEntry.condition?_eq_some_iff]
  · intro file _
    refine ⟨fun text given => ?_, fun missing => ⟨?_, rfl⟩⟩
    · exact DirectoryEntry.policies_of_text given
    · exact DirectoryEntry.policies_of_no_text missing

/-- Of three files the second is a directory and the third is unreadable; a bare `.kdl` does not
count. -/
def mixedEntries : List DirectoryEntry :=
  [⟨"c.kdl", .unreadable⟩, ⟨"b.kdl", .directory⟩, ⟨".kdl", .unreadable⟩, ⟨"a.kdl", .bytes .empty⟩]

theorem policyFiles_mixedEntries : PolicyFiles mixedEntries
    [⟨"a.kdl", .bytes .empty⟩, ⟨"b.kdl", .directory⟩, ⟨"c.kdl", .unreadable⟩] := by
  have bare : ¬IsPolicyName ".kdl" := by
    rw [← fileExtension?_eq_kdl_iff]
    decide
  have byName : List.Pairwise (fun a b : DirectoryEntry => a.name < b.name)
      [⟨"a.kdl", .bytes .empty⟩, ⟨"b.kdl", .directory⟩, ⟨"c.kdl", .unreadable⟩] := by decide
  refine ⟨fun entry => ?_, byName.imp Text.bytes_lt_bytes⟩
  simp only [mixedEntries, List.mem_cons, List.not_mem_nil, or_false]
  constructor
  · rintro (rfl | rfl | rfl)
    · exact ⟨by simp, "a", by decide, by decide⟩
    · exact ⟨by simp, "b", by decide, by decide⟩
    · exact ⟨by simp, "c", by decide, by decide⟩
  · rintro ⟨rfl | rfl | rfl | rfl, counts⟩
    · simp
    · simp
    · exact absurd counts bare
    · simp

theorem load_follows_names_second :
    load "policies" (.entries mixedEntries) = .error (.unreadable "policies/b.kdl") := by
  obtain ⟨-, -, files, found, failed, -, -, contents⟩ :=
    @load_follows_names "policies" mixedEntries (by decide)
  have listed := found.unique policyFiles_mixedEntries fun _ _ => Iff.rfl
  subst listed
  have blank : (ResourcePolicy.ofDocument "").isOk = true := by decide +kernel
  have first : ∃ part, DirectoryEntry.policies "policies" ⟨"a.kdl", .bytes .empty⟩ = .ok part := by
    rw [(contents _ (by simp)).1 "" rfl]
    cases read : ResourcePolicy.ofDocument "" with
    | ok part => exact ⟨part, rfl⟩
    | error e =>
      rw [read] at blank
      cases blank
  have second := ((contents ⟨"b.kdl", .directory⟩ (by simp)).2 rfl).1
  exact (failed _).mpr ⟨[_], _, [_], rfl, by simpa using first, second⟩

end PolicySource

end ChannelGuard
