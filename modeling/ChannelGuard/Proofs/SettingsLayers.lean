import ChannelGuard.Proofs.SettingsTree
import ChannelGuard.Proofs.TomlTables
import ChannelGuard.Settings.Basic

/-!
# Layers of settings

A source is a row of keys with values: the defaults, the members of the file, the variables of the
environment. Laid over a tree, a source whose keys are plain acts on each setting on its own: it
lays the value that it gives the setting, if any, over the one that is there. So the value that
counts is the environment's, else the file's, else the default.
-/

namespace ChannelGuard.Settings

/-- The values that are asked for. -/
inductive Setting where
  | host
  | port
  | blockInbound
  | blockOutbound
  | timeout
  | policies
  deriving DecidableEq

namespace Setting

/-- The table that the setting is in. -/
def group : Setting → String
  | host | port => "server"
  | blockInbound | blockOutbound | timeout | policies => "access_control"

def key : Setting → String
  | host => "host"
  | port => "port"
  | blockInbound => "block_inbound_by_default"
  | blockOutbound => "block_outbound_by_default"
  | timeout => "evaluator_timeout_ms"
  | policies => "policies_dir"

/-- The key that leads to the setting from the root. -/
def path (s : Setting) : String := s.group ++ "." ++ s.key

/-- The name of the environment variable, in small letters. -/
def variableName (s : Setting) : String := "crudgate__" ++ s.group ++ "__" ++ s.key

def default? : Setting → Option Raw
  | host => some (.string "0.0.0.0")
  | port => some (.integer 8000)
  | blockInbound | blockOutbound => some (.bool false)
  | timeout | policies => none

theorem smallLetters_group (s : Setting) : smallLetters s.group = s.group := by cases s <;> rfl

theorem smallLetters_key (s : Setting) : smallLetters s.key = s.key := by cases s <;> rfl

theorem ofKey_group (s : Setting) : Path.ofKey s.group = .member s.group := by cases s <;> rfl

theorem ofKey_path (s : Setting) : Path.ofKey s.path = .child (.member s.group) s.key := by
  cases s <;> rfl

theorem key_injective {s s' : Setting} (same : s.key = s'.key) : s = s' := by
  cases s <;> cases s' <;> simp [key] at same ⊢

theorem path_injective {s s' : Setting} (same : s.path = s'.path) : s = s' := by
  have places := congrArg Path.ofKey same
  rw [ofKey_path, ofKey_path] at places
  exact key_injective (Path.child.inj places).2

theorem path_ne_group (s s' : Setting) : s.path ≠ s'.group := by
  intro same
  have places := congrArg Path.ofKey same
  rw [ofKey_path, ofKey_group] at places
  cases places

/-- The value that stands at the place of the setting. -/
def leaf? (s : Setting) (tree : Raw) : Option Raw := Raw.leaf? s.group s.key tree

/-- The value that a source gives a setting, in its table or under its whole path. -/
def given? (s : Setting) (entries : List (String × Raw)) : Option Raw :=
  (s.leaf? (.table entries)).or (Raw.member? s.path (.table entries))

end Setting

/-- What a layer leaves of the value below it. -/
def Raw.laid? (given below : Option Raw) : Option Raw :=
  match given with
  | some value => some (value.laidOver below)
  | none => below

/-- A key at the root of a source that leads to nothing, to all of a table, or to one setting. -/
def PlainKey (key : String) : Prop :=
  ∀ s : Setting, (Path.ofKey key).root = s.group → key = s.group ∨
    ∃ name, (Path.ofKey key).second? = some name ∧
      ∀ s' : Setting, s'.group = s.group → s'.key = name → key = s'.path

/-- What a source is like that sets the settings one by one: their tables are tables, with keys in
small letters, and a setting that is in its table has no entry of its own. -/
structure Plain (entries : List (String × Raw)) : Prop where
  keys : ∀ entry ∈ entries, PlainKey entry.1
  tables : ∀ s : Setting, ∀ value, (s.group, value) ∈ entries → value.IsTable
  small : ∀ s : Setting, ∀ value, (s.group, value) ∈ entries →
    ∀ member ∈ value.members, smallLetters member.1 = member.1
  once : ∀ s : Setting, ∀ value value', (s.group, value) ∈ entries → (s.path, value') ∈ entries →
    value.member? s.key = none

/-- No key stands twice in the source, nor in the table of a setting. -/
structure Unrepeated (entries : List (String × Raw)) : Prop where
  names : (entries.map Prod.fst).Nodup
  sections : ∀ s : Setting, ∀ value, (s.group, value) ∈ entries →
    (value.members.map Prod.fst).Nodup

variable {entries : List (String × Raw)} {entry : String × Raw}

theorem Plain.of_cons (plain : Plain (entry :: entries)) : Plain entries where
  keys other found := plain.keys other (List.mem_cons_of_mem _ found)
  tables s value found := plain.tables s value (List.mem_cons_of_mem _ found)
  small s value found := plain.small s value (List.mem_cons_of_mem _ found)
  once s value value' found found' := plain.once s value value' (List.mem_cons_of_mem _ found)
    (List.mem_cons_of_mem _ found')

theorem Unrepeated.of_cons (distinct : Unrepeated (entry :: entries)) : Unrepeated entries where
  names := (List.nodup_cons.mp distinct.names).2
  sections s value found := distinct.sections s value (List.mem_cons_of_mem _ found)

section

variable (s : Setting) (value : Raw) (rest : List (String × Raw))

theorem given?_cons_group : s.given? ((s.group, value) :: rest) =
    (value.member? s.key).or (Raw.member? s.path (.table rest)) := by
  simp only [Setting.given?, Setting.leaf?, Raw.leaf?, Raw.member?, Raw.members,
    Keyed.find?_cons_self, Keyed.find?_cons_of_ne (s.path_ne_group s), Option.bind_some]

theorem given?_cons_path : s.given? ((s.path, value) :: rest) =
    (s.leaf? (.table rest)).or (some value) := by
  simp only [Setting.given?, Setting.leaf?, Raw.leaf?, Raw.member?, Raw.members,
    Keyed.find?_cons_self, Keyed.find?_cons_of_ne (s.path_ne_group s).symm]

variable {s}

theorem given?_cons_of_ne {key : String} (notTable : key ≠ s.group) (notPath : key ≠ s.path) :
    s.given? ((key, value) :: rest) = s.given? rest := by
  simp only [Setting.given?, Setting.leaf?, Raw.leaf?, Raw.member?, Raw.members,
    Keyed.find?_cons_of_ne (Ne.symm notTable), Keyed.find?_cons_of_ne (Ne.symm notPath)]

end

/-- At most one of the entries gives a setting its value. -/
theorem given?_cons (plain : Plain (entry :: entries)) (distinct : Unrepeated (entry :: entries))
    (s : Setting) :
    s.given? [entry] = none ∧ s.given? (entry :: entries) = s.given? entries ∨
      s.given? entries = none ∧ s.given? (entry :: entries) = s.given? [entry] := by
  obtain ⟨key, value⟩ := entry
  have new : Keyed.find? key entries = none :=
    Keyed.find?_eq_none (List.nodup_cons.mp distinct.names).1
  by_cases inTable : key = s.group
  · subst inTable
    have others : s.given? entries = Raw.member? s.path (.table entries) := by
      rw [Setting.given?, Setting.leaf?, Raw.leaf?, Raw.member?, Raw.members, new,
        Option.bind_none, Option.none_or]
    rw [given?_cons_group, given?_cons_group, others]
    cases given : value.member? s.key with
    | none => exact .inl ⟨rfl, Option.none_or⟩
    | some v =>
      -- The table has the setting, so its path is no key of the source.
      refine .inr ⟨Keyed.find?_eq_none fun found => ?_, rfl⟩
      obtain ⟨⟨_, whole⟩, found, rfl⟩ := List.mem_map.mp found
      have missing := plain.once s value whole List.mem_cons_self (List.mem_cons_of_mem _ found)
      cases given.symm.trans missing
  · by_cases whole : key = s.path
    · subst whole
      have others : s.leaf? (.table entries) = none := by
        refine Option.bind_eq_none_iff.mpr fun table found => ?_
        exact plain.once s table value (List.mem_cons_of_mem _ (Keyed.mem_of_find? found))
          List.mem_cons_self
      rw [given?_cons_path, given?_cons_path, others]
      refine .inr ⟨?_, rfl⟩
      rw [Setting.given?, others, Option.none_or]
      exact new
    · exact .inl ⟨given?_cons_of_ne value [] inTable whole, given?_cons_of_ne value _ inTable whole⟩

/-- A plain key is that of a setting's table, or the path of the setting, or it leads elsewhere. -/
theorem PlainKey.table_or_path {key : String} (plain : PlainKey key) (s : Setting) :
    key = s.group ∨ key = s.path ∨ key ≠ s.group ∧ key ≠ s.path ∧
      ((Path.ofKey key).root = s.group →
        ∃ name, s.key ≠ name ∧ (Path.ofKey key).second? = some name) := by
  by_cases inTable : key = s.group
  · exact .inl inTable
  · by_cases whole : key = s.path
    · exact .inr (.inl whole)
    · refine .inr (.inr ⟨inTable, whole, fun inGroup => ?_⟩)
      rcases plain s inGroup with here | ⟨name, second, mine⟩
      · exact (inTable here).elim
      · exact ⟨name, fun same => whole (mine s rfl same), second⟩

/-- An entry of a source is laid over the setting that it is for, and all others stay. -/
theorem leaf?_set {key : String} {value : Raw} (plain : Plain ((key, value) :: entries))
    (distinct : Unrepeated ((key, value) :: entries)) (s : Setting) (tree : Raw) :
    s.leaf? ((Path.ofKey key).set value tree) =
      Raw.laid? (s.given? [(key, value)]) (s.leaf? tree) := by
  rcases (plain.keys _ List.mem_cons_self).table_or_path s with rfl | rfl | ⟨inTable, whole, inside⟩
  · cases value with
    | table incoming =>
      have names : (incoming.map Prod.fst).Nodup := distinct.sections s _ List.mem_cons_self
      have small : ∀ member ∈ incoming, smallLetters member.1 = member.1 :=
        plain.small s _ List.mem_cons_self
      rw [s.ofKey_group, Setting.leaf?, Path.leaf?_set_member s.smallLetters_group small names,
        given?_cons_group, Raw.member?, Raw.members]
      cases Keyed.find? s.key incoming <;> rfl
    | _ => exact (plain.tables s _ List.mem_cons_self).elim
  · rw [s.ofKey_path, Setting.leaf?, Path.leaf?_set_child s.smallLetters_group s.smallLetters_key,
      given?_cons_path]
    rfl
  · rw [given?_cons_of_ne value [] inTable whole, Setting.leaf?, Raw.leaf?]
    by_cases inGroup : (Path.ofKey key).root = s.group
    · obtain ⟨name, other, second⟩ := inside inGroup
      obtain ⟨after, there, -, kept⟩ := Path.touches_set second value tree
      rw [inGroup] at there kept
      rw [there, Option.bind_some, kept _ other]
      rfl
    · rw [Path.member?_set_of_ne (Ne.symm inGroup)]
      rfl

/-- The tree and what it has in the places of the settings' tables are tables. -/
structure Sectioned (tree : Raw) : Prop where
  root : tree.IsTable
  sections : ∀ s : Setting, ∀ value, tree.member? s.group = some value → value.IsTable

theorem Sectioned.set {key : String} {value tree : Raw} (sectioned : Sectioned tree)
    (plain : Plain ((key, value) :: entries)) :
    Sectioned ((Path.ofKey key).set value tree) where
  root := Path.set_isTable ..
  sections s after found := by
    by_cases inGroup : (Path.ofKey key).root = s.group
    · rcases plain.keys _ List.mem_cons_self s inGroup with rfl | ⟨name, second, -⟩
      · have table := plain.tables s value List.mem_cons_self
        rw [s.ofKey_group, Path.set, Raw.member?_setMember_self s.smallLetters_group] at found
        cases found
        cases value with
        | table incoming =>
          refine Raw.setMembers_isTable incoming ?_
          cases below : tree.member? s.group with
          | none => trivial
          | some before => exact sectioned.sections s before below
        | _ => exact table.elim
      · obtain ⟨inside, there, table, -⟩ := Path.touches_set second value tree
        rw [inGroup, found] at there
        cases there
        exact table
    · rw [Path.member?_set_of_ne (Ne.symm inGroup)] at found
      exact sectioned.sections s after found

theorem Sectioned.layer {tree : Raw} (sectioned : Sectioned tree) (plain : Plain entries) :
    Sectioned (tree.layer entries) := by
  induction entries generalizing tree with
  | nil => exact sectioned
  | cons entry rest ih => exact ih (sectioned.set plain) plain.of_cons

/-- A source is laid over each setting on its own. -/
theorem leaf?_layer (plain : Plain entries) (distinct : Unrepeated entries) (s : Setting)
    (tree : Raw) : s.leaf? (tree.layer entries) = Raw.laid? (s.given? entries) (s.leaf? tree) := by
  induction entries generalizing tree with
  | nil => rfl
  | cons entry rest ih =>
    change s.leaf? (Raw.layer _ rest) = _
    -- Either the first entry is for the setting or a later one, never both.
    rw [ih plain.of_cons distinct.of_cons, leaf?_set plain distinct]
    rcases given?_cons plain distinct s with ⟨here, all⟩ | ⟨later, all⟩
    · rw [here, all]
      rfl
    · rw [later, all]
      rfl

/-! Plain sources -/

/-- A key in small letters that spells no path is plain. -/
theorem plainKey_of_bare {key : String} (small : smallLetters key = key)
    (bare : Path.ofKey key = .member key) : PlainKey key := by
  intro s inGroup
  rw [bare] at inGroup
  exact .inl (small.symm.trans inGroup)

theorem plainKey_path (s : Setting) : PlainKey s.path := by
  intro s' inGroup
  rw [s.ofKey_path] at inGroup ⊢
  refine .inr ⟨s.key, congrArg some s.smallLetters_key, fun other _ same => ?_⟩
  rw [Setting.key_injective same]

/-- A source that only has paths of settings as its keys. -/
def ArePaths (entries : List (String × Raw)) : Prop :=
  ∀ entry ∈ entries, ∃ s : Setting, entry.1 = s.path

theorem ArePaths.not_mem (paths : ArePaths entries) (s : Setting) (value : Raw) :
    (s.group, value) ∉ entries := by
  intro found
  obtain ⟨s', same⟩ := paths _ found
  exact s'.path_ne_group s same.symm

theorem ArePaths.plain (paths : ArePaths entries) : Plain entries where
  keys entry found := by
    obtain ⟨s, same⟩ := paths entry found
    exact same ▸ plainKey_path s
  tables s value found := (paths.not_mem s value found).elim
  small s value found := (paths.not_mem s value found).elim
  once s value _ found := (paths.not_mem s value found).elim

theorem ArePaths.unrepeated (paths : ArePaths entries) (names : (entries.map Prod.fst).Nodup) :
    Unrepeated entries where
  names := names
  sections s value found := (paths.not_mem s value found).elim

theorem ArePaths.given?_eq (paths : ArePaths entries) (s : Setting) :
    s.given? entries = Keyed.find? s.path entries := by
  have noTable : s.leaf? (.table entries) = none :=
    Option.bind_eq_none_iff.mpr fun value found =>
      (paths.not_mem s value (Keyed.mem_of_find? found)).elim
  rw [Setting.given?, noTable, Option.none_or]
  rfl

/-- The defaults are a source of single settings. -/
theorem exists_defaults_eq : ∃ entries, defaults = (Raw.table []).layer entries ∧
    ArePaths entries ∧ (entries.map Prod.fst).Nodup ∧
    ∀ s : Setting, Raw.laid? (s.given? entries) none = s.default? := by
  refine ⟨_, rfl, ?_, by simp, fun s => by cases s <;> rfl⟩
  simp only [ArePaths, List.forall_mem_cons]
  exact ⟨⟨.host, rfl⟩, ⟨.port, rfl⟩, ⟨.blockInbound, rfl⟩, ⟨.blockOutbound, rfl⟩, nofun⟩

theorem sectioned_defaults : Sectioned defaults := by
  obtain ⟨entries, built, paths, -⟩ := exists_defaults_eq
  exact built ▸ Sectioned.layer ⟨trivial, nofun⟩ paths.plain

theorem leaf?_defaults (s : Setting) : s.leaf? defaults = s.default? := by
  obtain ⟨entries, built, paths, names, given⟩ := exists_defaults_eq
  rw [built, leaf?_layer paths.plain (paths.unrepeated names), ← given]
  rfl

/-! The environment -/

/-- The environment names no settings but these six, and each of them at most once. -/
structure OnlySettings (environment : List (String × String)) : Prop where
  known : ∀ entry ∈ environment, variableStart.isPrefixOf (smallLetters entry.1).toList →
    ∃ s : Setting, smallLetters entry.1 = s.variableName
  once : environment.Pairwise fun entry other => ∀ s : Setting,
    smallLetters entry.1 = s.variableName → smallLetters other.1 ≠ s.variableName

/-- The text that the environment gives a setting, whatever the letter case of its name. -/
def Setting.inEnvironment? (s : Setting) (environment : List (String × String)) : Option String :=
  (environment.find? fun entry => smallLetters entry.1 = s.variableName).map Prod.snd

variable {environment : List (String × String)}

theorem OnlySettings.of_cons {first : String × String}
    (only : OnlySettings (first :: environment)) : OnlySettings environment where
  known entry found := only.known entry (List.mem_cons_of_mem _ found)
  once := only.once.of_cons

theorem Setting.keyOfVariable?_eq {s : Setting} {name : String}
    (named : smallLetters name = s.variableName) : keyOfVariable? name = some s.path := by
  unfold keyOfVariable?
  rw [named]
  cases s <;> rfl

theorem Setting.variableName_injective {s s' : Setting} {name : String}
    (named : smallLetters name = s.variableName) (named' : smallLetters name = s'.variableName) :
    s = s' :=
  path_injective
    (Option.some.inj ((keyOfVariable?_eq named).symm.trans (keyOfVariable?_eq named')))

/-- A variable is for one of the settings, or it sets nothing. -/
theorem OnlySettings.ofEnvironment_cons {first : String × String}
    (only : OnlySettings (first :: environment)) :
    (∃ s : Setting, smallLetters first.1 = s.variableName ∧
      ofEnvironment (first :: environment) =
        (s.path, .string first.2) :: ofEnvironment environment) ∨
    (∀ s : Setting, smallLetters first.1 ≠ s.variableName) ∧
      ofEnvironment (first :: environment) = ofEnvironment environment := by
  obtain ⟨name, value⟩ := first
  cases read : keyOfVariable? name with
  | some key =>
    obtain ⟨start, -⟩ := Option.ite_none_right_eq_some.mp read
    obtain ⟨s, named⟩ := only.known _ List.mem_cons_self start
    cases read.symm.trans (s.keyOfVariable?_eq named)
    exact .inl ⟨s, named, List.filterMap_cons_some (by simp only [read, Option.map_some])⟩
  | none =>
    refine .inr ⟨fun s named => ?_, List.filterMap_cons_none (by simp only [read, Option.map_none])⟩
    cases read.symm.trans (s.keyOfVariable?_eq named)

theorem OnlySettings.exists_of_mem (only : OnlySettings environment)
    (found : entry ∈ ofEnvironment environment) :
    ∃ named ∈ environment, ∃ s : Setting, smallLetters named.1 = s.variableName ∧
      entry = (s.path, .string named.2) := by
  induction environment with
  | nil => cases found
  | cons first rest ih =>
    rcases only.ofEnvironment_cons with ⟨s, named, read⟩ | ⟨-, read⟩
    · rw [read] at found
      rcases List.mem_cons.mp found with rfl | found
      · exact ⟨first, List.mem_cons_self, s, named, rfl⟩
      · obtain ⟨other, found, rest⟩ := ih only.of_cons found
        exact ⟨other, List.mem_cons_of_mem _ found, rest⟩
    · obtain ⟨other, found, rest⟩ := ih only.of_cons (read ▸ found)
      exact ⟨other, List.mem_cons_of_mem _ found, rest⟩

theorem OnlySettings.paths (only : OnlySettings environment) :
    ArePaths (ofEnvironment environment) := by
  intro entry found
  obtain ⟨_, -, s, -, rfl⟩ := only.exists_of_mem found
  exact ⟨s, rfl⟩

theorem OnlySettings.names (only : OnlySettings environment) :
    ((ofEnvironment environment).map Prod.fst).Nodup := by
  induction environment with
  | nil => exact .nil
  | cons first rest ih =>
    rcases only.ofEnvironment_cons with ⟨s, named, read⟩ | ⟨-, read⟩
    · rw [read]
      refine List.nodup_cons.mpr ⟨fun twice => ?_, ih only.of_cons⟩
      obtain ⟨entry, found, same⟩ := List.mem_map.mp twice
      obtain ⟨other, later, s', named', rfl⟩ := only.of_cons.exists_of_mem found
      obtain rfl := Setting.path_injective same
      exact (List.pairwise_cons.mp only.once).1 other later s' named named'
    · exact read ▸ ih only.of_cons

theorem OnlySettings.given?_eq (only : OnlySettings environment) (s : Setting) :
    s.given? (ofEnvironment environment) = (s.inEnvironment? environment).map .string := by
  rw [only.paths.given?_eq]
  induction environment with
  | nil => rfl
  | cons first rest ih =>
    rw [Setting.inEnvironment?, List.find?_cons]
    rcases only.ofEnvironment_cons with ⟨s', named, read⟩ | ⟨unnamed, read⟩
    · by_cases same : s = s'
      · subst same
        rw [read, Keyed.find?_cons_self, decide_eq_true named]
        rfl
      · have unnamed : smallLetters first.1 ≠ s.variableName := fun named' =>
          same (Setting.variableName_injective named' named)
        rw [read, Keyed.find?_cons_of_ne fun same' => same (Setting.path_injective same'),
          decide_eq_false unnamed]
        exact ih only.of_cons
    · rw [read, decide_eq_false (unnamed s)]
      exact ih only.of_cons

/-! The file -/

/-- The members that a file sets, if there is one. -/
def fileMembers? : Option String → Option (List (String × Raw))
  | some text => ofFile? text
  | none => some []

theorem Raw.ofTomlMembers_eq_map (members : List (String × Toml.Value)) :
    ofTomlMembers members = members.map fun (key, value) => (key, ofToml value) := by
  induction members with
  | nil => rfl
  | cons member rest ih => rw [ofTomlMembers, ih, List.map_cons]

/-- The value is one of a TOML document, where no table holds a key twice. -/
def Raw.IsToml (value : Raw) : Prop := ∃ v : Toml.Value, v.Distinct ∧ value = .ofToml v

theorem Raw.IsToml.of_mem {value : Raw} (toml : value.IsToml) {member : String × Raw}
    (found : member ∈ value.members) : member.2.IsToml := by
  obtain ⟨v, distinct, rfl⟩ := toml
  cases v with
  | table members =>
    have listed : member ∈ ofTomlMembers members := found
    rw [ofTomlMembers_eq_map] at listed
    obtain ⟨⟨_, v⟩, inside, rfl⟩ := List.mem_map.mp listed
    exact ⟨v, distinct.of_table.2 _ inside, rfl⟩
  | _ => cases found

theorem Raw.IsToml.of_member? {value member : Raw} (toml : value.IsToml) {key : String}
    (found : value.member? key = some member) : member.IsToml :=
  toml.of_mem (Keyed.mem_of_find? found)

theorem Raw.IsToml.nodup {value : Raw} (toml : value.IsToml) :
    (value.members.map Prod.fst).Nodup := by
  obtain ⟨v, distinct, rfl⟩ := toml
  cases v with
  | table members =>
    change ((ofTomlMembers members).map Prod.fst).Nodup
    rw [ofTomlMembers_eq_map, List.map_map]
    exact distinct.of_table.1
  | _ => exact .nil

theorem isToml_of_fileMembers? {file : Option String} (read : fileMembers? file = some entries) :
    (Raw.table entries).IsToml := by
  cases file with
  | none =>
    cases read
    exact ⟨.table [], .table .nil nofun, rfl⟩
  | some text =>
    obtain ⟨members, parsed, rfl⟩ := Option.map_eq_some_iff.mp read
    exact ⟨.table members, Toml.parse?_distinct parsed, rfl⟩

theorem unrepeated_of_isToml (toml : (Raw.table entries).IsToml) : Unrepeated entries where
  names := toml.nodup
  sections _ _ found := (toml.of_mem found).nodup

theorem isToml_of_given? (toml : (Raw.table entries).IsToml) {s : Setting} {value : Raw}
    (given : s.given? entries = some value) : value.IsToml := by
  rcases Option.or_eq_some_iff.mp given with given | ⟨-, given⟩
  · obtain ⟨inner, there, given⟩ := Option.bind_eq_some_iff.mp given
    exact (toml.of_member? there).of_member? given
  · exact toml.of_member? given

/-! The sources together -/

/-- The value that counts: the environment's text, else what the file leaves of the default. -/
def Setting.effective? (s : Setting) (entries : List (String × Raw))
    (environment : List (String × String)) : Option Raw :=
  match s.inEnvironment? environment with
  | some text => some (.string text)
  | none => Raw.laid? (s.given? entries) s.default?

/-- Where a value that counts comes from. -/
theorem effective?_cases {s : Setting} {value : Raw}
    (counts : s.effective? entries environment = some value) :
    (∃ text, value = .string text) ∨
      (∃ given, s.given? entries = some given ∧ value = given.laidOver s.default?) ∨
      s.default? = some value := by
  unfold Setting.effective? at counts
  split at counts
  · next text _ => exact .inl ⟨text, (Option.some.inj counts).symm⟩
  · unfold Raw.laid? at counts
    split at counts
    · next given found => exact .inr (.inl ⟨given, found, (Option.some.inj counts).symm⟩)
    · exact .inr (.inr counts)

theorem isSome_effective? {s : Setting} (given : s.default?.isSome)
    (entries : List (String × Raw)) (environment : List (String × String)) :
    (s.effective? entries environment).isSome := by
  unfold Setting.effective?
  split
  · rfl
  · unfold Raw.laid?
    split
    · rfl
    · exact given

theorem Raw.laidOver_ne_absent {value : Raw} (toml : value.IsToml) {below : Option Raw}
    (filled : below ≠ some .absent) : value.laidOver below ≠ .absent := by
  obtain ⟨v, -, rfl⟩ := toml
  cases v with
  | table members =>
    refine setMembers_ne_absent _ fun absent => ?_
    cases below with
    | none => cases absent
    | some value => exact filled (congrArg some absent)
  | _ => exact nofun

theorem effective?_ne_absent (toml : (Raw.table entries).IsToml) (s : Setting) :
    s.effective? entries environment ≠ some .absent := by
  have filled : s.default? ≠ some .absent := by cases s <;> exact nofun
  intro absent
  rcases effective?_cases absent with ⟨text, ⟨⟩⟩ | ⟨given, found, same⟩ | same
  · exact Raw.laidOver_ne_absent (isToml_of_given? toml found) filled same.symm
  · exact filled same

theorem gather?_eq {file : Option String} (read : fileMembers? file = some entries)
    (environment : List (String × String)) : gather? file environment =
      some ((defaults.layer entries).layer (ofEnvironment environment)) := by
  cases file with
  | none =>
    cases read
    rfl
  | some text =>
    have read : ofFile? text = some entries := read
    rw [gather?, read]
    rfl

/-- In the tree of all sources each setting has the value that counts. -/
theorem leaf?_gathered (toml : (Raw.table entries).IsToml) (plain : Plain entries)
    (only : OnlySettings environment) (s : Setting) :
    s.leaf? ((defaults.layer entries).layer (ofEnvironment environment)) =
      s.effective? entries environment := by
  rw [leaf?_layer only.paths.plain (only.paths.unrepeated only.names), only.given?_eq,
    leaf?_layer plain (unrepeated_of_isToml toml), leaf?_defaults, Setting.effective?]
  cases s.inEnvironment? environment <;> rfl

end ChannelGuard.Settings
