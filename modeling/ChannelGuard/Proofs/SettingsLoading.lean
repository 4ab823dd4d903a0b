import ChannelGuard.Proofs.SettingsLayers

/-!
# Loading settings

The settings are loaded if the values that count convert to the types of their fields, and then each
field is what its value converts to. So each setting is settled on its own, from the layers.
-/

namespace ChannelGuard.Settings

open Number (Float64)

namespace Setting

/-- What a setting is loaded as. -/
def Field : Setting → Type
  | host | policies => String
  | port | timeout => Nat
  | blockInbound | blockOutbound => Bool

/-- The conversion of a value to the type of a setting. A path that does not start at the root is
joined to the directory. -/
def convert? (directory : String) : (s : Setting) → Raw → Option s.Field
  | host, value => value.string?
  | port, value => value.wholeUpTo? maxPort
  | blockInbound, value => value.bool?
  | blockOutbound, value => value.bool?
  | timeout, value => value.whole?
  | policies, value => value.string?.map fun path =>
      if path.toList.head? = some '/' then path else Text.joinPath directory path

/-- The field of loaded settings, if the setting has a value. -/
def loaded (settings : Settings) : (s : Setting) → Option s.Field
  | host => some settings.server.host
  | port => some settings.server.port
  | blockInbound => some settings.access.blockInbound
  | blockOutbound => some settings.access.blockOutbound
  | timeout => settings.access.timeout
  | policies => settings.access.policies

end Setting

theorem absolute_eq (directory path : String) : absolute directory path =
    if path.toList.head? = some '/' then path else Text.joinPath directory path := by
  unfold absolute
  split
  · next start => simp [start]
  · next other =>
    refine (if_neg fun start => ?_).symm
    obtain ⟨rest, start⟩ := List.head?_eq_some_iff.mp start
    exact other rest start

theorem Raw.field?_of_isTable {value : Raw} (table : value.IsTable) (position : Nat)
    (key : String) : value.field? position key = value.member? key := by
  cases value with
  | table members => rfl
  | _ => exact table.elim

section

variable {α β : Type} {o : Option α} {f : α → Option β} {b : β}

theorem fieldOr?_of_isSome {value : Raw} (table : value.IsTable) {key : String}
    (present : (value.member? key).isSome) (position : Nat) (default : α)
    (convert : Raw → Option α) :
    fieldOr? value position key default convert = (value.member? key).bind convert := by
  obtain ⟨field, found⟩ := Option.isSome_iff_exists.mp present
  rw [fieldOr?, Raw.field?_of_isTable table, found]
  rfl

theorem fieldOr?_optional {value : Raw} (table : value.IsTable) {key : String}
    (present : value.member? key ≠ some .absent) (position : Nat) (convert : Raw → Option α) :
    fieldOr? value position key none (Raw.optional? convert) =
      (value.member? key).mapM convert := by
  rw [fieldOr?, Raw.field?_of_isTable table]
  cases found : value.member? key with
  | none => rfl
  | some field =>
    cases field with
    | absent => exact (present found).elim
    | _ => rfl

theorem mapM_eq_some_some_iff : o.mapM f = some (some b) ↔ o.bind f = some b := by
  cases o <;> simp

theorem exists_mapM_eq_some (total : ∀ a, o = some a → ∃ b, f a = some b) :
    ∃ b?, o.mapM f = some b? := by
  cases o with
  | none => exact ⟨none, rfl⟩
  | some a =>
    obtain ⟨b, converted⟩ := total a rfl
    exact ⟨some b, by rw [Option.mapM_some, converted]; rfl⟩

theorem exists_mapM_eq_some_some (present : o.isSome)
    (total : ∀ a, o = some a → ∃ b, f a = some b) : ∃ b, o.mapM f = some (some b) := by
  obtain ⟨a, there⟩ := Option.isSome_iff_exists.mp present
  obtain ⟨b, converted⟩ := total a there
  exact ⟨b, mapM_eq_some_some_iff.mpr (there ▸ converted)⟩

end

theorem serverOf?_eq_some_iff {value : Raw} (table : value.IsTable) {server : ServerSettings} :
    serverOf? value = some server ↔
      (value.member? "host").bind Raw.string? = some server.host ∧
      (value.member? "port").bind (Raw.wholeUpTo? maxPort) = some server.port := by
  have reads : serverOf? value = ((value.member? "host").bind Raw.string?).bind fun host =>
      ((value.member? "port").bind (Raw.wholeUpTo? maxPort)).map fun port => ⟨host, port⟩ := by
    simp only [serverOf?, Raw.field?_of_isTable table, Option.bind_eq_bind, Option.bind_assoc,
      Option.map_eq_bind]
    rfl
  obtain ⟨host, port⟩ := server
  rw [reads]
  cases (value.member? "host").bind Raw.string? <;>
    cases (value.member? "port").bind (Raw.wholeUpTo? maxPort) <;> simp

theorem accessOf?_eq_some_iff {value : Raw} (table : value.IsTable) {access : AccessSettings}
    (inbound : (value.member? "block_inbound_by_default").isSome)
    (outbound : (value.member? "block_outbound_by_default").isSome)
    (timeout : value.member? "evaluator_timeout_ms" ≠ some .absent)
    (policies : value.member? "policies_dir" ≠ some .absent) :
    accessOf? value = some access ↔
      (value.member? "block_inbound_by_default").bind Raw.bool? = some access.blockInbound ∧
      (value.member? "block_outbound_by_default").bind Raw.bool? = some access.blockOutbound ∧
      (value.member? "evaluator_timeout_ms").mapM Raw.whole? = some access.timeout ∧
      (value.member? "policies_dir").mapM Raw.string? = some access.policies := by
  have record : value.isRecord = true := by
    cases value with
    | table members => rfl
    | _ => exact table.elim
  obtain ⟨blockInbound, blockOutbound, ms, directory⟩ := access
  simp only [accessOf?, record, fieldOr?_of_isSome table inbound,
    fieldOr?_of_isSome table outbound, fieldOr?_optional table timeout,
    fieldOr?_optional table policies]
  cases (value.member? "block_inbound_by_default").bind Raw.bool? <;>
    cases (value.member? "block_outbound_by_default").bind Raw.bool? <;>
    cases (value.member? "evaluator_timeout_ms").mapM Raw.whole? <;>
    cases (value.member? "policies_dir").mapM Raw.string? <;> simp

theorem ofRaw?_eq_some_iff {tree : Raw} (sectioned : Sectioned tree)
    (present : ∀ s : Setting, s.default?.isSome → (s.leaf? tree).isSome)
    (filled : ∀ s : Setting, s.leaf? tree ≠ some .absent) (settings : Settings) :
    ofRaw? tree = some settings ↔
      (Setting.host.leaf? tree).bind Raw.string? = some settings.server.host ∧
      (Setting.port.leaf? tree).bind (Raw.wholeUpTo? maxPort) = some settings.server.port ∧
      (Setting.blockInbound.leaf? tree).bind Raw.bool? = some settings.access.blockInbound ∧
      (Setting.blockOutbound.leaf? tree).bind Raw.bool? = some settings.access.blockOutbound ∧
      (Setting.timeout.leaf? tree).mapM Raw.whole? = some settings.access.timeout ∧
      (Setting.policies.leaf? tree).mapM Raw.string? = some settings.access.policies := by
  have table (s : Setting) (given : s.default?.isSome) :
      ∃ inside, tree.member? s.group = some inside ∧ inside.IsTable := by
    obtain ⟨value, found⟩ := Option.isSome_iff_exists.mp (present s given)
    obtain ⟨inside, there, -⟩ := Option.bind_eq_some_iff.mp found
    exact ⟨inside, there, sectioned.sections s inside there⟩
  obtain ⟨server, hasServer, serverTable⟩ := table .host rfl
  obtain ⟨access, hasAccess, accessTable⟩ := table .blockInbound rfl
  have inServer (s : Setting) (h : s.group = "server") : s.leaf? tree = server.member? s.key := by
    rw [Setting.leaf?, Raw.leaf?, h]
    exact congrArg (Option.bind · _) hasServer
  have inAccess (s : Setting) (h : s.group = "access_control") :
      s.leaf? tree = access.member? s.key := by
    rw [Setting.leaf?, Raw.leaf?, h]
    exact congrArg (Option.bind · _) hasAccess
  have split : ofRaw? tree = some settings ↔
      serverOf? server = some settings.server ∧ accessOf? access = some settings.access := by
    obtain ⟨server', access'⟩ := settings
    have server_eq : tree.field? 0 "server" = some server :=
      (Raw.field?_of_isTable sectioned.root ..).trans hasServer
    have access_eq : tree.field? 1 "access_control" = some access :=
      (Raw.field?_of_isTable sectioned.root ..).trans hasAccess
    simp only [ofRaw?, server_eq, access_eq, Option.bind_some]
    cases serverOf? server <;> cases accessOf? access <;> simp
  rw [split, serverOf?_eq_some_iff serverTable,
    accessOf?_eq_some_iff accessTable (inAccess .blockInbound rfl ▸ present .blockInbound rfl)
      (inAccess .blockOutbound rfl ▸ present .blockOutbound rfl)
      (inAccess .timeout rfl ▸ filled .timeout) (inAccess .policies rfl ▸ filled .policies),
    inServer .host rfl, inServer .port rfl, inAccess .blockInbound rfl,
    inAccess .blockOutbound rfl, inAccess .timeout rfl, inAccess .policies rfl, and_assoc]
  rfl

variable {entries : List (String × Raw)} {environment : List (String × String)}

theorem mapM_convert?_policies (directory : String) (o : Option Raw) :
    o.mapM (Setting.policies.convert? directory) =
      (o.mapM Raw.string?).map (Option.map (absolute directory)) := by
  have joined : absolute directory = fun path =>
      if path.toList.head? = some '/' then path else Text.joinPath directory path :=
    funext (absolute_eq directory)
  rw [joined]
  cases o with
  | none => rfl
  | some value =>
    simp only [Option.mapM_some, Setting.convert?]
    cases value.string? <;> rfl

/-- Settings are loaded field by field from the values that count. -/
theorem load?_eq_some_iff {directory : String} {file : Option String}
    (read : fileMembers? file = some entries) (plain : Plain entries)
    (only : OnlySettings environment) {settings : Settings} :
    load? directory file environment = some settings ↔ ∀ s : Setting,
      (s.effective? entries environment).mapM (s.convert? directory) =
        some (s.loaded settings) := by
  have toml := isToml_of_fileMembers? read
  have leaves := leaf?_gathered toml plain only
  have sectioned := (sectioned_defaults.layer plain).layer only.paths.plain
  have fields := ofRaw?_eq_some_iff sectioned
    (fun s given => (leaves s) ▸ isSome_effective? given entries environment)
    (fun s => (leaves s) ▸ effective?_ne_absent toml s)
  simp only [leaves] at fields
  have settled : load? directory file environment = some settings ↔
      ∃ raw, ofRaw? ((defaults.layer entries).layer (ofEnvironment environment)) = some raw ∧
        { raw with access := { raw.access with
          policies := raw.access.policies.map (absolute directory) } } = settings := by
    simp only [load?, gather?_eq read, Option.bind_some, Option.bind_eq_bind,
      Option.bind_eq_some_iff, Option.some.injEq]
  rw [settled]
  constructor
  · rintro ⟨raw, loaded, rfl⟩ s
    obtain ⟨host, port, blockInbound, blockOutbound, timeout, policies⟩ := (fields raw).mp loaded
    cases s with
    | host => exact mapM_eq_some_some_iff.mpr host
    | port => exact mapM_eq_some_some_iff.mpr port
    | blockInbound => exact mapM_eq_some_some_iff.mpr blockInbound
    | blockOutbound => exact mapM_eq_some_some_iff.mpr blockOutbound
    | timeout => exact timeout
    | policies =>
      rw [mapM_convert?_policies, policies]
      rfl
  · intro converted
    have policies := converted .policies
    rw [mapM_convert?_policies] at policies
    obtain ⟨path?, policies, joined⟩ := Option.map_eq_some_iff.mp policies
    refine ⟨{ settings with access := { settings.access with policies := path? } },
      (fields _).mpr ⟨?_, ?_, ?_, ?_, converted .timeout, policies⟩, ?_⟩
    · exact mapM_eq_some_some_iff.mp (converted .host)
    · exact mapM_eq_some_some_iff.mp (converted .port)
    · exact mapM_eq_some_some_iff.mp (converted .blockInbound)
    · exact mapM_eq_some_some_iff.mp (converted .blockOutbound)
    · change path?.map (absolute directory) = settings.access.policies at joined
      simp only [joined]

theorem exists_load?_iff {directory : String} {file : Option String}
    (read : fileMembers? file = some entries) (plain : Plain entries)
    (only : OnlySettings environment) :
    (∃ settings, load? directory file environment = some settings) ↔
      ∀ (s : Setting) value, s.effective? entries environment = some value →
        ∃ field, s.convert? directory value = some field := by
  constructor
  · rintro ⟨settings, loaded⟩ s value counts
    have converted := (load?_eq_some_iff read plain only).mp loaded s
    rw [counts, Option.mapM_some] at converted
    obtain ⟨field, converted, -⟩ := Option.map_eq_some_iff.mp converted
    exact ⟨field, converted⟩
  · intro total
    have one (s : Setting) (given : s.default?.isSome) :=
      exists_mapM_eq_some_some (isSome_effective? given entries environment) (total s)
    obtain ⟨host, hostRead⟩ := one .host rfl
    obtain ⟨port, portRead⟩ := one .port rfl
    obtain ⟨blockInbound, inboundRead⟩ := one .blockInbound rfl
    obtain ⟨blockOutbound, outboundRead⟩ := one .blockOutbound rfl
    obtain ⟨timeout, timeoutRead⟩ := exists_mapM_eq_some (total .timeout)
    obtain ⟨policies, policiesRead⟩ := exists_mapM_eq_some (total .policies)
    refine ⟨⟨⟨host, port⟩, ⟨blockInbound, blockOutbound, timeout, policies⟩⟩,
      (load?_eq_some_iff read plain only).mpr fun s => ?_⟩
    cases s with
    | host => exact hostRead
    | port => exact portRead
    | blockInbound => exact inboundRead
    | blockOutbound => exact outboundRead
    | timeout => exact timeoutRead
    | policies => exact policiesRead

/-! Bounds -/

theorem Raw.wholeOfText?_le {text : List Char} {n : Nat} (read : wholeOfText? text = some n) :
    n ≤ maxWhole := by
  obtain ⟨within, ⟨⟩⟩ := Option.ite_none_right_eq_some.mp read
  exact of_decide_eq_true (Bool.and_eq_true_iff.mp within).2

theorem Raw.whole?_le {value : Raw} (words : ∀ i, value = .integer i → i < 0x8000000000000000)
    {n : Nat} (read : value.whole? = some n) : n ≤ maxWhole := by
  cases value with
  | integer i =>
    obtain ⟨-, ⟨⟩⟩ := Option.ite_none_right_eq_some.mp read
    have below := words i rfl
    unfold maxWhole
    omega
  | string s =>
    simp only [whole?] at read
    split at read
    on_goal 7 => exact wholeOfText?_le read
    all_goals
      cases read
      decide
  | bool b =>
    cases read
    cases b <;> decide
  | float x =>
    cases read
    cases x with
    | finite x =>
      simp only [Float64.toNatWithin]
      split
      · exact Nat.zero_le _
      · exact Nat.min_le_left ..
    | infinite negative => cases negative <;> decide
    | notANumber => decide
  | absent | array items | table members => cases read

theorem Raw.wholeUpTo?_le {top n : Nat} {value : Raw} (read : value.wholeUpTo? top = some n) :
    n ≤ top := by
  simpa using (Option.filter_eq_some_iff.mp read).2

theorem effective?_timeout_lt (toml : (Raw.table entries).IsToml) {i : Int}
    (counts : Setting.timeout.effective? entries environment = some (.integer i)) :
    i < 0x8000000000000000 := by
  rcases effective?_cases counts with ⟨text, ⟨⟩⟩ | ⟨given, found, same⟩ | ⟨⟨⟩⟩
  obtain ⟨v, distinct, rfl⟩ := isToml_of_given? toml found
  cases v with
  | integer j =>
    cases same
    cases distinct with
    | single within => exact within.2
  | table members =>
    have table : (Raw.laidOver none (.ofToml (.table members))).IsTable :=
      Raw.setMembers_isTable _ trivial
    change Raw.integer i = Raw.laidOver none (.ofToml (.table members)) at same
    rw [← same] at table
    exact table.elim
  | _ => cases same

/-- The six settings are settled one by one. Each has the value of the environment, if it names the
setting in any letter case, else that of the file, else the default; a table in the file is merged
into the default, so that an empty one leaves it. Settings are loaded exactly if all of these values
convert, and as what they convert to, a relative path joined to the directory. Ports have 16 bits
and times 64. What a file says of settings that the environment names makes no difference. -/
theorem settings_settled_one_by_one (directory : String) {file : Option String}
    {entries : List (String × Raw)} {environment : List (String × String)}
    (read : fileMembers? file = some entries) (plain : Plain entries)
    (only : OnlySettings environment) :
    (∃ tree, gather? file environment = some tree ∧
      ∀ s : Setting, s.leaf? tree = s.effective? entries environment) ∧
    (∀ settings, load? directory file environment = some settings ↔ ∀ s : Setting,
      (s.effective? entries environment).mapM (s.convert? directory) =
        some (s.loaded settings)) ∧
    ((∃ settings, load? directory file environment = some settings) ↔
      ∀ (s : Setting) value, s.effective? entries environment = some value →
        ∃ field, s.convert? directory value = some field) ∧
    (∀ settings, load? directory file environment = some settings →
      settings.server.port ≤ 65535 ∧
        ∀ ms ∈ settings.access.timeout, ms ≤ 0xffffffffffffffff) ∧
    (∀ file' entries', fileMembers? file' = some entries' → Plain entries' →
      (∀ s : Setting, s.inEnvironment? environment = none → s.given? entries' = s.given? entries) →
      load? directory file' environment = load? directory file environment) := by
  have toml := isToml_of_fileMembers? read
  refine ⟨⟨_, gather?_eq read environment, leaf?_gathered toml plain only⟩,
    fun settings => load?_eq_some_iff read plain only, exists_load?_iff read plain only,
    fun settings loaded => ?_, fun file' entries' read' plain' alike => ?_⟩
  · have converted := (load?_eq_some_iff read plain only).mp loaded
    refine ⟨?_, fun ms within => ?_⟩
    · obtain ⟨value, -, port⟩ :=
        Option.bind_eq_some_iff.mp (mapM_eq_some_some_iff.mp (converted .port))
      exact Raw.wholeUpTo?_le port
    · have timeout := converted .timeout
      rw [Setting.loaded, within] at timeout
      obtain ⟨value, counts, timeout⟩ :=
        Option.bind_eq_some_iff.mp (mapM_eq_some_some_iff.mp timeout)
      refine Raw.whole?_le (fun i integer => ?_) timeout
      exact effective?_timeout_lt toml (integer ▸ counts)
  · have same (s : Setting) :
        s.effective? entries' environment = s.effective? entries environment := by
      unfold Setting.effective?
      cases named : s.inEnvironment? environment with
      | some text => rfl
      | none => rw [alike s named]
    refine Option.ext fun settings => ?_
    rw [load?_eq_some_iff read' plain' only, load?_eq_some_iff read plain only]
    simp only [same]

/-! A file with an empty table for the host, and with a path as the key of the port -/

def mixedSource : String := "\"server.port\" = 9\n[server.host]\n"

def mixedEntries : List (String × Raw) :=
  [("server.port", .integer 9), ("server", .table [("host", .table [])])]

def isMixed : Option (List (String × Raw)) → Bool
  | some [("server.port", .integer 9), ("server", .table [("host", .table [])])] => true
  | _ => false

theorem eq_of_isMixed {entries : Option (List (String × Raw))} (h : isMixed entries = true) :
    entries = some mixedEntries := by
  unfold isMixed at h
  split at h
  · rfl
  · cases h

theorem fileMembers?_mixedSource : fileMembers? (some mixedSource) = some mixedEntries :=
  eq_of_isMixed (by decide +kernel)

theorem plain_mixedEntries : Plain mixedEntries := by
  have table {s : Setting} {value : Raw} (found : (s.group, value) ∈ mixedEntries) :
      value = .table [("host", .table [])] := by
    rcases List.mem_cons.mp found with here | found
    · exact (Setting.port.path_ne_group s (Prod.mk.inj here).1.symm).elim
    · exact (Prod.mk.inj (List.mem_singleton.mp found)).2
  refine ⟨List.forall_mem_cons.mpr ⟨plainKey_path .port, List.forall_mem_singleton.mpr
    (plainKey_of_bare rfl rfl)⟩, fun s value found => ?_, fun s value found => ?_,
    fun s value value' found found' => ?_⟩
  · exact table found ▸ trivial
  · exact table found ▸ List.forall_mem_singleton.mpr rfl
  · rcases List.mem_cons.mp found' with here | found'
    · obtain rfl : s = .port := Setting.path_injective (Prod.mk.inj here).1
      exact table found ▸ rfl
    · exact (s.path_ne_group .port (Prod.mk.inj (List.mem_singleton.mp found')).1).elim

/-- With the port from the environment, and a relative path. -/
theorem settings_settled_one_by_one_mixed :
    fileMembers? (some mixedSource) = some mixedEntries ∧ Plain mixedEntries ∧
    OnlySettings [("CrudGate__Server__PORT", "9090"),
      ("crudgate__ACCESS_CONTROL__policies_dir", "rules")] ∧
    load? "/srv" (some mixedSource) [("CrudGate__Server__PORT", "9090"),
        ("crudgate__ACCESS_CONTROL__policies_dir", "rules")] =
      some ⟨⟨"0.0.0.0", 9090⟩, ⟨false, false, none, some "/srv/rules"⟩⟩ := by
  have only : OnlySettings [("CrudGate__Server__PORT", "9090"),
      ("crudgate__ACCESS_CONTROL__policies_dir", "rules")] := by
    have port : smallLetters "CrudGate__Server__PORT" = Setting.port.variableName := rfl
    have policies : smallLetters "crudgate__ACCESS_CONTROL__policies_dir" =
      Setting.policies.variableName := rfl
    refine ⟨?_, List.pairwise_pair.mpr fun s named named' => ?_⟩
    · exact List.forall_mem_cons.mpr ⟨fun _ => ⟨.port, port⟩,
        List.forall_mem_singleton.mpr fun _ => ⟨.policies, policies⟩⟩
    · cases (Setting.variableName_injective named port).symm.trans
        (Setting.variableName_injective named' policies)
  obtain ⟨-, loads, -⟩ :=
    settings_settled_one_by_one "/srv" fileMembers?_mixedSource plain_mixedEntries only
  refine ⟨fileMembers?_mixedSource, plain_mixedEntries, only, (loads _).mpr fun s => ?_⟩
  cases s <;> rfl

/-- An empty table in the place of a setting does not convert, but leaves the default; and a key of
the file that spells the path of a setting sets it, although the setting is in no table. -/
theorem empty_table_leaves_default :
    fileMembers? (some mixedSource) = some mixedEntries ∧
    Setting.host.leaf? (.table mixedEntries) = some (.table []) ∧
    Setting.host.convert? "/" (.table []) = none ∧
    Setting.port.leaf? (.table mixedEntries) = none ∧
    load? "/" (some mixedSource) [] =
      some ⟨⟨"0.0.0.0", 9⟩, ⟨false, false, none, none⟩⟩ := by
  have nothing : OnlySettings [] := ⟨nofun, .nil⟩
  refine ⟨fileMembers?_mixedSource, rfl, rfl, rfl, ?_⟩
  refine (load?_eq_some_iff fileMembers?_mixedSource plain_mixedEntries nothing).mpr fun s => ?_
  cases s <;> rfl

end ChannelGuard.Settings
