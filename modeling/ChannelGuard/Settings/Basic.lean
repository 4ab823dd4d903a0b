import ChannelGuard.Access.Control
import ChannelGuard.Settings.Conversion
import ChannelGuard.Text.Path
import ChannelGuard.Toml.Document

/-!
The settings of the service. Defaults are overridden by a TOML file, and that by environment
variables, each setting on its own.
-/
namespace ChannelGuard

structure ServerSettings where
  host : String
  port : Nat

structure AccessSettings where
  blockInbound : Bool
  blockOutbound : Bool
  /-- Milliseconds; without it evaluators may take any time. -/
  timeout : Option Nat
  /-- Where the policy files are; without it there are none. -/
  policies : Option String

structure Settings where
  server : ServerSettings
  access : AccessSettings

namespace Settings

/-- The ports of the Internet protocols end here. -/
def maxPort : Nat := 65535

/-- What holds where no source says anything. -/
def defaults : Raw :=
  Raw.layer (.table []) [
    ("server.host", .string "0.0.0.0"),
    ("server.port", .integer 8000),
    ("access_control.block_inbound_by_default", .bool false),
    ("access_control.block_outbound_by_default", .bool false)]

/-! Sources -/

/-- What the names of all environment variables for settings start with, in small letters. -/
def variableStart : List Char := "crudgate__".toList

/-- Two underscores separate the keys of a path. -/
def pointsForUnderscores : List Char → List Char
  | '_' :: '_' :: rest => '.' :: pointsForUnderscores rest
  | c :: rest => c :: pointsForUnderscores rest
  | [] => []

/-- The key that an environment variable sets, if it is one for settings. -/
def keyOfVariable? (name : String) : Option String :=
  let small := (smallLetters name).toList
  if variableStart.isPrefixOf small then
    some (String.ofList (pointsForUnderscores (small.drop variableStart.length)))
  else none

def ofEnvironment (environment : List (String × String)) : List (String × Raw) :=
  environment.filterMap fun (name, value) =>
    (keyOfVariable? name).map fun key => (key, .string value)

/-- The members that a file sets. A byte order mark at its start only tells its encoding. -/
def ofFile? (file : String) : Option (List (String × Raw)) :=
  let text := match file.toList with
    | '\ufeff' :: rest => String.ofList rest
    | _ => file
  (Toml.parse? text).map Raw.ofTomlMembers

/-- All sources in one tree; none when the file is no TOML. -/
def gather? (file : Option String) (environment : List (String × String)) : Option Raw := do
  let fromFile ← match file with
    | some text => ofFile? text
    | none => some []
  some ((defaults.layer fromFile).layer (ofEnvironment environment))

/-! Types -/

def serverOf? (value : Raw) : Option ServerSettings := do
  let host ← (← value.field? 0 "host").string?
  let port ← (← value.field? 1 "port").wholeUpTo? maxPort
  some ⟨host, port⟩

/-- A field that has a default of its own. -/
def fieldOr? {α : Type} (value : Raw) (position : Nat) (key : String) (default : α)
    (convert : Raw → Option α) : Option α :=
  match value.field? position key with
  | some field => convert field
  | none => some default

def accessOf? (value : Raw) : Option AccessSettings := do
  if !value.isRecord then none
  let blockInbound ← fieldOr? value 0 "block_inbound_by_default" false Raw.bool?
  let blockOutbound ← fieldOr? value 1 "block_outbound_by_default" false Raw.bool?
  let timeout ← fieldOr? value 2 "evaluator_timeout_ms" none (Raw.optional? Raw.whole?)
  let policies ← fieldOr? value 3 "policies_dir" none (Raw.optional? Raw.string?)
  some ⟨blockInbound, blockOutbound, timeout, policies⟩

/-- A path as seen from a directory; one that starts with a slash stays as it is. -/
def absolute (directory path : String) : String :=
  match path.toList with
  | '/' :: _ => path
  | _ => Text.joinPath directory path

def ofRaw? (value : Raw) : Option Settings := do
  let server ← (value.field? 0 "server").bind serverOf?
  let access ← (value.field? 1 "access_control").bind accessOf?
  some ⟨server, access⟩

/-- The settings from the text of a file, if there is one, and from the environment, for a program
that runs in `directory`. -/
def load? (directory : String) (file : Option String) (environment : List (String × String)) :
    Option Settings := do
  let settings ← (gather? file environment).bind ofRaw?
  let policies := settings.access.policies.map (absolute directory)
  some { settings with access := { settings.access with policies := policies } }

/-- The diagnostic code of settings that cannot be loaded. -/
def errorCode : String := "crudgate::config"

def bindAddress (settings : Settings) : String :=
  settings.server.host ++ ":" ++ intText settings.server.port

/-- What the settings mean for decisions. -/
def toDefaults (settings : Settings) : Defaults :=
  ⟨settings.access.blockInbound, settings.access.blockOutbound, settings.access.timeout⟩

/-- The settings as they are shown. -/
def toJson (settings : Settings) : Json :=
  .ofMembers [
    ("server", .ofMembers [
      ("host", .string settings.server.host),
      ("port", .ofInt settings.server.port)]),
    ("access_control", .ofMembers [
      ("block_inbound_by_default", .bool settings.access.blockInbound),
      ("block_outbound_by_default", .bool settings.access.blockOutbound),
      ("evaluator_timeout_ms", (settings.access.timeout.map fun ms => Json.ofInt ms).getD .null),
      ("policies_dir", (settings.access.policies.map Json.string).getD .null)])]

end Settings

end ChannelGuard
