import ChannelGuard.Api.Router
import ChannelGuard.Policy.Directory
import ChannelGuard.Settings.Basic

/-!
The decision service as a program. It loads its settings and policies, and then reads one HTTP
request as JSON from each line of its input and writes the answer on a line of its output.
-/
namespace ChannelGuard

/-- The file that `--config` or `-c` names. -/
def configPath : List String → String
  | "--config" :: path :: _ | "-c" :: path :: _ => path
  | _ :: rest => configPath rest
  | [] => "config.toml"

/-! Requests and answers as lines -/

def Api.HttpRequest.ofJson (value : Json) : HttpRequest where
  method := ((present? value "method").bind Json.string?).getD "POST"
  target := textOf value "path"
  contentType := (present? value "contentType").bind Json.string?
  body := textOf value "body"

def Api.HttpResponse.toJson (response : HttpResponse) : Json :=
  .ofMembers (("status", .ofInt response.status) :: match response.content with
    | .nothing => []
    | .json value => [("body", value)]
    | .text s => [("text", .string s)])

/-- The line that answers a line; one that is no JSON is a bad request. -/
def answerLine (control : AccessControl Condition) (line : String) : String :=
  let response := match Json.read? line with
    | some value => (Api.respond control (.ofJson value)).1
    | none => some (.bare 400)
  (response.map (·.toJson.render)).getD ""

/-! The world outside -/

/-- Variables as the operating system shows them, each closed by a null character. -/
def parseEnvironment (text : String) : List (String × String) :=
  (text.splitOn "\x00").filterMap fun entry =>
    match entry.splitOn "=" with
    | name :: first :: rest => some (name, String.intercalate "=" (first :: rest))
    | _ => none

def readEnvironment : IO (List (String × String)) := do
  let bytes ← try IO.FS.readBinFile "/proc/self/environ" catch _ => pure .empty
  return parseEnvironment ((String.fromUTF8? bytes).getD "")

def readConfig (path : String) : IO (Option String) := do
  try
    return some (← IO.FS.readFile path)
  catch _ => return none

def readFile (entry : IO.FS.DirEntry) : IO FileContent := do
  try
    return .bytes (← IO.FS.readBinFile entry.path)
  catch _ => return .unreadable

def readPolicies (path : String) : IO PolicySource := do
  let directory := (← IO.currentDir) / path
  if !(← directory.isDir) then return .noDirectory
  try
    let entries ← directory.readDir
    return .entries (← entries.toList.mapM fun entry =>
      return ⟨entry.fileName, ← readFile entry⟩)
  catch e => return .unlisted (toString e)

/-- The registry that settings ask for, empty if they name no place for policies. -/
def loadRegistry (settings : Settings) : IO (Except PolicyError (Registry Condition)) := do
  match settings.access.policies with
  | some path => return (← readPolicies path).load path
  | none => return .ok .empty

/-- Answers line after line until the input ends. -/
partial def serve (control : AccessControl Condition) (input output : IO.FS.Stream) : IO Unit := do
  let line ← input.getLine
  if line.isEmpty then return
  output.putStrLn (answerLine control line)
  output.flush
  serve control input output

end ChannelGuard

open ChannelGuard in
def main (arguments : List String) : IO UInt32 := do
  let file ← readConfig (configPath arguments)
  let directory := (← IO.currentDir).toString
  match Settings.load? directory file (← readEnvironment) with
  | none =>
    IO.eprintln ("Error: " ++ Settings.errorCode)
    return 1
  | some settings =>
    match ← loadRegistry settings with
    | .error e =>
      IO.eprintln ("Error: " ++ e.code ++ "\n" ++ e.message ++ "\n" ++ e.help)
      return 1
    | .ok registry =>
      serve ⟨registry, settings.toDefaults, none⟩ (← IO.getStdin) (← IO.getStdout)
      return 0
