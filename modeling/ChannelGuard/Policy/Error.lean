import ChannelGuard.Access.Action
import ChannelGuard.Condition.Token
import ChannelGuard.Resource.TypeName

/-! What can be wrong with policies, and what their author is told about it. -/
namespace ChannelGuard

/-- A well-formed document that is no policy. -/
inductive PolicyFault where
  | unexpectedNode (name : String)
  | missingType
  | unexpectedChild (name type : String)
  | duplicateSlot (slot : Direction) (type : String)
  | missingCondition (slot : Direction) (type : String)
  | noDirectory (path : String)
  deriving DecidableEq

def PolicyFault.message : PolicyFault → String
  | unexpectedNode name => "unexpected top-level node `" ++ name ++ "` (expected `resource`)"
  | missingType => "resource node requires a string argument (e.g. resource \"Post\")"
  | unexpectedChild name type =>
    "unexpected child `" ++ name ++ "` in resource `" ++ type
      ++ "` (expected `inbound` or `outbound`)"
  | duplicateSlot slot type =>
    "resource `" ++ type ++ "` declares `" ++ slot.name ++ "` more than once"
  | missingCondition slot type =>
    "`" ++ slot.name ++ "` in resource `" ++ type ++ "` requires a condition string"
  | noDirectory path =>
    "policies directory `" ++ path ++ "` does not exist or is not a directory"

inductive PolicyError where
  /-- The file cannot be read as text. -/
  | unreadable (path : String)
  | invalid (fault : PolicyFault)
  | invalidType (error : InvalidTypeName)
  | invalidCondition (error : Condition.SyntaxError)
  /-- The text is no document at all. -/
  | malformed
  /-- The system does not let the files be listed. -/
  | system (cause : String)
  deriving DecidableEq

namespace PolicyError

def kind : PolicyError → String
  | unreadable _ => "PolicyLoadError"
  | invalid _ => "InvalidPolicy"
  | invalidType _ => "InvalidResourceType"
  | invalidCondition _ => "InvalidCondition"
  | malformed => "KdlParse"
  | system _ => "Io"

def message : PolicyError → String
  | unreadable path => "Failed to load policy file `" ++ path ++ "`"
  | invalid fault => "Invalid policy: " ++ fault.message
  | invalidType error => "Invalid resource type `" ++ error.given ++ "`"
  | invalidCondition error => "Invalid condition expression: " ++ error.message
  | malformed => "KDL parse error: Failed to parse KDL document"
  | system cause => "I/O error: " ++ cause

/-- The diagnostic code. -/
def code : PolicyError → String
  | unreadable _ => "crudgate::authz::policy_load"
  | invalid _ => "crudgate::authz::invalid_policy"
  | invalidType _ => "crudgate::authz::invalid_resource_type"
  | invalidCondition _ => "crudgate::authz::invalid_condition"
  | malformed => "crudgate::authz::kdl_parse"
  | system _ => "crudgate::authz::io"

/-- What to do about it; for failures of the system there is no advice. -/
def help : PolicyError → String
  | unreadable _ => "Check that the file exists and contains valid KDL syntax"
  | invalid _ =>
    "Each policy file may only contain `resource \"<Type>\" \x7b inbound \"...\" outbound \"...\" "
      ++ "\x7d` nodes"
  | invalidType _ =>
    "Resource types must be non-empty and may not contain whitespace or any of `/ : > ( )`"
  | invalidCondition _ =>
    "Supported operators: ==, !=, >, <, >=, <=, &&, ||, !, in. Paths use dot notation "
      ++ "(e.g. authToken.id)"
  | malformed => "Check your KDL file syntax, see https://kdl.dev for the syntax reference"
  | system _ => ""

end PolicyError

end ChannelGuard
