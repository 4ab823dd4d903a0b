import ChannelGuard.Json.Basic

/-! What a connection does to a resource, and in which direction data flow. -/
namespace ChannelGuard

inductive Action where
  | create
  | read
  | update
  | delete
  | subscribe
  | publish
  deriving DecidableEq

/-- Inbound is from a client to the system, outbound from the system to a client. -/
inductive Direction where
  | inbound
  | outbound
  deriving DecidableEq

/-- The name of one of several alternatives on the wire: a string, or an object with that name as
its only key and null under it. -/
def alternativeName? : Json → Option String
  | .string name => some name
  | .object [(name, .null)] => some name
  | _ => none

namespace Action

def name : Action → String
  | create => "create"
  | read => "read"
  | update => "update"
  | delete => "delete"
  | subscribe => "subscribe"
  | publish => "publish"

def all : List Action := [create, read, update, delete, subscribe, publish]

def ofName? (name : String) : Option Action := all.find? (·.name == name)

def ofJson? (value : Json) : Option Action := (alternativeName? value).bind ofName?

/-- The action that a client event stands for; other events concern no resource. -/
def ofEvent? : String → Option Action
  | "create" => some create
  | "read" => some read
  | "update" => some update
  | "delete" => some delete
  | _ => none

end Action

namespace Direction

def name : Direction → String
  | inbound => "inbound"
  | outbound => "outbound"

def ofName? (name : String) : Option Direction := [inbound, outbound].find? (·.name == name)

def ofJson? (value : Json) : Option Direction := (alternativeName? value).bind ofName?

end Direction

end ChannelGuard
