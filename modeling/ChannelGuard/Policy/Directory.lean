import ChannelGuard.Policy.Basic
import ChannelGuard.Text.Path

/-!
Directories of policy files. Only entries whose extension is exactly `kdl` count, in ascending order
of name, and what a later file declares replaces what an earlier one declared.
-/
namespace ChannelGuard

/-- What stands under a name in a directory. -/
inductive FileContent where
  | bytes (content : ByteArray)
  | directory
  /-- A file that may not or cannot be read. -/
  | unreadable

structure DirectoryEntry where
  name : String
  content : FileContent

/-- What stands at the path where policies are looked for. -/
inductive PolicySource where
  | entries (entries : List DirectoryEntry)
  /-- A directory that cannot be listed, with what the system says about it. -/
  | unlisted (cause : String)
  /-- Nothing, or something that is no directory. -/
  | noDirectory

/-- The text after the last point of a name, if something stands before that point. -/
def fileExtension? (name : String) : Option String :=
  let fromEnd := name.toList.reverse
  match fromEnd.dropWhile (· != '.') with
  | '.' :: _ :: _ => some (String.ofList (fromEnd.takeWhile (· != '.')).reverse)
  | _ => none

def DirectoryEntry.isPolicyFile (e : DirectoryEntry) : Bool := fileExtension? e.name == some "kdl"

/-- The content as text; only valid UTF-8 is one. -/
def FileContent.text? : FileContent → Option String
  | bytes content => String.fromUTF8? content
  | directory | unreadable => none

/-- The policies of one file of the directory at `path`. -/
def DirectoryEntry.policies (path : String) (e : DirectoryEntry) :
    Except PolicyError (List ResourcePolicy) :=
  match e.content.text? with
  | none => .error (.unreadable (Text.joinPath path e.name))
  | some text => ResourcePolicy.ofDocument text

/-- The policies of all files of the directory at `path`, or the error of the first bad one. -/
def PolicySource.policies (path : String) : PolicySource →
    Except PolicyError (List ResourcePolicy)
  | noDirectory => .error (.invalid (.noDirectory path))
  | unlisted cause => .error (.system cause)
  | entries all =>
    let files := (all.filter (·.isPolicyFile)).mergeSort fun a b => a.name ≤ b.name
    (files.mapM (DirectoryEntry.policies path)).map List.flatten

def PolicySource.load (path : String) (source : PolicySource) :
    Except PolicyError (Registry Condition) :=
  (source.policies path).map Registry.ofPolicies

end ChannelGuard
