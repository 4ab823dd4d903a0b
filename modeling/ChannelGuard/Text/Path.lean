/-! Paths of files. -/
namespace ChannelGuard.Text

/-- A path in a directory: a slash stands between them, unless the directory ends with one. -/
def joinPath (directory path : String) : String :=
  match directory.toList.getLast? with
  | none | some '/' => directory ++ path
  | some _ => directory ++ "/" ++ path

end ChannelGuard.Text
