/-!
# Paths

A path is a text whose parts are separated by slashes; one that begins with a slash is absolute.
-/

namespace Scenarist.Path

/-- A path below a directory; an absolute path stands for itself. -/
def join (dir path : String) : String :=
  if path.toList.head? = some '/' || dir.isEmpty then path
  else if dir.toList.getLast? = some '/' then dir ++ path
  else dir ++ "/" ++ path

/-- The directory a path is in; nothing if the path has one part only. -/
def parent (path : String) : String :=
  let isSlash (c : Char) : Bool := c == '/'
  let above := (path.toList.reverse.dropWhile isSlash).dropWhile (!isSlash ·)
  String.ofList (above.dropWhile isSlash).reverse

end Scenarist.Path
