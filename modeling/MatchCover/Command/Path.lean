/-!
# Paths

Paths of files, their segments set apart by slashes.
-/

namespace MatchCover.Path

/-- The path without slashes and segments `.` at its end, given from its end on; the root stays. -/
def trimEnd : List Char → List Char
  | ['/'] => ['/']
  | '/' :: s => trimEnd s
  | '.' :: '/' :: s => if s.isEmpty then ['/'] else trimEnd s
  | s => s

/-- The directory of a file: the empty path if the path is just a name. -/
def parent (path : String) : String :=
  let reversed := (trimEnd path.toList.reverse).dropWhile (· != '/')
  String.ofList (trimEnd reversed).reverse

/-- A path relative to a directory; an absolute path stands for itself. -/
def join (directory path : String) : String :=
  if path.startsWith "/" ∨ directory.isEmpty then path
  else if directory.endsWith "/" then directory ++ path
  else directory ++ "/" ++ path

def segments (path : String) : List String := (path.splitOn "/")

end MatchCover.Path
