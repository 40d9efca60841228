/-!
# Paths

A path is a text in which slashes part the names. Doubled slashes count as one, and a slash at the
end asks for a folder. The parent of a path is taken from its text alone, so it does not look at any
file; `.` and `..` keep their meaning for the walk.
-/

namespace PipeShell.Path

def isAbsolute (path : String) : Bool := path.startsWith "/"

def endsInSlash (path : String) : Bool := path.endsWith "/"

def bare (path : String) : String :=
  let kept := (path.toList.reverse.dropWhile (· == '/')).reverse
  if kept.isEmpty then path else String.ofList kept

def names (path : String) : List String :=
  (path.splitToList (· == '/')).filter (· ≠ "")

/-- The steps of a walk along a path. A slash at the end is one more step, an empty one, which stays
where it is but asks for a folder. -/
def steps (path : String) : List String :=
  names path ++ if endsInSlash path then [""] else []

def join (folder path : String) : String :=
  if isAbsolute path then path
  else if folder = "" || endsInSlash folder then folder ++ path
  else folder ++ "/" ++ path

def isIdle (piece : String) : Bool := piece == "" || piece == "."

def trimEnd (pieces : List String) : List String :=
  (pieces.reverse.dropWhile isIdle).reverse

def parent? (path : String) : Option String :=
  let root := if isAbsolute path then "/" else if path = "." || path.startsWith "./" then "." else ""
  let pieces := trimEnd ((path.toList.drop root.length |> String.ofList).splitOn "/")
  if pieces.isEmpty then if root = "." then some "" else none
  else some (root ++ "/".intercalate (trimEnd pieces.dropLast))

end PipeShell.Path
