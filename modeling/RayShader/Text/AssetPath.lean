import RayShader.Text.Split

/-!
# Paths of asset files

Paths are texts with `/` between their segments. A path that starts with `/` is
absolute. Empty segments and the segment `.` name nothing, except for a `.` that
stands first.
-/

namespace RayShader.AssetPath

/-- The path starts at the root. -/
def isAbsolute (path : String) : Bool := path.toList.head? = some '/'

/-- The path below a base directory; an absolute path stands for itself. -/
def join (base path : String) : String :=
  if isAbsolute path then path
  else if base.toList.getLast?.all (· = '/') then base ++ path
  else base ++ "/" ++ path

/-- The segment names nothing. -/
def isIdle (segment : List Char) : Bool := segment = [] || segment = ['.']

/-- The segments up to the last one that names something. -/
def dropIdleEnd (ss : List (List Char)) : List (List Char) := (ss.reverse.dropWhile isIdle).reverse

/-- Splits off what stands in front of the segments: the root, or a leading `.`. -/
def splitHead : List Char → List Char × List Char
  | '/' :: rest => (['/'], rest)
  | ['.'] => (['.'], [])
  | '.' :: '/' :: rest => (['.'], '/' :: rest)
  | path => ([], path)

/-- The directory that holds the path: the path without its last segment that names
something. The root and the empty path are in no directory, and a lone `.` is in the
empty path. -/
def parent? (path : String) : Option String :=
  let (head, body) := splitHead path.toList
  match dropIdleEnd (Text.splitAt '/' body) with
  | [] => if head = ['.'] then some "" else none
  | named => some (.ofList (head ++ Text.joinWith '/' (dropIdleEnd named.dropLast)))

end RayShader.AssetPath
