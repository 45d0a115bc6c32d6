import MonitorFleet.Text.Split

/-!
# Paths

A path is a text; `/` separates its names. `join` puts one `/` between two paths unless the
left one is empty or already ends in one, and an absolute right part replaces the left one.
`names` lists what stands between the slashes, empty names included; `ancestors` lists a path
and the paths above it, nearest first.
-/

namespace MonitorFleet.Path

/-- Whether the path starts at the root. -/
def isAbsolute (path : String) : Bool := path.toList.head? == some '/'

/-- Whether the path ends in a slash. -/
def endsInSlash (path : String) : Bool := path.toList.getLast? == some '/'

/-- The path `part` as seen from `base`. -/
def join (base part : String) : String :=
  if isAbsolute part then part
  else if base = "" || endsInSlash base then base ++ part
  else base ++ "/" ++ part

/-- What stands between the slashes. -/
def names (path : String) : List String :=
  (Text.splitOn '/' path.toList).map String.ofList

/-- The names that matter for the parent of a path: empty names and `.` are left out, but a
relative path keeps a leading `.`. -/
def components (path : String) : List String :=
  let all := names path
  let kept := all.filter fun n => n ≠ "" && n ≠ "."
  if !isAbsolute path && all.head? == some "." then "." :: kept else kept

/-- The path made of components. -/
def ofComponents (absolute : Bool) (parts : List String) : String :=
  (if absolute then "/" else "") ++ "/".intercalate parts

/-- The paths above a path with these components, given last to first; a relative one ends in
the empty path and an absolute one in the root. -/
def parents (absolute : Bool) : List String → List String
  | [] => []
  | _ :: above => ofComponents absolute above.reverse :: parents absolute above

/-- The path and those above it, nearest first. -/
def ancestors (path : String) : List String :=
  path :: parents (isAbsolute path) (components path).reverse

end MonitorFleet.Path
