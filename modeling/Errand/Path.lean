/-! # Paths

A path is a text of components between slashes. `Path.normalize` drops what names nothing: empty
components, `.` and trailing slashes; a component `..` stays, because what it leads to depends on
links. Exactly two leading slashes are a root of their own, any other number of them is one. -/

namespace Errand.Path

/-- The components of a path, empty ones included. -/
def components (path : String) : List String :=
  path.splitOn "/"

/-- The root of a path: none, one slash or two. -/
def root (path : String) : String :=
  match (path.toList.takeWhile (· == '/')).length with
  | 0 => ""
  | 2 => "//"
  | _ => "/"

/-- The shortest path of the same components. -/
def normalize (path : String) : String :=
  let whole := root path ++
    "/".intercalate ((components path).filter fun c => c != "" && c != ".")
  if whole.isEmpty then "." else whole

/-- What follows the last slash. -/
def base (path : String) : String :=
  .ofList (path.toList.reverse.takeWhile (· != '/')).reverse

/-- Whether a path has a directory part. -/
def hasDirectory (path : String) : Bool :=
  path.toList.contains '/'

/-- A name in a directory; a name from the root stands by itself. -/
def append (directory name : String) : String :=
  if name.startsWith "/" then name
  else if directory.isEmpty || directory.endsWith "/" then directory ++ name
  else directory ++ "/" ++ name

end Errand.Path
