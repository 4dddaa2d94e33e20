import BridgeCode.Text.Split

/-!
Paths as text: normal forms, joining, resolving, and taking apart.

Everything here is about the text alone. Dots are removed without a look at the disk, so `a/..` is
the current folder even where `a` is a link; what a path leads to is the business of the file
system.
-/

namespace BridgeCode.Path

/-- The parts of a path between slashes. -/
def segments (path : String) : List String :=
  (Text.splitOn '/' path.toList).map String.ofList

/-- Whether a path starts at the root. -/
def isAbsolute (path : String) : Bool := path.toList.head? == some '/'

/-- Whether a path ends with a slash. -/
def endsInSlash (path : String) : Bool := path.toList.getLast? == some '/'

/-- One more segment below the segments passed, which stand innermost first. A step up takes the
innermost one away; at the root there is none to take, and in front of a relative path it stays. -/
def descend (absolute : Bool) (passed : List String) (segment : String) : List String :=
  if segment = "" ∨ segment = "." then passed
  else if segment = ".." then
    match passed with
    | [] => if absolute then [] else [".."]
    | top :: outer => if top = ".." then ".." :: passed else outer
  else segment :: passed

/-- The segments that are left after dots are removed. -/
def reduce (absolute : Bool) (parts : List String) : List String :=
  (parts.foldl (descend absolute) []).reverse

/-- The absolute path with the given segments. -/
def render (parts : List String) : String := "/" ++ "/".intercalate parts

/-- A path without dots and doubled slashes. A slash at its end stays. -/
def normalize (path : String) : String :=
  let absolute := isAbsolute path
  let text := "/".intercalate (reduce absolute (segments path))
  let text := if text.isEmpty && !absolute then "." else text
  let text := if endsInSlash path && !(absolute && text.isEmpty) then text ++ "/" else text
  if absolute then "/" ++ text else text

/-- The normal form of the parts that are not empty, one below the other. -/
def join (parts : List String) : String :=
  match parts.filter (!·.isEmpty) with
  | [] => "."
  | parts => normalize ("/".intercalate parts)

/-- The segments of the absolute path that `parts` lead to, one after the other, from the folder
`cwd`. An absolute part starts again at the root. -/
def resolveSegments (cwd : String) (parts : List String) : List String :=
  let walked := parts.foldl (fun acc part =>
    if isAbsolute part then segments part else acc ++ segments part) (segments cwd)
  reduce true walked

/-- The absolute path that `parts` lead to from the folder `cwd`. -/
def resolve (cwd : String) (parts : List String) : String :=
  render (resolveSegments cwd parts)

/-- The last segment of a path, slashes at the end aside. -/
def basename (path : String) : String :=
  let reversed := path.toList.reverse.dropWhile (· == '/')
  String.ofList (reversed.takeWhile (· != '/')).reverse

/-- A path without its last segment. Of the slashes in front of that segment one is taken away. -/
def dirname (path : String) : String :=
  let rooted := isAbsolute path
  let reversed := path.toList.reverse.dropWhile (· == '/')
  match reversed.dropWhile (· != '/') with
  | _ :: d :: outer =>
    if rooted && outer.isEmpty then "//" else String.ofList (d :: outer).reverse
  | _ => if rooted then "/" else "."

/-- A path with every backslash turned into a slash. -/
def forwardSlashes (path : String) : String :=
  String.ofList (path.toList.map fun c => if c = '\\' then '/' else c)

end BridgeCode.Path
