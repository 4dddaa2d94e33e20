import BridgeCode.Path

/-!
The file system a run sees: folders, files and symbolic links.

A location is the list of segments below the root with every link resolved, so two paths lead to the
same file exactly if they lead to the same location. `locate` follows a path to its location the way
the operating system does: links are replaced by their targets, and a step up leaves the folder that
was really reached. `canonicalPath` names where a file is or would be once it is written.

Names, targets of links and contents are Unicode texts, and so are the paths that are followed: a
name that is not well-formed Unicode does not occur. Of the limits of the operating system the disk
has the length of a name and the number of links along a path, but not the length of a whole path.
There are no hard links and no devices or pipes, permissions are not looked at, and the disk is
never full. So of two different locations neither shares its file with the other, and a path can
have more than 4096 bytes.
-/

namespace BridgeCode

/-- Where something is: segments below the root, links resolved. -/
abbrev Location := List String

/-- What can be at a location. -/
inductive FileNode where
  | directory
  | file (content : String)
  | link (target : String)
deriving Repr, DecidableEq

/-- Why the operating system refuses a call. -/
inductive OsError where
  | noEntry
  | notDirectory
  | isDirectory
  | alreadyExists
  | nameTooLong
  | tooManyLinks
deriving Repr, DecidableEq

/-- The wording of a refusal. -/
def OsError.text : OsError → String
  | .noEntry => "ENOENT: no such file or directory"
  | .notDirectory => "ENOTDIR: not a directory"
  | .isDirectory => "EISDIR: illegal operation on a directory"
  | .alreadyExists => "EEXIST: file already exists"
  | .nameTooLong => "ENAMETOOLONG: name too long"
  | .tooManyLinks => "ELOOP: too many symbolic links encountered"

/-- The wording of a refused call on a path. -/
def OsError.message (error : OsError) (call path : String) : String :=
  error.text ++ ", " ++ call ++ " '" ++ path ++ "'"

/-- The contents of a disk, and the folder in which relative paths start. -/
structure FileSystem where
  cwd : Location
  entries : List (Location × FileNode)
deriving Repr

/-- Where a path leads. -/
inductive Walk where
  /-- Something that is not a link stands there. -/
  | found (place : Location)
  /-- The folder is there and has nothing of that name. -/
  | absent (folder : Location) (name : String)
  | failed (error : OsError)
deriving Repr, DecidableEq

namespace FileSystem

/-- What is at a location. The root is a folder. -/
def node? (fs : FileSystem) (place : Location) : Option FileNode :=
  if place.isEmpty then some .directory else fs.entries.lookup place

/-- The path of the current folder. -/
def cwdPath (fs : FileSystem) : String := Path.render fs.cwd

/-- The longest name of a file, in bytes. -/
def maxNameBytes : Nat := 255

/-- The number of links that are followed on the way along one path. -/
def maxLinks : Nat := 40

/-- The steps of a path. A slash at the end asks for a folder, like a final dot. -/
def steps (path : String) : List String :=
  (Path.segments path).filter (!·.isEmpty) ++ if Path.endsInSlash path then ["."] else []

/-- The location where a path starts that is met in `folder`. -/
def startOf (folder : Location) (path : String) : Location :=
  if Path.isAbsolute path then [] else folder

/-- Follows steps from a folder; `follow` goes on at a link, given the link's folder, its target and
the steps that are left. -/
def walkWith (fs : FileSystem) (follow : Location → String → List String → Walk) :
    Location → List String → Walk
  | place, [] => .found place
  | place, step :: rest =>
    if step = "." then walkWith fs follow place rest
    else if step = ".." then walkWith fs follow place.dropLast rest
    else if step.utf8ByteSize > maxNameBytes then .failed .nameTooLong
    else
      match fs.node? (place ++ [step]) with
      | none => if rest.isEmpty then .absent place step else .failed .noEntry
      | some .directory => walkWith fs follow (place ++ [step]) rest
      | some (.file _) =>
        if rest.isEmpty then .found (place ++ [step]) else .failed .notDirectory
      | some (.link target) => follow place target rest

/-- Follows steps from a folder and at most `links` links. -/
def walk (fs : FileSystem) : Nat → Location → List String → Walk
  | 0 => fs.walkWith fun _ _ _ => .failed .tooManyLinks
  | links + 1 => fs.walkWith fun folder target rest =>
    walk fs links (startOf folder target) (steps target ++ rest)

/-- Where a path leads. The empty path leads nowhere. -/
def locate (fs : FileSystem) (path : String) : Walk :=
  if path.isEmpty then .failed .noEntry
  else fs.walk maxLinks (startOf fs.cwd path) (steps path)

/-- Whether a path leads to something. -/
def isPresent (fs : FileSystem) (path : String) : Bool :=
  match fs.locate path with
  | .found _ => true
  | _ => false

/-- Whether a path leads to a folder. -/
def isDirectory (fs : FileSystem) (path : String) : Bool :=
  match fs.locate path with
  | .found place => fs.node? place == some .directory
  | _ => false

/-- The text of the file a path leads to, or the wording of the refusal. -/
def read (fs : FileSystem) (path : String) : Except String String :=
  match fs.locate path with
  | .failed error => .error (error.message "open" path)
  | .absent .. => .error (OsError.noEntry.message "open" path)
  | .found place =>
    match fs.node? place with
    | some (.file content) => .ok content
    | _ => .error (OsError.isDirectory.text ++ ", read")

/-- The location of the innermost part of a path that exists, with the segments below it. The
segments of the path are given innermost first. -/
def canonicalFrom (fs : FileSystem) : List String → List String → Location
  | [], below => below
  | segment :: outer, below =>
    match fs.walk maxLinks [] (segment :: outer).reverse with
    | .found place => place ++ below
    | _ => canonicalFrom fs outer (segment :: below)

/-- The segments of the canonical path. -/
def canonicalSegments (fs : FileSystem) (path : String) : Location :=
  fs.canonicalFrom (Path.resolveSegments fs.cwdPath [path]).reverse []

/-- The canonical path: the part that exists is resolved through links, and what does not exist yet
follows as it stands. Links are resolved as `realpath(3)` does it: a step up inside the target of a
link leaves the folder that was really reached, and does not just take back the step before it. A
file has the same canonical path before and after it is written, unless it is written through a link
to a place where nothing was. -/
def canonicalPath (fs : FileSystem) (path : String) : String :=
  Path.render (fs.canonicalSegments path)

end FileSystem

end BridgeCode
