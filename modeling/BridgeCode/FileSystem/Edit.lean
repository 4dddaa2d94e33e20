import BridgeCode.FileSystem.Basic

/-!
Changes to a file system: opening files for writing, adding text to them, and creating folders.
-/

namespace BridgeCode

/-- How a file is opened for writing: emptied first, or with its text kept. -/
inductive OpenMode where
  | truncate
  | append
deriving Repr, DecidableEq

namespace FileSystem

/-- A list of entries with the node at a location replaced or added. -/
def putEntry (place : Location) (node : FileNode) :
    List (Location × FileNode) → List (Location × FileNode)
  | [] => [(place, node)]
  | (p, n) :: rest => if p = place then (p, node) :: rest else (p, n) :: putEntry place node rest

/-- The file system with a node at a location. -/
def put (fs : FileSystem) (place : Location) (node : FileNode) : FileSystem :=
  { fs with entries := putEntry place node fs.entries }

theorem lookup_putEntry (place other : Location) (node : FileNode)
    (entries : List (Location × FileNode)) :
    (putEntry place node entries).lookup other =
      if other = place then some node else entries.lookup other := by
  induction entries with
  | nil =>
    by_cases h : other = place
    · simp [putEntry, h]
    · simp [putEntry, List.lookup_cons, h, beq_eq_false_iff_ne.2 h]
  | cons entry rest ih =>
    obtain ⟨p, n⟩ := entry
    by_cases hp : p = place
    · subst hp
      by_cases h : other = p
      · simp [putEntry, h]
      · simp [putEntry, List.lookup_cons, h, beq_eq_false_iff_ne.2 h]
    · by_cases h : other = p
      · subst h
        simp [putEntry, hp]
      · simp [putEntry, List.lookup_cons, hp, beq_eq_false_iff_ne.2 h, ih]

/-- Only the one location changes; the root is always a folder. -/
theorem node?_put (fs : FileSystem) (place other : Location) (node : FileNode)
    (below : place ≠ []) :
    (fs.put place node).node? other = if other = place then some node else fs.node? other := by
  unfold node? put
  by_cases h : other = []
  · subst h
    simp [below.symm]
  · simp [h, lookup_putEntry]

/-- The location of a file that is opened for writing, and the file system after that. A missing
file is created if its folder is there, also through a link that leads to no file yet. -/
def openFile (fs : FileSystem) (mode : OpenMode) (path : String) :
    Except OsError (FileSystem × Location) :=
  if Path.endsInSlash path then
    match fs.walk maxLinks (startOf fs.cwd path) ((steps path).dropLast.dropLast ++ ["."]) with
    | .failed error => .error error
    | .absent .. => .error .noEntry
    | .found _ => .error .isDirectory
  else
    match fs.locate path with
    | .failed error => .error error
    | .absent folder name => .ok (fs.put (folder ++ [name]) (.file ""), folder ++ [name])
    | .found place =>
      match fs.node? place, mode with
      | some (.file _), .truncate => .ok (fs.put place (.file ""), place)
      | some (.file _), .append => .ok (fs, place)
      | _, _ => .error .isDirectory

/-- Adds text at the end of the file at a location. -/
def appendAt (fs : FileSystem) (place : Location) (text : String) : FileSystem :=
  match fs.node? place with
  | some (.file content) => fs.put place (.file (content ++ text))
  | _ => fs

/-- Creates the folders along the steps that are missing. Folders created before a refusal stay. -/
def makeFoldersFrom (fs : FileSystem) : Location → List String → FileSystem × Option OsError
  | _, [] => (fs, none)
  | place, step :: rest =>
    if step = "." then makeFoldersFrom fs place rest
    else if step = ".." then makeFoldersFrom fs place.dropLast rest
    else
      match fs.walk maxLinks place [step] with
      | .failed error => (fs, some error)
      | .found reached =>
        if fs.node? reached = some .directory then makeFoldersFrom fs reached rest
        else (fs, some (if rest.isEmpty then .alreadyExists else .notDirectory))
      | .absent .. =>
        -- A link that leads nowhere is in the way of a folder.
        if (fs.node? (place ++ [step])).isSome then (fs, some .noEntry)
        else makeFoldersFrom (fs.put (place ++ [step]) .directory) (place ++ [step]) rest

/-- Creates a folder and those above it. -/
def makeFolders (fs : FileSystem) (path : String) : FileSystem × Option OsError :=
  if path.isEmpty then (fs, some .noEntry)
  else fs.makeFoldersFrom (startOf fs.cwd path) (steps path)

/-- Everything below a location, by the segments that lead there from it. -/
def below (fs : FileSystem) (place : Location) : List (List String × FileNode) :=
  fs.entries.filterMap fun (p, node) =>
    if place.isPrefixOf p && p.length > place.length then some (p.drop place.length, node) else none

end FileSystem

end BridgeCode
