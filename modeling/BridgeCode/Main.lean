import BridgeCode.CommandLine.Command

/-!
The program: it takes a picture of the disk, runs the command line on the picture, and brings the
disk up to date with what came out.

The picture holds everything below the current folder, and the documents that the arguments name.
It is not faithful everywhere: links that lead nowhere are left out of it, all other links lead to
the real path of their target in one step, and files that are no text are empty in it. On a disk
with such links or files the program can do something else than `CommandLine.run` on the disk
itself.
-/

namespace BridgeCode.Program

/-- The location of an absolute path. -/
def locationOf (path : String) : Location := (Path.segments path).filter (!·.isEmpty)

/-- The folders above a location, outermost first. -/
def ancestors (place : Location) : List Location :=
  (List.range place.length).tail.map place.take

/-- The picture with the folders above a location. -/
def withAncestors (fs : FileSystem) (place : Location) : FileSystem :=
  (ancestors place).foldl (fun fs folder =>
    if (fs.node? folder).isSome then fs else fs.put folder .directory) fs

/-- Adds what the disk has at a path, and everything below it. Links that lead nowhere are dropped,
and files that are no text are left empty. -/
partial def capture (fs : FileSystem) (path : String) : IO FileSystem := do
  let here := (← IO.currentDir) / path
  let fs := withAncestors fs (locationOf path)
  match (← here.symlinkMetadata).type with
  | .dir =>
    let mut fs := fs.put (locationOf path) .directory
    for entry in ← here.readDir do
      fs ← capture fs entry.path.toString
    return fs
  | .symlink =>
    if ← here.pathExists then
      return fs.put (locationOf path) (.link (← IO.FS.realPath here).toString)
    else
      return fs
  | _ =>
    let content := (String.fromUTF8? (← IO.FS.readBinFile here)).getD ""
    return fs.put (locationOf path) (.file content)

/-- The picture of the disk for a call, without links that lead nowhere. -/
def picture (args : List String) : IO FileSystem := do
  let cwd := (← IO.currentDir).toString
  let mut fs ← capture { cwd := locationOf cwd, entries := [] } cwd
  if let .ok options := CommandLine.parse args then
    for document in options.idl :: options.config.toList do
      let path := Path.resolve cwd [document]
      if !fs.isPresent path && (← ((← IO.currentDir) / path).pathExists) then
        fs ← capture fs path
  return fs

/-- Brings the disk up to date: folders and files that are new or different in the picture are
written. What the picture left out stays as it is, unless a file is written there: a link that leads
nowhere is then followed, and a file that is no text is replaced. -/
def store (before after : FileSystem) : IO Unit := do
  for (place, node) in after.entries do
    unless before.node? place == some node do
      match node with
      | .directory => IO.FS.createDirAll (Path.render place)
      | .file content => IO.FS.writeFile (Path.render place) content
      | .link _ => pure ()

/-- Prints a line of the log. -/
def print (line : LogLine) : IO Unit :=
  match line.channel with
  | .log => IO.println line.text
  | .warn | .error => IO.eprintln line.text

/-- What the tool says about itself. -/
def helpText : String :=
  "Usage: bridgegen generate --idl <file> [options]\n\n" ++
  "Generate cross-language bridge code from interface declarations\n\nOptions:\n" ++
  String.join (CommandLine.GenerateFlag.all.map fun flag => "  " ++ flag.shown ++ "\n")

/-- Answers arguments that do not lead to a run. -/
def refuse (usage : CommandLine.Usage) : IO UInt32 := do
  match usage with
  | .version =>
    IO.println usage.message
    return 0
  | .helpFlag =>
    IO.print helpText
    return 0
  | .help =>
    IO.eprint helpText
    return 1
  | _ =>
    IO.eprintln usage.message
    return 1

end BridgeCode.Program

open BridgeCode in
open scoped BridgeCode.Yaml in
/-- Runs the tool on the arguments of the command line. -/
def main (args : List String) : IO UInt32 := do
  let before ← Program.picture args
  let (outcome, after) := CommandLine.run args { files := before }
  Program.store before after.files
  after.printed.forM Program.print
  match outcome with
  | .succeeded => return 0
  | .failed => return 1
  | .refused usage => Program.refuse usage
