import BridgeCode.Emit.Buffer
import BridgeCode.Emit.Manifest
import BridgeCode.Emit.Writer

/-!
Creating the files of a run.

A file that is created is claimed in the manifest and registered under its canonical path. A run
refuses to create a file twice, or two files whose paths differ only in case. In a dry run paths are
claimed and nothing else happens to files. Each operation answers whether the body of the file ran.
-/

namespace BridgeCode

/-- How files are created. -/
structure Emitter where
  /-- Whether this is a dry run. -/
  skip : Bool := false
  /-- The text of one level of indentation. -/
  unit : String := "    "

namespace Emitter

open Emission

/-- Puts portions of code units at the end of a file. Each is encoded by itself, so a half of a
character at the edge of a portion is replaced. -/
def deliver (place : Location) (portions : List Text.Raw) (files : FileSystem) : FileSystem :=
  portions.foldl (fun disk portion => disk.appendAt place (Text.decode portion)) files

/-- Opens a file and writes the body to it. What a body wrote before it failed is in the file. -/
def writeTo (emitter : Emitter) (mode : OpenMode) (file : String) (body : Writing Unit) :
    Emission Bool := do
  match (← get).files.openFile mode file with
  | .error error => failWith (.openFailed file (error.message "open" file))
  | .ok (files, place) =>
    note (.opened mode file place)
    let (result, writer) := body.runOn { unit := emitter.unit }
    let portions := Buffer.output writer.chunks.toList
    modify fun world => { world with files := deliver place portions files }
    match result with
    | .ok _ => pure true
    | .error fault => throw fault

/-- Creates a file. A path that was written in this session already is refused. -/
def createFile (emitter : Emitter) (folder fileName : String) (body : Writing Unit) :
    Emission Bool := do
  let file := Path.join [folder, fileName]
  claim (Path.forwardSlashes file)
  if emitter.skip then
    pure false
  else
    let canonical := (← get).files.canonicalPath file
    match ← register canonical with
    | some existing =>
      if existing = canonical then
        failWith (.duplicateOutput file canonical)
      else
        failWith (.caseCollision file canonical existing)
    | none => emitter.writeTo .truncate file body

/-- Creates a file that several declarations may ask for; only the first request counts. -/
def createFileOnce (emitter : Emitter) (folder fileName : String) (body : Writing Unit) :
    Emission Bool := do
  let file := Path.join [folder, fileName]
  let canonical := (← get).files.canonicalPath file
  match ← register canonical with
  | some _ => pure false
  | none =>
    claim (Path.forwardSlashes file)
    if emitter.skip then pure false else emitter.writeTo .truncate file body

/-- Adds to a file that was created before. -/
def appendToFile (emitter : Emitter) (folder fileName : String) (body : Writing Unit) :
    Emission Bool :=
  if emitter.skip then pure false
  else emitter.writeTo .append (Path.join [folder, fileName]) body

/-- Creates an output folder and those above it. What is there afterwards decides whether this
failed, and how. -/
def createFolder (emitter : Emitter) (label folder : String) : Emission Unit :=
  if emitter.skip then pure ()
  else do
    let (files, refused) := (← get).files.makeFolders folder
    modify fun world => { world with files }
    let cause := refused.map (·.message "mkdir" folder)
    if cause.isNone then
      say (·.debug ("Created " ++ label ++ " folder " ++ folder) none)
    if files.isDirectory folder then
      pure ()
    else if files.isPresent folder then
      failWith (.folderBlocked label folder cause)
    else
      failWith (.folderCreateFailed label folder cause)

end Emitter

end BridgeCode
