import BridgeCode.Emit.World

/-!
Claiming paths and reporting them to the sinks of the session.
-/

namespace BridgeCode.Emission

/-- Opens a list of paths, emptied, in a folder that is created if it is missing. -/
def openList (path : String) : Emission Unit := do
  let folder := Path.dirname path
  let (files, refused) := (← get).files.makeFolders folder
  modify fun world => { world with files }
  match refused with
  | some error => failWith (.manifestFailed path (error.message "mkdir" folder))
  | none =>
    match files.openFile .truncate path with
    | .ok (files, _) => modify fun world => { world with files }
    | .error error => failWith (.manifestFailed path (error.message "open" path))

/-- Adds a line to a list of paths. -/
def addToList (path entry : String) : Emission Unit := do
  match (← get).files.openFile .append path with
  | .ok (files, place) =>
    modify fun world => { world with files := files.appendAt place (entry ++ "\n") }
  | .error error => failWith (.manifestFailed path (error.message "open" path))

/-- Attaches a list of paths to the session. -/
def attachList (path : String) : Emission Unit := do
  openList path
  modifySession (·.attach (.file path))

/-- Attaches the receiver in memory to the session. -/
def attachPipe : Emission Unit := modifySession (·.attach .pipe)

/-- Reports a claimed path to a sink. -/
def report (entry : String) : ManifestSink → Emission Unit
  | .file path => addToList path entry
  | .pipe => modifySession fun session => { session with piped := session.piped ++ [entry] }

/-- Claims a path. Nothing happens in a session that does not record claims. -/
def claim (entry : String) : Emission Unit := do
  let session := (← get).session
  if session.recording then
    modifySession fun session => { session with claimed := session.claimed ++ [entry] }
    session.sinks.forM (report entry)
  else
    pure ()

/-- Registers a canonical path, and tells the registered one that is the same in lower case. -/
def register (canonical : String) : Emission (Option String) := do
  let (existing, session) := (← get).session.register canonical
  modifySession fun _ => session
  return existing

/-- How a session is set up. -/
structure SessionOptions where
  recordManifest : Bool := false
  manifestFile : Option String := none
  /-- Whether the receiver in memory is attached. -/
  pipe : Bool := false

/-- Starts a session. -/
def startSession (options : SessionOptions) : Emission Unit := do
  modifySession fun _ => { recording := options.recordManifest }
  if options.pipe then
    attachPipe
  match options.manifestFile with
  | some path => attachList path
  | none => pure ()

end BridgeCode.Emission
