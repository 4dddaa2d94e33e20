import BridgeCode.Text.Case

/-!
The memory of one run: which files it has written, and which paths it has claimed.

Written files are registered by their canonical path. Two paths clash if they are the same in lower
case, because some disks take them for one; the path that was there first is kept. Claimed paths are
the manifest of the run and go to every sink that is attached.
-/

namespace BridgeCode

/-- A path as it is compared with others. -/
def caseFold (path : String) : String := Text.lower path

/-- Where claimed paths are reported. -/
inductive ManifestSink where
  /-- A file with one path a line. -/
  | file (path : String)
  /-- A receiver in memory. -/
  | pipe
deriving Repr, DecidableEq

/-- The memory of a run. -/
structure Session where
  /-- Canonical paths of written files, oldest first. -/
  written : List String := []
  /-- Claimed paths, oldest first. -/
  claimed : List String := []
  sinks : List ManifestSink := []
  /-- Whether claims are recorded at all. -/
  recording : Bool := false
  /-- What the receiver in memory got. -/
  piped : List String := []
deriving Repr

namespace Session

/-- The registered path that is the same in lower case. -/
def clash? (session : Session) (canonical : String) : Option String :=
  session.written.find? fun path => caseFold path == caseFold canonical

/-- Registers a path unless one that is the same in lower case is there, which is then the answer.
-/
def register (session : Session) (canonical : String) : Option String × Session :=
  match session.clash? canonical with
  | some existing => (some existing, session)
  | none => (none, { session with written := session.written ++ [canonical] })

/-- The session with one more sink. Earlier claims are not repeated to it. -/
def attach (session : Session) (sink : ManifestSink) : Session :=
  { session with sinks := session.sinks ++ [sink], recording := true }

/-- Whether claims go to the file at `path`. -/
def writesManifestTo (session : Session) (path : String) : Bool :=
  session.sinks.contains (.file path)

end Session

end BridgeCode
