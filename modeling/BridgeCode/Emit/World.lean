import BridgeCode.Declaration.Basic
import BridgeCode.Emit.Session
import BridgeCode.Fault
import BridgeCode.FileSystem.Edit
import BridgeCode.Log
import BridgeCode.Slot

/-!
What a run acts on: the disk, its session, its log and the journal of what it did.

An `Emission` is an action on the world that can fail. Everything it did before a failure stays.
-/

namespace BridgeCode

/-- A declaration handed to a generator, as the generator saw it. -/
structure HookCall where
  /-- The name of the generator. -/
  backend : String
  kind : DeclKind
  origin : String
  name : String
  doc : Doc
  /-- The type parameters, which enums do not have. -/
  params : Option (List String)
deriving Repr, DecidableEq

/-- A step of a run. -/
inductive Event where
  /-- The generation of a slot began. -/
  | entered (slot : Slot)
  /-- An output file was opened. -/
  | opened (mode : OpenMode) (file : String) (place : Location)
  /-- A generator that keeps a record was handed a declaration. -/
  | called (call : HookCall)
deriving Repr, DecidableEq

/-- Everything a run reads and changes. -/
structure World where
  files : FileSystem
  session : Session := {}
  logger : Logger := {}
  printed : List LogLine := []
  journal : List Event := []

/-- An action of a run. -/
abbrev Emission (α : Type) := ExceptT Fault (StateM World) α

namespace Emission

/-- The result of an action and the world after it. -/
def runOn {α : Type} (action : Emission α) (world : World) : Except Fault α × World :=
  (ExceptT.run action).run world

/-- Stops with an error of generation. -/
def failWith {α : Type} (error : GenerateError) : Emission α := throw (.generate error)

/-- Adds an event to the journal. -/
def note (event : Event) : Emission Unit :=
  modify fun world => { world with journal := world.journal ++ [event] }

/-- Prints the lines that the logger gives. -/
def say (lines : Logger → List LogLine) : Emission Unit :=
  modify fun world => { world with printed := world.printed ++ lines world.logger }

/-- Changes the session. -/
def modifySession (change : Session → Session) : Emission Unit :=
  modify fun world => { world with session := change world.session }

end Emission

end BridgeCode
