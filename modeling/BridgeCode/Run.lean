import BridgeCode.Target.Cpp
import BridgeCode.Target.Descriptor
import BridgeCode.Target.Objc
import BridgeCode.Target.SwiftBridging

/-!
A generation run: every enabled slot in order, over the same declarations and in one session.
-/

namespace BridgeCode

/-- The generators that are at hand. -/
abbrev Registry := Slot → Option BackendFactory

/-- The generators that come with the tool. -/
def Registry.bundled [YamlPackage] : Registry
  | .cpp => some CppTarget.backend
  | .objc => some ObjcTarget.backend
  | .swiftBridgingHeader => some SwiftBridging.backend
  | .yaml => some Descriptor.backend
  | _ => none

/-- Generates one slot if it is enabled: its folders first, then its files. -/
def runSlot (registry : Registry) (context : Context) (decls : List TypeDecl) (slot : Slot) :
    Emission Unit :=
  if slot.enabled context.config then
    match registry slot with
    | none => .failWith (.missingBackend slot.key slot.label)
    | some factory => do
      .note (.entered slot)
      (slot.folders context.config).forM fun folder =>
        context.emitter.createFolder folder.name folder.path
      .say (·.debug ("Generating " ++ slot.label ++ "...") none)
      let backend ← factory context decls
      backend.generateAll decls
  else
    pure ()

/-- Attaches the configured list of output files, unless the session has it already. -/
def attachOutFileList (config : Config) : Emission Unit := do
  match config.outFileList with
  | none => pure ()
  | some path =>
    if (← get).session.writesManifestTo path then pure () else .attachList path

/-- Generates all enabled slots. -/
def runSlots (registry : Registry) (config : Config) (decls : List TypeDecl) : Emission Unit := do
  attachOutFileList config
  let context : Context := { config, emitter := { skip := config.skipGeneration } }
  Slot.all.forM (runSlot registry context decls)

/-- A run in the session of the world. An error of generation ends it and is its answer; any other
fault is passed on. -/
def generate (registry : Registry) (config : Config) (decls : List TypeDecl) :
    Emission (Option String) :=
  fun world =>
    match (runSlots registry config decls).runOn world with
    | (.ok _, after) => (.ok none, after)
    | (.error (.generate error), after) => (.ok (some error.message), after)
    | (.error fault, after) => (.error fault, after)

/-- A run in a session of its own. -/
def generateFresh (registry : Registry) (config : Config) (decls : List TypeDecl) :
    Emission (Option String) := do
  .modifySession fun _ => {}
  generate registry config decls

end BridgeCode
