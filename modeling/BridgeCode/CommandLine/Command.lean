import BridgeCode.CommandLine.Arguments
import BridgeCode.Config.Load
import BridgeCode.Run

/-!
The command line: from arguments to a generation run and its log.
-/

namespace BridgeCode.CommandLine

/-- How a call of the tool ends. -/
inductive Outcome where
  | succeeded
  | failed
  /-- The arguments did not lead to a run. -/
  | refused (usage : Usage)
deriving Repr, DecidableEq

/-- A result as an action of a run. -/
def orFault {α ε : Type} (fault : ε → Fault) : Except ε α → Emission α
  | .ok value => pure value
  | .error error => throw (fault error)

/-- What is said after a good run over the declarations. -/
def successText (config : Config) (decls : List TypeDecl) : String :=
  let count := toString (decls.filter (·.isLocal)).length
  if config.skipGeneration then "Checked " ++ count ++ " declaration(s); no files written"
  else "Generated code for " ++ count ++ " declaration(s)"

/-- The configuration of a run: that of the project with the settings of the command line. -/
def effectiveConfig (cwd : String) (options : GenerateOptions) (loaded : Config) : Config :=
  loaded.override {
    idlFileName := if loaded.idlFileName.isEmpty then some (Path.basename options.idl) else none
    skipGeneration := if options.skipGeneration then some true else none
    outFileList := options.listOutFiles.map fun path => Path.resolve cwd [path] }

section

variable [YamlPackage]

/-- Loads the documents and generates. -/
def generateRun (options : GenerateOptions) : Emission Outcome := do
  let files := (← get).files
  let loaded ← orFault .config (loadConfig files files.cwdPath options.config)
  let config := effectiveConfig files.cwdPath options loaded
  let decls ← orFault .document
    (loadDeclarations files (Path.resolve files.cwdPath [options.idl]))
  match ← generateFresh .bundled config decls with
  | some failure =>
    .say (·.fail failure)
    return .failed
  | none =>
    .say (·.success (successText config decls))
    return .succeeded

/-- The `generate` command. A fault is logged. -/
def generateCommand (options : GenerateOptions) (world : World) : Outcome × World :=
  let level := if options.verbose then .debug else world.logger.level
  match (generateRun options).runOn { world with logger := { world.logger with level } } with
  | (.ok outcome, after) => (outcome, after)
  | (.error fault, after) =>
    let lines := after.logger.error "Generation failed" (some fault.text)
    (.failed, { after with printed := after.printed ++ lines })

/-- A call of the tool. -/
def run (args : List String) (world : World) : Outcome × World :=
  match parse args with
  | .ok options => generateCommand options world
  | .error usage => (.refused usage, world)

end

end BridgeCode.CommandLine
