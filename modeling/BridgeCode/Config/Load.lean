import BridgeCode.Config.Build
import BridgeCode.Declaration.Document
import BridgeCode.FileSystem.Basic

/-!
Documents in files: the configuration of a project and declaration documents.
-/

namespace BridgeCode

variable [YamlPackage]

/-- Reads and checks the YAML document in a file. Faults of the document name the file. -/
def loadChecked {α : Type} (fs : FileSystem) (check : Schema.Check α) (path : String) :
    Except DocumentError α :=
  match fs.read path with
  | .error _ => .error (.unreadable path)
  | .ok content =>
    match readChecked check content with
    | .ok checked => .ok checked
    | .error error => .error (.inFile error path)

/-- The declarations of a file. -/
def loadDeclarations (fs : FileSystem) (path : String) : Except DocumentError (List TypeDecl) := do
  (← loadChecked fs DeclDocument.check path).toDecls

/-- The name of the configuration file of a project. -/
def defaultConfigName : String := "bridgegen.yaml"

/-- Where the configuration file of a project is expected. -/
def configPath (cwd projectRoot : String) : String :=
  Path.resolve cwd [projectRoot, defaultConfigName]

/-- The configuration of a project. Without the file there are defaults, unless a file was asked
for. Folders in a file are relative to that file. -/
def loadConfig (fs : FileSystem) (projectRoot : String) (asked : Option String) :
    Except ConfigError Config :=
  let path := Path.resolve fs.cwdPath [projectRoot, asked.getD defaultConfigName]
  if fs.isPresent path then
    match loadChecked fs ConfigDocument.check path with
    | .ok document => document.build ⟨fs.cwdPath, Path.dirname path⟩
    | .error error => .error (.loadFailed path error)
  else if asked.all (·.isEmpty) then
    buildConfig ⟨fs.cwdPath, projectRoot⟩ (.map [])
  else
    .error (.notFound path)

end BridgeCode
