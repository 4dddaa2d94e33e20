import BridgeCode.Ident.Bundle
import BridgeCode.Value.Json

/-!
Everything that can go wrong, as causes, and how each cause is reported: under which class and code,
in which words and with which details.
-/

namespace BridgeCode

/-- The codes of reported errors. -/
inductive ErrorCode where
  | folderBlocked
  | folderCreateFailed
  | duplicateOutput
  | caseCollision
  | invalidDeclaration
  | missingBackend
  | writeFailed
  | missingSetting
  | configLoadError
  | invalidConfig
  | unknownIdentStyle
  | parseError
  | invalidDocument
deriving Repr, DecidableEq

namespace ErrorCode

/-- The code as it is reported. -/
def text : ErrorCode → String
  | .folderBlocked => "G001"
  | .folderCreateFailed => "G002"
  | .duplicateOutput => "G003"
  | .caseCollision => "G004"
  | .invalidDeclaration => "G005"
  | .missingBackend => "G006"
  | .writeFailed => "G007"
  | .missingSetting => "G008"
  | .configLoadError => "C001"
  | .invalidConfig => "C002"
  | .unknownIdentStyle => "C003"
  | .parseError => "S001"
  | .invalidDocument => "S002"

/-- The name of a code in the list of codes. -/
def name : ErrorCode → String
  | .folderBlocked => "FOLDER_BLOCKED"
  | .folderCreateFailed => "FOLDER_CREATE_FAILED"
  | .duplicateOutput => "DUPLICATE_OUTPUT"
  | .caseCollision => "CASE_COLLISION"
  | .invalidDeclaration => "INVALID_DECLARATION"
  | .missingBackend => "MISSING_BACKEND"
  | .writeFailed => "WRITE_FAILED"
  | .missingSetting => "MISSING_SETTING"
  | .configLoadError => "CONFIG_LOAD_ERROR"
  | .invalidConfig => "INVALID_CONFIG"
  | .unknownIdentStyle => "UNKNOWN_IDENT_STYLE"
  | .parseError => "PARSE_ERROR"
  | .invalidDocument => "INVALID_DOCUMENT"

/-- All codes. -/
def all : List ErrorCode :=
  [.folderBlocked, .folderCreateFailed, .duplicateOutput, .caseCollision, .invalidDeclaration,
    .missingBackend, .writeFailed, .missingSetting, .configLoadError, .invalidConfig,
    .unknownIdentStyle, .parseError, .invalidDocument]

end ErrorCode

/-- The classes of errors that carry a code. Every class is also of the general one. -/
inductive ErrorClass where
  | general
  | generate
  | config
  | document
deriving Repr, DecidableEq

/-- The name of a class in reports. -/
def ErrorClass.name : ErrorClass → String
  | .general => "BridgegenError"
  | .generate => "GenerateError"
  | .config => "ConfigError"
  | .document => "SystemError"

/-- The classes an error of this class belongs to. -/
def ErrorClass.memberOf : ErrorClass → List ErrorClass
  | .general => [.general]
  | cls => [.general, cls]

/-- `Name: message`, or the bare name if there is no message. -/
def errorText (name message : String) : String :=
  if message.isEmpty then name else name ++ ": " ++ message

/-- A reported error. -/
structure Report where
  cls : ErrorClass
  code : String
  message : String
  details : Option Value := none

/-- A report as one line. -/
def Report.text (report : Report) : String :=
  errorText report.cls.name report.message

/-- A report as data. -/
def Report.toValue (report : Report) : Value :=
  .map ([("name", .str report.cls.name), ("code", .str report.code),
    ("message", .str report.message)] ++ (report.details.map (("details", ·))).toList)

/-- Why a generation run stops. -/
inductive GenerateError where
  | folderBlocked (label folder : String) (cause : Option String)
  | folderCreateFailed (label folder : String) (cause : Option String)
  | duplicateOutput (file canonical : String)
  | caseCollision (file canonical existing : String)
  | enumWithParams (ident origin : String)
  | unsupportedKind (origin : String) (body : Value)
  | missingTypeArg (type : String) (needed : Int) (given : Nat)
  | missingBackend (slot label : String)
  | openFailed (file reason : String)
  | manifestFailed (file reason : String)
  | missingSetting (setting : String)
deriving Repr

namespace GenerateError

/-- The code of a cause. -/
def code : GenerateError → ErrorCode
  | .folderBlocked .. => .folderBlocked
  | .folderCreateFailed .. => .folderCreateFailed
  | .duplicateOutput .. => .duplicateOutput
  | .caseCollision .. => .caseCollision
  | .enumWithParams .. => .invalidDeclaration
  | .unsupportedKind .. => .invalidDeclaration
  | .missingTypeArg .. => .invalidDeclaration
  | .missingBackend .. => .missingBackend
  | .openFailed .. => .writeFailed
  | .manifestFailed .. => .writeFailed
  | .missingSetting .. => .missingSetting

/-- The wording of a cause. -/
def message : GenerateError → String
  | .folderBlocked label folder _ =>
    "Unable to create " ++ label ++ " folder at \"" ++ folder ++
      "\", there's something in the way."
  | .folderCreateFailed label folder _ =>
    "Unable to create " ++ label ++ " folder at \"" ++ folder ++ "\"."
  | .duplicateOutput file _ =>
    "Refusing to write \"" ++ file ++ "\"; we already wrote a file to that path."
  | .caseCollision file _ existing =>
    "Refusing to write \"" ++ file ++
      "\"; we already wrote a file to a path that is the same when lower-cased: \"" ++
      existing ++ "\"."
  | .enumWithParams ident origin =>
    "Enum \"" ++ ident ++ "\" from " ++ origin ++ " cannot have type parameters."
  | .unsupportedKind origin body =>
    "Unsupported declaration kind in " ++ origin ++ ": " ++ body.json
  | .missingTypeArg type needed given =>
    "Type \"" ++ type ++ "\" expects at least " ++ toString needed ++
      " type argument(s), got " ++ toString given ++ "."
  | .missingBackend _ label =>
    "No " ++ label ++ " generator is available, but its output folder is configured."
  | .openFailed file reason => "Unable to open \"" ++ file ++ "\" for writing: " ++ reason
  | .manifestFailed file reason =>
    "Unable to write output file list \"" ++ file ++ "\": " ++ reason
  | .missingSetting setting => "No " ++ setting ++ " configured."

/-- The details of a cause. -/
def details : GenerateError → Option Value
  | .folderBlocked _ folder cause => folderDetails folder cause
  | .folderCreateFailed _ folder cause => folderDetails folder cause
  | .duplicateOutput _ canonical => some (.map [("path", .str canonical)])
  | .caseCollision _ canonical existing =>
    some (.map [("path", .str canonical), ("existing", .str existing)])
  | .enumWithParams ident origin => some (.map [("ident", .str ident), ("origin", .str origin)])
  | .unsupportedKind .. => none
  | .missingTypeArg type _ _ => some (.map [("type", .str type)])
  | .missingBackend slot _ => some (.map [("slot", .str slot)])
  | .openFailed file _ => some (.map [("path", .str file)])
  | .manifestFailed file _ => some (.map [("path", .str file)])
  | .missingSetting setting => some (.map [("setting", .str setting)])
where
  /-- The folder, and what the attempt to create it reported. -/
  folderDetails (folder : String) (cause : Option String) : Option Value :=
    some (.map (("folder", .str folder) :: (cause.map fun c => ("cause", .str c)).toList))

/-- The report of a cause. -/
def report (error : GenerateError) : Report where
  cls := .generate
  code := error.code.text
  message := error.message
  details := error.details

end GenerateError

/-- Why a document cannot be used. -/
inductive DocumentError where
  | unreadable (path : String)
  /-- The text is no document, for a reason of the reader. -/
  | syntaxFlaw (reason : String)
  | invalid (issues : String)
  | badType (place reason : String)
  /-- A fault of the document in the file at `path`. -/
  | inFile (error : DocumentError) (path : String)
deriving Repr

namespace DocumentError

/-- The code of a cause. -/
def code : DocumentError → ErrorCode
  | .unreadable _ => .parseError
  | .syntaxFlaw _ => .parseError
  | .invalid _ => .invalidDocument
  | .badType .. => .invalidDocument
  | .inFile error _ => error.code

/-- The wording of a cause. -/
def message : DocumentError → String
  | .unreadable path => "Failed to load YAML file: " ++ path
  | .syntaxFlaw reason => "Failed to parse YAML: " ++ reason
  | .invalid issues => "YAML validation failed: " ++ issues
  | .badType place reason => "Invalid type for " ++ place ++ ": " ++ reason
  | .inFile error path => error.message ++ " (file: " ++ path ++ ")"

/-- The report of a cause. -/
def report (error : DocumentError) : Report where
  cls := .document
  code := error.code.text
  message := error.message

end DocumentError

/-- Why there is no configuration. -/
inductive ConfigError where
  | notFound (path : String)
  | loadFailed (path : String) (error : DocumentError)
  | invalid (issues : String)
  | style (error : Ident.StyleError)
deriving Repr

namespace ConfigError

/-- The code of a cause. -/
def code : ConfigError → ErrorCode
  | .notFound _ => .configLoadError
  | .loadFailed .. => .configLoadError
  | .invalid _ => .invalidConfig
  | .style _ => .unknownIdentStyle

/-- The wording of a cause. -/
def message : ConfigError → String
  | .notFound path => "Config file not found: " ++ path
  | .loadFailed path error => "Failed to load config from " ++ path ++ ": " ++ error.message
  | .invalid issues => "Invalid configuration: " ++ issues
  | .style (.unknownRole option) => "Unknown identifier role " ++ option
  | .style (.badExample option sample) =>
    "Invalid identifier style example for " ++ option ++ ": \"" ++ sample ++
      "\". Examples must end in FooBar, fooBar, foo_bar, Foo_Bar or FOO_BAR."

/-- The details of a cause. -/
def details : ConfigError → Option Value
  | .style (.unknownRole option) => some (.map [("option", .str option)])
  | .style (.badExample option sample) =>
    some (.map [("option", .str option), ("example", .str sample)])
  | _ => none

/-- The report of a cause. -/
def report (error : ConfigError) : Report where
  cls := .config
  code := error.code.text
  message := error.message
  details := error.details

end ConfigError

/-- The kinds of errors that carry no code. -/
inductive RaisedKind where
  | plain
  | range
  | type
deriving Repr, DecidableEq

/-- The name of a kind in reports. -/
def RaisedKind.name : RaisedKind → String
  | .plain => "Error"
  | .range => "RangeError"
  | .type => "TypeError"

/-- What can interrupt a generation run. -/
inductive Fault where
  | generate (error : GenerateError)
  | config (error : ConfigError)
  | document (error : DocumentError)
  /-- An error without a code, raised by the text of a file or by a generator. -/
  | raised (kind : RaisedKind) (message : String)
deriving Repr

namespace Fault

/-- The report of a fault that carries a code. -/
def report? : Fault → Option Report
  | .generate error => some error.report
  | .config error => some error.report
  | .document error => some error.report
  | .raised .. => none

/-- The name under which a fault is reported. -/
def name : Fault → String
  | .raised kind _ => kind.name
  | .generate _ => ErrorClass.generate.name
  | .config _ => ErrorClass.config.name
  | .document _ => ErrorClass.document.name

/-- The wording of a fault. -/
def message : Fault → String
  | .generate error => error.message
  | .config error => error.message
  | .document error => error.message
  | .raised _ message => message

/-- A fault as one line. -/
def text (fault : Fault) : String := errorText fault.name fault.message

end Fault

end BridgeCode
