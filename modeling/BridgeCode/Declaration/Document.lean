import BridgeCode.Declaration.Basic
import BridgeCode.Fault
import BridgeCode.Schema
import BridgeCode.TypeExpr.Parser
import BridgeCode.Yaml.Package

/-!
Declaration documents: the YAML or JSON form in which declarations are handed over.

A document is checked into entries first; types are still text there. Turning entries into
declarations then parses the types and splits doc text into lines, giving each line that is not
empty one leading space.
-/

namespace BridgeCode

/-- Documentation in a document: one text, or its lines. -/
inductive DocEntry where
  | text (value : String)
  | lines (values : List String)
deriving Repr

/-- A field or parameter in a document. -/
structure FieldEntry where
  name : String
  type : String
  doc : Option DocEntry
deriving Repr

/-- An enum option in a document. -/
structure OptionEntry where
  name : String
  doc : Option DocEntry
  special : Option SpecialFlag
deriving Repr

/-- A method in a document. -/
structure MethodEntry where
  name : String
  params : List FieldEntry
  ret : Option String
  doc : Option DocEntry
  isStatic : Bool
  isConst : Bool
deriving Repr

/-- A body in a document. -/
inductive BodyEntry where
  | enum (flags : Bool) (options : List OptionEntry)
  | record (fields : List FieldEntry)
  | interface (methods : List MethodEntry)
deriving Repr

/-- A declaration in a document. -/
structure DeclEntry where
  name : String
  doc : Option DocEntry
  origin : Option String
  imported : Bool
  params : List String
  body : BodyEntry
deriving Repr

/-- A declaration document. -/
structure DeclDocument where
  origin : String
  declarations : List DeclEntry
deriving Repr

/-! ## The shape of a document -/

namespace DeclDocument

open Schema

/-- Documentation, or the single issue of anything else. -/
def checkDoc : Check (Option DocEntry)
  | _, none => .ok none
  | _, some (.str s) => .ok (some (.text s))
  | path, some (.list items) =>
    match Checked.all (items.map fun item => text [] (some item)) with
    | .ok lines => .ok (some (.lines lines))
    | .bad _ => .bad [⟨path, "Invalid input"⟩]
  | path, some _ => .bad [⟨path, "Invalid input"⟩]

/-- A marker flag. -/
def checkSpecial : Check (Option SpecialFlag)
  | _, none => .ok none
  | path, some value =>
    let invalid : Checked (Option SpecialFlag) :=
      .bad [⟨path, "Invalid option: expected one of \"no_flags\"|\"all_flags\""⟩]
    match value with
    | .str s =>
      if s = "no_flags" then .ok (some .noFlags)
      else if s = "all_flags" then .ok (some .allFlags)
      else invalid
    | _ => invalid

/-- A field or parameter. -/
def checkField : Check FieldEntry :=
  object fun path fields =>
    FieldEntry.mk <$> field path fields "name" someText
      <*> field path fields "type" someText
      <*> field path fields "doc" checkDoc

/-- An enum option. -/
def checkOption : Check OptionEntry :=
  object fun path fields =>
    OptionEntry.mk <$> field path fields "name" someText
      <*> field path fields "doc" checkDoc
      <*> field path fields "special" checkSpecial

/-- A method. -/
def checkMethod : Check MethodEntry :=
  object fun path fields =>
    MethodEntry.mk <$> field path fields "name" someText
      <*> field path fields "params" (withDefault [] (listOf checkField))
      <*> field path fields "return" (optional text)
      <*> field path fields "doc" checkDoc
      <*> field path fields "static" (withDefault false truth)
      <*> field path fields "const" (withDefault false truth)

/-- The body of a declaration, by the name of its kind. -/
def checkBody? (kind : String) (path : Path) (fields : List (String × Value)) :
    Option (Checked BodyEntry) :=
  match kind with
  | "enum" =>
    some (BodyEntry.enum <$> field path fields "flags" (withDefault false truth)
      <*> field path fields "options" (withDefault [] (listOf checkOption)))
  | "record" =>
    some (BodyEntry.record <$> field path fields "fields" (withDefault [] (listOf checkField)))
  | "interface" =>
    some (BodyEntry.interface <$>
      field path fields "methods" (withDefault [] (listOf checkMethod)))
  | _ => none

/-- A declaration. Without a known kind nothing else of it is looked at. -/
def checkDecl : Check DeclEntry :=
  object fun path fields =>
    let body? := match Value.field? fields "kind" with
      | some (.str kind) => checkBody? kind path fields
      | _ => none
    match body? with
    | none =>
      .bad [⟨path ++ ["kind"],
        "Invalid discriminator value. Expected 'enum' | 'record' | 'interface'"⟩]
    | some body =>
      DeclEntry.mk <$> field path fields "name" someText
        <*> field path fields "doc" checkDoc
        <*> field path fields "origin" (optional text)
        <*> field path fields "extern" (withDefault false truth)
        <*> field path fields "params" (withDefault [] (listOf text))
        <*> body

/-- A whole document. -/
def check : Check DeclDocument :=
  object fun path fields =>
    DeclDocument.mk <$> field path fields "origin" (withDefault "unknown.idl" text)
      <*> field path fields "declarations" (withDefault [] (listOf checkDecl))

end DeclDocument

/-! ## Declarations of a document -/

/-- A text without one line break at its end. -/
def dropFinalBreak (text : List Char) : List Char :=
  if text.getLast? = some '\n' then text.dropLast else text

/-- A doc line as it is kept: with a leading space unless it is empty. -/
def docLine (line : String) : String :=
  if line.isEmpty then line else " " ++ line

/-- The lines of a doc entry. -/
def DocEntry.toDoc : Option DocEntry → Doc
  | none => []
  | some (.text value) =>
    (Text.splitOn '\n' (dropFinalBreak value.toList)).map fun line => docLine (String.ofList line)
  | some (.lines values) => values.map docLine

/-- The type a text spells, for the place it is used at. -/
def parseTypeAt (place source : String) : Except DocumentError TypeRef :=
  match TypeRef.parse source with
  | .ok ref => .ok ref
  | .error error => .error (.badType place error.message)

/-- The field of an entry; `owner` names what it belongs to. -/
def FieldEntry.toField (owner : String) (entry : FieldEntry) : Except DocumentError Field := do
  let type ← parseTypeAt (owner ++ "." ++ entry.name) entry.type
  return { name := entry.name, type, doc := DocEntry.toDoc entry.doc }

/-- The option of an entry. -/
def OptionEntry.toOption (entry : OptionEntry) : EnumOption :=
  { name := entry.name, doc := DocEntry.toDoc entry.doc, special := entry.special }

/-- The method of an entry; parameters are looked at before the result. -/
def MethodEntry.toMethod (owner : String) (entry : MethodEntry) :
    Except DocumentError Method := do
  let place := owner ++ "." ++ entry.name
  let params ← entry.params.mapM (·.toField place)
  let ret ← match entry.ret with
    | none => pure none
    | some source => some <$> parseTypeAt place source
  return {
    name := entry.name, params, ret, doc := DocEntry.toDoc entry.doc
    isStatic := entry.isStatic, isConst := entry.isConst }

/-- The body of an entry. -/
def BodyEntry.toBody (owner : String) : BodyEntry → Except DocumentError DeclBody
  | .enum flags options => .ok (.enum { options := options.map (·.toOption), flags })
  | .record fields => return .record (← fields.mapM (·.toField owner))
  | .interface methods => return .interface (← methods.mapM (·.toMethod owner))

/-- The declaration of an entry. -/
def DeclEntry.toDecl (defaultOrigin : String) (entry : DeclEntry) :
    Except DocumentError TypeDecl := do
  let body ← entry.body.toBody entry.name
  return {
    name := entry.name, params := entry.params, doc := DocEntry.toDoc entry.doc
    origin := entry.origin.getD defaultOrigin
    scope := if entry.imported then .imported else .defined
    body }

/-- The declarations of a document. The first type that cannot be read is reported. -/
def DeclDocument.toDecls (document : DeclDocument) : Except DocumentError (List TypeDecl) :=
  document.declarations.mapM (·.toDecl document.origin)

/-! ## Documents as text -/

section

variable [YamlPackage]

/-- Reads a YAML text and checks its value; an empty document is an empty map. -/
def readChecked {α : Type} (check : Schema.Check α) (content : String) : Except DocumentError α :=
  match YamlPackage.parse content with
  | .error reason => .error (.syntaxFlaw reason)
  | .ok value =>
    let value := match value with
      | .null => .map []
      | value => value
    match check [] (some value) with
    | .ok checked => .ok checked
    | .bad issues => .error (.invalid (Issue.summary issues))

/-- The declarations of a text. -/
def parseDeclarations (content : String) : Except DocumentError (List TypeDecl) := do
  (← readChecked DeclDocument.check content).toDecls

end

end BridgeCode
