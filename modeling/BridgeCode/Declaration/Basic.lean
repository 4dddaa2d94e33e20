import BridgeCode.TypeExpr.Basic
import BridgeCode.Value.Basic

/-!
Interface declarations: enums, records and interfaces, with their documentation.

Declarations arrive checked by the tool that compiled them, so nothing here asks whether a name is
defined. A body of a kind that no generator knows is carried along as data.
-/

namespace BridgeCode

/-- The lines of a doc comment, without comment marks. -/
abbrev Doc := List String

/-- A marker option of a flag enum: no flag set, or all of them. -/
inductive SpecialFlag where
  | noFlags
  | allFlags
deriving Repr, DecidableEq

/-- An option of an enum. -/
structure EnumOption where
  name : String
  doc : Doc := []
  special : Option SpecialFlag := none
deriving Repr, DecidableEq

/-- An enum; the options of a flag enum are combined bit by bit. -/
structure EnumBody where
  options : List EnumOption
  flags : Bool
deriving Repr, DecidableEq

/-- A field of a record or a parameter of a method. -/
structure Field where
  name : String
  type : TypeRef
  doc : Doc := []
deriving Repr

/-- A method of an interface. -/
structure Method where
  name : String
  params : List Field
  /-- Absent if the method returns nothing. -/
  ret : Option TypeRef := none
  doc : Doc := []
  isStatic : Bool := false
  isConst : Bool := false
deriving Repr

/-- The kind of a declaration. -/
inductive DeclKind where
  | enum
  | record
  | interface
  | other (name : String)
deriving Repr, DecidableEq

/-- The name of a kind. -/
def DeclKind.name : DeclKind → String
  | .enum => "enum"
  | .record => "record"
  | .interface => "interface"
  | .other name => name

/-- What a declaration declares. -/
inductive DeclBody where
  | enum (body : EnumBody)
  | record (fields : List Field)
  | interface (methods : List Method)
  | unsupported (kind : String) (raw : Value)
deriving Repr

/-- The kind of a body. -/
def DeclBody.kind : DeclBody → DeclKind
  | .enum _ => .enum
  | .record _ => .record
  | .interface _ => .interface
  | .unsupported kind _ => .other kind

/-- Whether a declaration is defined here or only imported from another document. -/
inductive DeclScope where
  | defined
  | imported
deriving Repr, DecidableEq

/-- A declaration. -/
structure TypeDecl where
  name : String
  params : List String
  doc : Doc
  /-- The document the declaration came from. -/
  origin : String
  scope : DeclScope
  body : DeclBody
deriving Repr

/-- Whether a declaration is defined here. -/
def TypeDecl.isLocal (decl : TypeDecl) : Bool := decl.scope == .defined

/-- The options that are no markers, in source order. -/
def EnumBody.normalOptions (body : EnumBody) : List EnumOption :=
  body.options.filter (·.special.isNone)

/-- The types that a method mentions: those of its parameters, then that of its result. -/
def Method.types (method : Method) : List TypeRef :=
  method.params.map (·.type) ++ method.ret.toList

/-- The kinds of all declarations by name. -/
abbrev DeclIndex := List (String × DeclKind)

/-- An index with one more declaration: a name that is there already gets the new kind. -/
def DeclIndex.add (name : String) (kind : DeclKind) : DeclIndex → DeclIndex
  | [] => [(name, kind)]
  | (n, k) :: rest => if n = name then (n, kind) :: rest else (n, k) :: DeclIndex.add name kind rest

/-- The index of a list of declarations. -/
def DeclIndex.ofDecls (decls : List TypeDecl) : DeclIndex :=
  decls.foldl (fun index decl => index.add decl.name decl.body.kind) []

/-- The kind of a name. -/
def DeclIndex.kind? (index : DeclIndex) (name : String) : Option DeclKind :=
  index.lookup name

end BridgeCode
