import BridgeCode.Render.Header

/-!
Generators, and how declarations are handed to them.
-/

namespace BridgeCode

/-- The generator of one target: what it does with each kind of declaration. -/
structure Backend where
  /-- The name of the target. -/
  name : String
  /-- Given the origin, the name, the doc and the body of an enum. -/
  enum : String → String → Doc → EnumBody → Emission Unit
  /-- Given the origin, the name, the doc, the type parameters and the fields of a record. -/
  record : String → String → Doc → List String → List Field → Emission Unit
  /-- Given the origin, the name, the doc, the type parameters and the methods of an interface. -/
  interface : String → String → Doc → List String → List Method → Emission Unit

/-- Makes a generator for a run over the given declarations. -/
abbrev BackendFactory := Context → List TypeDecl → Emission Backend

/-- Hands a declaration to the part of a generator that its kind asks for. Imported declarations are
passed over. -/
def Backend.generateOne (backend : Backend) (decl : TypeDecl) : Emission Unit :=
  if decl.isLocal then
    match decl.body with
    | .enum body =>
      if decl.params.isEmpty then backend.enum decl.origin decl.name decl.doc body
      else .failWith (.enumWithParams decl.name decl.origin)
    | .record fields => backend.record decl.origin decl.name decl.doc decl.params fields
    | .interface methods => backend.interface decl.origin decl.name decl.doc decl.params methods
    | .unsupported _ raw => .failWith (.unsupportedKind decl.origin raw)
  else
    pure ()

/-- Hands all declarations to a generator, in their order. -/
def Backend.generateAll (backend : Backend) (decls : List TypeDecl) : Emission Unit :=
  decls.forM backend.generateOne

/-- A generator that writes nothing and notes in the journal what it is handed. -/
def Backend.recorder (name : String) : Backend where
  name := name
  enum origin ident doc _ := note .enum origin ident doc none
  record origin ident doc params _ := note .record origin ident doc (some params)
  interface origin ident doc params _ := note .interface origin ident doc (some params)
where
  /-- Notes one declaration. -/
  note (kind : DeclKind) (origin ident : String) (doc : Doc) (params : Option (List String)) :
      Emission Unit :=
    .note (.called { backend := name, kind, origin, name := ident, doc, params })

/-- A setting that a generator cannot do without. -/
def requireSetting (description : String) (setting : Option String) : Except GenerateError String :=
  match setting with
  | some value => .ok value
  | none => .error (.missingSetting description)

/-- The argument of a type at an index, among what was made of its arguments. -/
def requireArg {α : Type} (type : String) (args : List (Except GenerateError α)) (index : Nat) :
    Except GenerateError α :=
  match args[index]? with
  | some arg => arg
  | none => .error (.missingTypeArg type (index + 1) args.length)

/-- A result as an action of a run. -/
def Emission.ofExcept {α : Type} : Except GenerateError α → Emission α
  | .ok value => pure value
  | .error error => .failWith error

/-- A result as an action of a writer. -/
def Writing.ofExcept {α : Type} : Except GenerateError α → Writing α
  | .ok value => pure value
  | .error error => throw (.generate error)

end BridgeCode
