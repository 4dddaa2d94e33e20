import BridgeCode.Render.AlignedCall
import BridgeCode.Render.EnumOptions
import BridgeCode.Target.Backend
import BridgeCode.Text.Case

/-!
Objective-C headers, one for each local declaration.

Enums become enumeration typedefs; records and interfaces become class interfaces. In a collection a
scalar or an enum is boxed as a number object.
-/

namespace BridgeCode

/-- Whether a pointer may be null. -/
inductive Nullability where
  | nonnull
  | nullable
deriving Repr, DecidableEq

/-- The keyword of a nullability. -/
def Nullability.keyword : Nullability → String
  | .nonnull => "nonnull"
  | .nullable => "nullable"

/-- A type as Objective-C spells it. -/
structure ObjcType where
  /-- In a declaration. -/
  name : String
  /-- Inside a collection. -/
  boxed : String
  /-- Absent for types that are no pointers. -/
  nullability : Option Nullability
deriving Repr, DecidableEq

namespace ObjcType

/-- The type that boxes numbers. -/
def number : String := "NSNumber *"

/-- A type that is no pointer. -/
def scalar (name : String) : ObjcType := ⟨name, number, none⟩

/-- A pointer to an object. -/
def object (name : String) : ObjcType := ⟨name, name, some .nonnull⟩

/-- The type in a parameter list. -/
def asParam (type : ObjcType) : String :=
  match type.nullability with
  | some nullability => nullability.keyword ++ " " ++ type.name
  | none => type.name

/-- A declaration of a name: a star needs no blank behind it. -/
def declare (type : ObjcType) (name : String) : String :=
  if type.name.toList.getLast? = some '*' then type.name ++ name else type.name ++ " " ++ name

end ObjcType

/-- The Objective-C target of a run. -/
structure ObjcTarget where
  config : ObjcConfig
  decls : DeclIndex

namespace ObjcTarget

open Render

/-- The scalar builtin types. -/
def scalar? : String → Option String
  | "bool" => some "BOOL"
  | "i8" => some "int8_t"
  | "i16" => some "int16_t"
  | "i32" => some "int32_t"
  | "i64" => some "int64_t"
  | "f32" => some "float"
  | "f64" => some "double"
  | _ => none

/-- The spelling of a type, given that of its arguments. -/
def typeWith (target : ObjcTarget) (name : String) (args : List (Except GenerateError ObjcType)) :
    Except GenerateError ObjcType :=
  let arg := requireArg name args
  match scalar? name with
  | some scalar => .ok (.scalar scalar)
  | none =>
    match name with
    | "string" => .ok (.object "NSString *")
    | "binary" => .ok (.object "NSData *")
    | "date" => .ok (.object "NSDate *")
    | "list" => return .object ("NSArray<" ++ (← arg 0).boxed ++ "> *")
    | "set" => return .object ("NSSet<" ++ (← arg 0).boxed ++ "> *")
    | "map" => do
      let key ← arg 0
      let value ← arg 1
      return .object ("NSDictionary<" ++ key.boxed ++ ", " ++ value.boxed ++ "> *")
    | "optional" => do
      let inner ← arg 0
      return ⟨inner.boxed, inner.boxed, some .nullable⟩
    | _ =>
      let spelled := target.config.identStyle.spell .ty name
      .ok (if target.decls.kind? name = some .enum then .scalar spelled
        else .object (spelled ++ " *"))

mutual

/-- The Objective-C spelling of a type. -/
def typeOf (target : ObjcTarget) : TypeRef → Except GenerateError ObjcType
  | .mk name args => target.typeWith name (typesOf target args)

/-- The Objective-C spellings of types. -/
def typesOf (target : ObjcTarget) : List TypeRef → List (Except GenerateError ObjcType)
  | [] => []
  | ref :: rest => typeOf target ref :: typesOf target rest

end

/-- The name of the header of a declaration. -/
def headerName (config : ObjcConfig) (name : String) : String :=
  config.fileIdentStyle.apply name ++ "." ++ config.headerExt

/-- The line that imports the header of a declaration. -/
def importLine (config : ObjcConfig) (name : String) : String :=
  "#import \"" ++ config.includePrefix ++ headerName config name ++ "\""

/-- The line that imports the base classes. -/
def foundationImport : String := "#import <Foundation/Foundation.h>"

/-- The import lines of a header: one for each declared name in its types, itself aside. -/
def importLines (target : ObjcTarget) (name : String) (refs : List TypeRef) : List String :=
  let names := (refs.flatMap (·.referenced)).filter fun other =>
    other != name && (target.decls.kind? other).isSome
  Text.sortByUnits (names.map (importLine target.config)).eraseDups

/-- The type of a parameter. -/
def paramType (target : ObjcTarget) (ref : TypeRef) : Except GenerateError String :=
  (target.typeOf ref).map (·.asParam)

/-- A parameter as keyword and value. -/
def keywordParam (target : ObjcTarget) (param : Field) : Writing (String × String) := do
  let spelled := target.config.identStyle.spell .localName param.name
  let type ← .ofExcept (target.paramType param.type)
  return (spelled, parens type ++ spelled)

/-! ## Bodies of headers -/

/-- The macro that declares an enum. -/
def enumMacro (config : ObjcConfig) (body : EnumBody) : String :=
  if body.flags then "NS_OPTIONS" else if config.closedEnums then "NS_CLOSED_ENUM" else "NS_ENUM"

/-- Writes an enum. Its options carry its name. -/
def enumBody (target : ObjcTarget) (name : String) (doc : Doc) (body : EnumBody) :
    Writing Unit := do
  let style := target.config.identStyle
  let self := style.spell .ty name
  let underlying := if body.flags then "NSUInteger" else "NSInteger"
  docComment doc
  .line ("typedef " ++ enumMacro target.config body ++ "(" ++ underlying ++ ", " ++ self ++ ")")
  .line "\x7b"
  .nested (enumOptions (fun option => self ++ style.spell .enumOption option) body)
  .line "\x7d;"

/-- Writes a method that takes a value for each field. -/
def initializer (target : ObjcTarget) (lead : String) (fields : List Field) : Writing Unit := do
  match fields with
  | [] => .line (lead ++ ";")
  | first :: _ =>
    let keyword := Text.firstUpper (target.config.identStyle.spell .localName first.name)
    alignedKeywordCall (lead ++ "With" ++ keyword) fields ";" target.keywordParam
    .newline

/-- Writes the property of a field. -/
def property (target : ObjcTarget) (field : Field) : Writing Unit := do
  let type ← .ofExcept (target.typeOf field.type)
  let attributes :=
    ["nonatomic", "readonly"] ++ (type.nullability.map (·.keyword)).toList
  .newline
  docComment field.doc
  .line ("@property " ++ parens (", ".intercalate attributes) ++ " " ++
    type.declare (target.config.identStyle.spell .field field.name) ++ ";")

/-- Writes a record. -/
def recordBody (target : ObjcTarget) (name : String) (doc : Doc) (fields : List Field) :
    Writing Unit := do
  let style := target.config.identStyle
  docComment doc
  .line ("@interface " ++ style.spell .ty name ++ " : NSObject")
  target.initializer "- (nonnull instancetype)init" fields
  target.initializer ("+ (nonnull instancetype)" ++ style.spell .localName name) fields
  fields.forM target.property
  .newline
  .line "@end"

/-- Writes the declaration of a method. -/
def method (target : ObjcTarget) (method : Method) : Writing Unit := do
  let ret ← match method.ret with
    | some ref => .ofExcept (target.paramType ref)
    | none => pure "void"
  let call := (if method.isStatic then "+ " else "- ") ++ parens ret ++
    target.config.identStyle.spell .method method.name
  alignedKeywordCall call method.params ";" target.keywordParam
  .newline

/-- Writes an interface. -/
def interfaceBody (target : ObjcTarget) (name : String) (doc : Doc) (methods : List Method) :
    Writing Unit := do
  let style := target.config.identStyle
  docComment doc
  .line ("@interface " ++ style.spell .ty name ++ " : NSObject")
  methods.forM fun method => do
    .newline
    methodDoc (style.spell .localName) method
    target.method method
  .newline
  .line "@end"

/-! ## The generator -/

/-- Writes a whole header. -/
def headerText (target : ObjcTarget) (origin name : String) (refs : List TypeRef)
    (body : Writing Unit) : Writing Unit := do
  banner origin "//"
  .newline
  .line foundationImport
  .lines (target.importLines name refs)
  .newline
  body

/-- The generator of Objective-C headers. -/
def backend : BackendFactory := fun context decls => do
  let target : ObjcTarget := ⟨context.config.objc, .ofDecls decls⟩
  let folder ← .ofExcept (requireSetting "Objective-C header folder" target.config.headerOutFolder)
  let create (origin name : String) (refs : List TypeRef) (body : Writing Unit) : Emission Unit :=
    discard (context.emitter.createFile folder (headerName target.config name)
      (target.headerText origin name refs body))
  return {
    name := Slot.objc.label
    enum := fun origin name doc body => create origin name [] (target.enumBody name doc body)
    record := fun origin name doc _ fields =>
      create origin name (fields.map (·.type)) (target.recordBody name doc fields)
    interface := fun origin name doc _ methods =>
      create origin name (methods.flatMap (·.types)) (target.interfaceBody name doc methods) }

end ObjcTarget

end BridgeCode
