import BridgeCode.Render.AlignedCall
import BridgeCode.Render.EnumOptions
import BridgeCode.Target.Backend

/-!
C++ headers, one for each local declaration.

Enums become scoped enumerations, records become structs with a constructor, and interfaces become
abstract classes that are passed around in shared pointers.
-/

namespace BridgeCode

/-- The C++ target of a run. -/
structure CppTarget where
  config : CppConfig
  decls : DeclIndex

namespace CppTarget

open Render

/-- The spelling of a builtin type without arguments. -/
def simpleType? : String → Option String
  | "bool" => some "bool"
  | "i8" => some "int8_t"
  | "i16" => some "int16_t"
  | "i32" => some "int32_t"
  | "i64" => some "int64_t"
  | "f32" => some "float"
  | "f64" => some "double"
  | "string" => some "std::string"
  | "binary" => some "std::vector<uint8_t>"
  | "date" => some "std::chrono::system_clock::time_point"
  | _ => none

/-- Whether a type is passed by value. -/
def isPrimitive (name : String) : Bool :=
  ["bool", "i8", "i16", "i32", "i64", "f32", "f64"].contains name

/-- The spelling of a type, given that of its arguments. -/
def spellWith (target : CppTarget) (typeParams : List String) (name : String)
    (args : List (Except GenerateError String)) : Except GenerateError String :=
  let arg := requireArg name args
  match simpleType? name with
  | some simple => .ok simple
  | none =>
    match name with
    | "list" => return "std::vector<" ++ (← arg 0) ++ ">"
    | "set" => return "std::unordered_set<" ++ (← arg 0) ++ ">"
    | "map" => do
      let key ← arg 0
      let value ← arg 1
      return "std::unordered_map<" ++ key ++ ", " ++ value ++ ">"
    | "optional" => return target.config.optionalTemplate ++ "<" ++ (← arg 0) ++ ">"
    | _ =>
      if typeParams.contains name then .ok (target.config.identStyle.spell .typeParam name)
      else do
        let kind := target.decls.kind? name
        let role := if kind = some .enum then .enumType else .ty
        let spelled ← args.mapM id
        let suffix := if spelled.isEmpty then "" else "<" ++ ", ".intercalate spelled ++ ">"
        let qualified :=
          qualify (some target.config.ns) (target.config.identStyle.spell role name) ++ suffix
        return if kind = some .interface then "std::shared_ptr<" ++ qualified ++ ">" else qualified

mutual

/-- The C++ spelling of a type. -/
def typeName (target : CppTarget) (typeParams : List String) :
    TypeRef → Except GenerateError String
  | .mk name args => target.spellWith typeParams name (typeNames target typeParams args)

/-- The C++ spellings of types. -/
def typeNames (target : CppTarget) (typeParams : List String) :
    List TypeRef → List (Except GenerateError String)
  | [] => []
  | ref :: rest => typeName target typeParams ref :: typeNames target typeParams rest

end

/-- The name of the header of a declaration. -/
def headerName (config : CppConfig) (name : String) : String :=
  config.fileIdentStyle.apply name ++ "." ++ config.headerExt

/-- What a type by itself asks to include, in a header of the declaration `self`. -/
def includesOfName (target : CppTarget) (self : String) (typeParams : List String) :
    String → List String
  | "bool" | "f32" | "f64" => []
  | "i8" | "i16" | "i32" | "i64" => ["<cstdint>"]
  | "string" => ["<string>"]
  | "binary" => ["<vector>", "<cstdint>"]
  | "date" => ["<chrono>"]
  | "list" => ["<vector>"]
  | "set" => ["<unordered_set>"]
  | "map" => ["<unordered_map>"]
  | "optional" => [target.config.optionalHeader]
  | name =>
    if typeParams.contains name || name = self then []
    else
      (if target.decls.kind? name = some .interface then ["<memory>"] else []) ++
        ["\"" ++ target.config.includePrefix ++ headerName target.config name ++ "\""]

mutual

/-- What a type asks to include, its arguments first. -/
def includesOf (target : CppTarget) (self : String) (typeParams : List String) :
    TypeRef → List String
  | .mk name args =>
    includesOfAll target self typeParams args ++ target.includesOfName self typeParams name

/-- What types ask to include. -/
def includesOfAll (target : CppTarget) (self : String) (typeParams : List String) :
    List TypeRef → List String
  | [] => []
  | ref :: rest =>
    includesOf target self typeParams ref ++ includesOfAll target self typeParams rest

end

/-- Include lines in order. -/
def includeLines (targets : List String) : List String :=
  (sortIncludes targets).map ("#include " ++ ·)

/-- What the header of a record includes. -/
def recordIncludes (target : CppTarget) (name : String) (params : List String)
    (fields : List Field) : List String :=
  target.includesOfAll name params (fields.map (·.type)) ++
    if fields.isEmpty then [] else ["<utility>"]

/-- What the header of an interface includes. -/
def interfaceIncludes (target : CppTarget) (name : String) (params : List String)
    (methods : List Method) : List String :=
  let refs := methods.flatMap (·.types)
  target.includesOfAll name params refs ++
    if refs.any fun ref => ref.referenced.contains name then ["<memory>"] else []

/-- Writes the template header of a declaration with type parameters. -/
def templateHeader (config : CppConfig) (params : List String) : Writing Unit :=
  if params.isEmpty then pure ()
  else
    let names := params.map fun param => "typename " ++ config.identStyle.spell .typeParam param
    .line ("template <" ++ ", ".intercalate names ++ ">")

/-- The type of a parameter: scalars and enums by value, all else by constant reference. -/
def paramType (target : CppTarget) (typeParams : List String) (ref : TypeRef) :
    Except GenerateError String := do
  let name ← target.typeName typeParams ref
  return if isPrimitive ref.name || target.decls.kind? ref.name = some .enum then name
    else "const " ++ name ++ " &"

/-- The declaration of a method. -/
def methodSignature (target : CppTarget) (typeParams : List String) (method : Method) :
    Except GenerateError String := do
  let style := target.config.identStyle
  let ret ← match method.ret with
    | some ref => target.typeName typeParams ref
    | none => pure "void"
  let params ← method.params.mapM fun param => do
    return (← target.paramType typeParams param.type) ++ " " ++ style.spell .localName param.name
  let call := style.spell .method method.name ++ parens (", ".intercalate params)
  return if method.isStatic then "static " ++ ret ++ " " ++ call ++ ";"
    else "virtual " ++ ret ++ " " ++ call ++ (if method.isConst then " const" else "") ++ " = 0;"

/-! ## Bodies of headers -/

/-- The integer type of an enum. -/
def underlyingType (body : EnumBody) : String := if body.flags then "unsigned" else "int"

/-- Writes an operator on flags. -/
def flagOperator (self underlying op : String) : Writing Unit := do
  let cast (operand : String) := "static_cast<" ++ underlying ++ ">(" ++ operand ++ ")"
  .newline
  .line ("constexpr " ++ self ++ " operator" ++ op ++ "(" ++ self ++ " lhs, " ++ self ++
    " rhs) noexcept \x7b")
  .nested (.line ("return static_cast<" ++ self ++ ">(" ++ cast "lhs" ++ " " ++ op ++ " " ++
    cast "rhs" ++ ");"))
  .line "\x7d"

/-- Writes an enum. -/
def enumBody (config : CppConfig) (self : String) (doc : Doc) (body : EnumBody) :
    Writing Unit := do
  docComment doc
  .line ("enum class " ++ self ++ " : " ++ underlyingType body ++ " \x7b")
  .nested (enumOptions (config.identStyle.spell .enumOption) body)
  .line "\x7d;"
  if body.flags then
    ["|", "&", "^"].forM (flagOperator self (underlyingType body))
  else
    pure ()

/-- Writes the hash function object of an enum. -/
def enumHash (config : CppConfig) (self underlying : String) : Writing Unit := do
  let qualified := qualify (some config.ns) self
  .newline
  .line "namespace std \x7b"
  .newline
  .line "template <>"
  .line ("struct hash<" ++ qualified ++ "> \x7b")
  .nested do
    .line ("size_t operator()(" ++ qualified ++ " type) const \x7b")
    .nested (.line ("return std::hash<" ++ underlying ++ ">()(static_cast<" ++ underlying ++
      ">(type));"))
    .line "\x7d"
  .line "\x7d;"
  .newline
  .line "\x7d  // namespace std"

/-- The spelling of a type followed by a name. -/
def typed (target : CppTarget) (typeParams : List String) (field : Field) (name : String) :
    Writing String := do
  let type ← .ofExcept (target.typeName typeParams field.type)
  return type ++ " " ++ name

/-- Writes the constructor of a record that has fields. -/
def constructorOf (target : CppTarget) (self : String) (params : List String)
    (fields : List Field) : Writing Unit := do
  let style := target.config.identStyle
  let argument (field : Field) := style.spell .localName field.name ++ "_"
  alignedCall (self ++ "(") fields ")" (fun field => target.typed params field (argument field)) ","
  .newline
  (fields.zipIdx).forM fun (field, i) =>
    .line ((if i = 0 then ":" else ",") ++ " " ++ style.spell .field field.name ++ "(std::move(" ++
      argument field ++ "))")
  .line "\x7b\x7d"

/-- Writes a record. -/
def recordBody (target : CppTarget) (name : String) (doc : Doc) (params : List String)
    (fields : List Field) : Writing Unit := do
  let style := target.config.identStyle
  let self := style.spell .ty name
  docComment doc
  templateHeader target.config params
  .line ("struct " ++ self ++ " final \x7b")
  .nested do
    fields.forM fun field => do
      docComment field.doc
      .line ((← target.typed params field (style.spell .field field.name)) ++ ";")
    if fields.isEmpty then
      pure ()
    else
      .newline
      target.constructorOf self params fields
  .line "\x7d;"

/-- Writes an interface. -/
def interfaceBody (target : CppTarget) (name : String) (doc : Doc) (params : List String)
    (methods : List Method) : Writing Unit := do
  let style := target.config.identStyle
  let self := style.spell .ty name
  docComment doc
  templateHeader target.config params
  .line ("class " ++ self ++ " \x7b")
  .line "public:"
  .nested do
    .line ("virtual ~" ++ self ++ "() = default;")
    methods.forM fun method => do
      .newline
      methodDoc (style.spell .localName) method
      .line (← .ofExcept (target.methodSignature params method))
  .line "\x7d;"

/-! ## The generator -/

/-- The header of a declaration in the folder of headers. -/
def header (target : CppTarget) (folder origin name : String) (includes : List String)
    (body after : Writing Unit) : HeaderFile where
  folder := folder
  fileName := headerName target.config name
  origin := origin
  includes := includes
  ns := target.config.ns
  body := body
  after := after

/-- The header of an enum. -/
def enumHeader (target : CppTarget) (folder origin name : String) (doc : Doc) (body : EnumBody) :
    HeaderFile :=
  let self := target.config.identStyle.spell .enumType name
  let hash := target.config.enumHashWorkaround
  target.header folder origin name (if hash then ["#include <functional>"] else [])
    (enumBody target.config self doc body)
    (if hash then enumHash target.config self (underlyingType body) else pure ())

/-- The header of a record. -/
def recordHeader (target : CppTarget) (folder origin name : String) (doc : Doc)
    (params : List String) (fields : List Field) : HeaderFile :=
  target.header folder origin name (includeLines (target.recordIncludes name params fields))
    (target.recordBody name doc params fields) (pure ())

/-- The header of an interface. -/
def interfaceHeader (target : CppTarget) (folder origin name : String) (doc : Doc)
    (params : List String) (methods : List Method) : HeaderFile :=
  target.header folder origin name (includeLines (target.interfaceIncludes name params methods))
    (target.interfaceBody name doc params methods) (pure ())

/-- The generator of C++ headers. -/
def backend : BackendFactory := fun context decls => do
  let target : CppTarget := ⟨context.config.cpp, .ofDecls decls⟩
  let folder ← .ofExcept (requireSetting "C++ header folder" target.config.headerOutFolder)
  let create (header : HeaderFile) : Emission Unit := discard (header.create context.emitter)
  return {
    name := Slot.cpp.label
    enum := fun origin name doc body => create (target.enumHeader folder origin name doc body)
    record := fun origin name doc params fields =>
      create (target.recordHeader folder origin name doc params fields)
    interface := fun origin name doc params methods =>
      create (target.interfaceHeader folder origin name doc params methods) }

end CppTarget

end BridgeCode
