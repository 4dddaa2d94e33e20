import BridgeCode.Target.Cpp
import BridgeCode.Target.Objc
import BridgeCode.Yaml.Package

/-!
Descriptors: for every local declaration a YAML document with the names that the other targets give
it, so that another document can import the type.

The names are put together here once more, beside the code of the targets themselves.

The documents go to one file each, or all to one file, divided by document marks.
-/

namespace BridgeCode

/-- What a target calls a declaration, and where it declares it. -/
structure TargetName where
  typename : String
  header : String
deriving Repr, DecidableEq

/-- The names of a declaration. -/
structure Descriptor where
  name : String
  typedef : String
  params : List String
  namePrefix : String
  cpp : TargetName
  objc : TargetName
  javaTypename : String
deriving Repr, DecidableEq

namespace Descriptor

/-- The C++ name of a declaration. -/
def cppName (config : CppConfig) (name : String) (kind : DeclKind) : TargetName where
  typename :=
    let role := if kind = .enum then .enumType else .ty
    Render.qualify (some config.ns) (config.identStyle.spell role name)
  header := "\"" ++ config.includePrefix ++ config.fileIdentStyle.apply name ++ "." ++
    config.headerExt ++ "\""

/-- The Objective-C name of a declaration. -/
def objcName (config : ObjcConfig) (name : String) : TargetName where
  typename := config.identStyle.spell .ty name
  header := "\"" ++ config.includePrefix ++ ObjcTarget.headerName config name ++ "\""

/-- The Java name of a declaration, in its package if there is one. -/
def javaName (config : JavaConfig) (name : String) : String :=
  let spelled := config.identStyle.spell .ty name
  match config.package with
  | some package => if package.isEmpty then spelled else package ++ "." ++ spelled
  | none => spelled

/-- Whether a body is that of a flag enum. -/
def hasFlags : DeclBody → Bool
  | .enum body => body.flags
  | _ => false

/-- The descriptor of a declaration. -/
def describe (config : Config) (name : String) (params : List String) (body : DeclBody) :
    Descriptor where
  name := config.yaml.namePrefix ++ name
  typedef := body.kind.name ++ if hasFlags body then " +f" else ""
  params := params
  namePrefix := config.yaml.namePrefix
  cpp := cppName config.cpp name body.kind
  objc := objcName config.objc name
  javaTypename := javaName config.java name

/-- A target name as data. -/
def targetValue (target : TargetName) : Value :=
  .map [("typename", .str target.typename), ("header", .str target.header)]

/-- A descriptor as data. -/
def toValue (descriptor : Descriptor) : Value :=
  .map [("name", .str descriptor.name), ("typedef", .str descriptor.typedef),
    ("params", .strs descriptor.params), ("prefix", .str descriptor.namePrefix),
    ("cpp", targetValue descriptor.cpp), ("objc", targetValue descriptor.objc),
    ("java", .map [("typename", .str descriptor.javaTypename)])]

variable [YamlPackage]

/-- Writes the document of a declaration. -/
def document (descriptor : Descriptor) : Writing Unit := do
  .line "---"
  .write (YamlPackage.print descriptor.toValue)

/-- Creates or extends the file that holds the document of a declaration. -/
def create (context : Context) (folder origin name : String) (params : List String)
    (body : DeclBody) : Emission Unit := do
  let config := context.config.yaml
  let document := (describe context.config name params body).document
  let top := Render.banner origin "#"
  match config.outFile with
  | none =>
    discard (context.emitter.createFile folder (config.namePrefix ++ name ++ ".yaml")
      (do top; document))
  | some outFile =>
    discard (context.emitter.createFileOnce folder outFile top)
    discard (context.emitter.appendToFile folder outFile document)

/-- The generator of descriptors. -/
def backend : BackendFactory := fun context _ => do
  let folder ← .ofExcept (requireSetting "YAML folder" context.config.yaml.outFolder)
  return {
    name := Slot.yaml.label
    enum := fun origin name _ body => create context folder origin name [] (.enum body)
    record := fun origin name _ params fields =>
      create context folder origin name params (.record fields)
    interface := fun origin name _ params methods =>
      create context folder origin name params (.interface methods) }

end Descriptor

end BridgeCode
