import BridgeCode.Ident.Bundle

/-!
The configuration of a run, one section for each target.

A target is enabled exactly if its output folder is set. Folders are absolute here.
-/

namespace BridgeCode

open Ident (Bundle Converter)

/-- Settings of the C++ target. -/
structure CppConfig where
  outFolder : Option String
  headerOutFolder : Option String
  includePrefix : String
  ns : String
  identStyle : Bundle
  fileIdentStyle : Converter
  headerExt : String
  optionalTemplate : String
  optionalHeader : String
  /-- Whether each enum gets a hash function object beside it. -/
  enumHashWorkaround : Bool

/-- Settings of the Java target. -/
structure JavaConfig where
  outFolder : Option String
  package : Option String
  identStyle : Bundle

/-- Settings of the JNI target. -/
structure JniConfig where
  outFolder : Option String
  headerOutFolder : Option String
  includePrefix : String
  includeCppPrefix : String
  ns : String
  classIdentStyle : Converter
  fileIdentStyle : Converter

/-- Settings of the Objective-C target. -/
structure ObjcConfig where
  outFolder : Option String
  headerOutFolder : Option String
  identStyle : Bundle
  fileIdentStyle : Converter
  includePrefix : String
  headerExt : String
  swiftBridgingHeaderName : Option String
  /-- Whether enums are declared as closed. -/
  closedEnums : Bool

/-- Settings of the Objective-C++ target. -/
structure ObjcppConfig where
  outFolder : Option String
  headerOutFolder : Option String
  ext : String
  includePrefix : String
  includeCppPrefix : String
  includeObjcPrefix : String
  ns : String

/-- Settings of the C++/CLI target. -/
structure CppCliConfig where
  outFolder : Option String
  identStyle : Bundle
  ns : String
  includeCppPrefix : String

/-- Settings of the YAML target. -/
structure YamlConfig where
  outFolder : Option String
  /-- The one file that collects every declaration; without it each has a file of its own. -/
  outFile : Option String
  namePrefix : String

/-- Settings of the Python target. -/
structure PythonConfig where
  outFolder : Option String
  identStyle : Bundle
  importPrefix : String

/-- Settings of the C wrapper target. -/
structure CWrapperConfig where
  outFolder : Option String
  headerOutFolder : Option String
  includePrefix : String
  includeCppPrefix : String

/-- Settings of the foreign function interface target. -/
structure CffiConfig where
  outFolder : Option String
  packageName : String
  dynamicLibList : String

/-- The configuration of a run. -/
structure Config where
  /-- The name of the declaration document in file banners. -/
  idlFileName : String
  /-- A dry run claims its paths and writes no output file. -/
  skipGeneration : Bool
  /-- The file that lists every claimed path. -/
  outFileList : Option String
  cpp : CppConfig
  java : JavaConfig
  jni : JniConfig
  objc : ObjcConfig
  objcpp : ObjcppConfig
  cppCli : CppCliConfig
  yaml : YamlConfig
  python : PythonConfig
  cWrapper : CWrapperConfig
  cffi : CffiConfig

/-- Settings that the command line may replace. -/
structure ConfigOverrides where
  idlFileName : Option String := none
  skipGeneration : Option Bool := none
  outFileList : Option String := none

/-- A configuration with some settings replaced. -/
def Config.override (config : Config) (overrides : ConfigOverrides) : Config :=
  { config with
    idlFileName := overrides.idlFileName.getD config.idlFileName
    skipGeneration := overrides.skipGeneration.getD config.skipGeneration
    outFileList := overrides.outFileList <|> config.outFileList }

end BridgeCode
