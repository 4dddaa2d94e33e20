import BridgeCode.Config.Basic
import BridgeCode.Config.Document
import BridgeCode.Fault
import BridgeCode.Path

/-!
From a configuration document to a configuration: examples become converters, and folders become
absolute.
-/

namespace BridgeCode

open Ident (Bundle Converter)

/-- Document keys as role names: `class_name` stands for the role `className`. -/
def roleSamples (samples : StyleSamples) : StyleSamples :=
  samples.map fun (key, sample) => (Ident.Style.camelLower.apply key, sample)

/-- The bundle of a section. -/
def buildStyles (scope : String) (bundle : Bundle) (samples : StyleSamples) :
    Except ConfigError Bundle :=
  match bundle.restyle scope (roleSamples samples) with
  | .ok restyled => .ok restyled.bundle
  | .error error => .error (.style error)

/-- The converter of a single example. -/
def buildStyle (option sample : String) : Except ConfigError Converter :=
  match Ident.resolveExample option sample with
  | .ok converter => .ok converter
  | .error error => .error (.style error)

/-- Where the folders of a document lead. -/
structure BaseDir where
  /-- The current folder. -/
  cwd : String
  /-- The folder that relative folders are below. -/
  path : String

/-- A folder as an absolute path. -/
def BaseDir.folder (base : BaseDir) (folder : Option String) : Option String :=
  folder.map fun folder => Path.resolve base.cwd [base.path, folder]

/-- A header folder, which is the main folder if it is not set, and absent if that is. -/
def BaseDir.headerFolder (base : BaseDir) (main header : Option String) : Option String :=
  main.bind fun main => base.folder (some (header.getD main))

/-- The configuration of a document. The first example that cannot be used is reported. -/
def ConfigDocument.build (document : ConfigDocument) (base : BaseDir) :
    Except ConfigError Config := do
  let { cpp, java, jni, objc, objcpp, cppCli, yaml, python, cWrapper, cffi, .. } := document
  let cppStyle ← buildStyles "cpp.ident_style" .cpp cpp.identStyle
  let cppFile ← buildStyle "cpp.file_ident_style" cpp.fileIdentStyle
  let javaStyle ← buildStyles "java.ident_style" .java java.identStyle
  let jniClass ← buildStyle "jni.class_ident_style" jni.classIdentStyle
  let jniFile ← buildStyle "jni.file_ident_style" jni.fileIdentStyle
  let objcStyle ← buildStyles "objc.ident_style" .objc objc.identStyle
  let objcFile ← buildStyle "objc.file_ident_style" objc.fileIdentStyle
  let cppCliStyle ← buildStyles "cpp_cli.ident_style" .cppCli cppCli.identStyle
  let pythonStyle ← buildStyles "python.ident_style" .python python.identStyle
  return {
    idlFileName := document.idlFileName
    skipGeneration := document.skipGeneration
    outFileList := base.folder document.listOutFiles
    cpp := {
      outFolder := base.folder cpp.outFolder
      headerOutFolder := base.headerFolder cpp.outFolder cpp.headerOutFolder
      includePrefix := cpp.includePrefix
      ns := cpp.ns
      identStyle := cppStyle
      fileIdentStyle := cppFile
      headerExt := cpp.headerExt
      optionalTemplate := cpp.optionalTemplate
      optionalHeader := cpp.optionalHeader
      enumHashWorkaround := cpp.enumHashWorkaround }
    java := {
      outFolder := base.folder java.outFolder
      package := java.package
      identStyle := javaStyle }
    jni := {
      outFolder := base.folder jni.outFolder
      headerOutFolder := base.headerFolder jni.outFolder jni.headerOutFolder
      includePrefix := jni.includePrefix
      includeCppPrefix := jni.includeCppPrefix
      ns := jni.ns
      classIdentStyle := jniClass
      fileIdentStyle := jniFile }
    objc := {
      outFolder := base.folder objc.outFolder
      headerOutFolder := base.headerFolder objc.outFolder objc.headerOutFolder
      identStyle := objcStyle
      fileIdentStyle := objcFile
      includePrefix := objc.includePrefix
      headerExt := objc.headerExt
      swiftBridgingHeaderName := objc.swiftBridgingHeaderName
      closedEnums := objc.closedEnums }
    objcpp := {
      outFolder := base.folder objcpp.outFolder
      headerOutFolder := base.headerFolder objcpp.outFolder objcpp.headerOutFolder
      ext := objcpp.ext
      includePrefix := objcpp.includePrefix
      includeCppPrefix := objcpp.includeCppPrefix
      includeObjcPrefix := objcpp.includeObjcPrefix
      ns := objcpp.ns }
    cppCli := {
      outFolder := base.folder cppCli.outFolder
      identStyle := cppCliStyle
      ns := cppCli.ns
      includeCppPrefix := cppCli.includeCppPrefix }
    yaml := {
      outFolder := base.folder yaml.outFolder
      outFile := yaml.outFile
      namePrefix := yaml.namePrefix }
    python := {
      outFolder := base.folder python.outFolder
      identStyle := pythonStyle
      importPrefix := python.importPrefix }
    cWrapper := {
      outFolder := base.folder cWrapper.outFolder
      headerOutFolder := base.headerFolder cWrapper.outFolder cWrapper.headerOutFolder
      includePrefix := cWrapper.includePrefix
      includeCppPrefix := cWrapper.includeCppPrefix }
    cffi := {
      outFolder := base.folder cffi.outFolder
      packageName := cffi.packageName
      dynamicLibList := cffi.dynamicLibList } }

/-- The configuration of a value, with defaults for what it leaves out. -/
def buildConfig (base : BaseDir) (value : Value) : Except ConfigError Config :=
  match ConfigDocument.check [] (some value) with
  | .ok document => document.build base
  | .bad issues => .error (.invalid (Issue.summary issues))

end BridgeCode
