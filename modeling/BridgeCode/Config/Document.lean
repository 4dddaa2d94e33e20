import BridgeCode.Schema

/-!
The shape of a configuration document.

Every section and setting may be left out. A setting that is null counts as left out, at any depth
below maps, so nulls are dropped before anything is checked.
-/

namespace BridgeCode

mutual

/-- A value without the null fields of its maps. Lists stay as they are. -/
def dropNulls : Value → Value
  | .map fields => .map (dropNullFields fields)
  | .null => .null
  | .bool value => .bool value
  | .num value => .num value
  | .str value => .str value
  | .list items => .list items

/-- The fields that are not null, each without nulls. -/
def dropNullFields : List (String × Value) → List (String × Value)
  | [] => []
  | (_, .null) :: rest => dropNullFields rest
  | (key, value) :: rest => (key, dropNulls value) :: dropNullFields rest

end

/-- Examples for the roles of a bundle: each key with its example, in the order of the keys. -/
abbrev StyleSamples := List (String × Option String)

/-- The C++ section of a document. -/
structure CppSection where
  outFolder : Option String
  headerOutFolder : Option String
  includePrefix : String
  ns : String
  identStyle : StyleSamples
  fileIdentStyle : String
  headerExt : String
  optionalTemplate : String
  optionalHeader : String
  enumHashWorkaround : Bool

/-- The Java section of a document. -/
structure JavaSection where
  outFolder : Option String
  package : Option String
  identStyle : StyleSamples

/-- The JNI section of a document. -/
structure JniSection where
  outFolder : Option String
  headerOutFolder : Option String
  includePrefix : String
  includeCppPrefix : String
  ns : String
  classIdentStyle : String
  fileIdentStyle : String

/-- The Objective-C section of a document. -/
structure ObjcSection where
  outFolder : Option String
  headerOutFolder : Option String
  identStyle : StyleSamples
  fileIdentStyle : String
  includePrefix : String
  headerExt : String
  swiftBridgingHeaderName : Option String
  closedEnums : Bool

/-- The Objective-C++ section of a document. -/
structure ObjcppSection where
  outFolder : Option String
  headerOutFolder : Option String
  ext : String
  includePrefix : String
  includeCppPrefix : String
  includeObjcPrefix : String
  ns : String

/-- The C++/CLI section of a document. -/
structure CppCliSection where
  outFolder : Option String
  identStyle : StyleSamples
  ns : String
  includeCppPrefix : String

/-- The YAML section of a document. -/
structure YamlSection where
  outFolder : Option String
  outFile : Option String
  namePrefix : String

/-- The Python section of a document. -/
structure PythonSection where
  outFolder : Option String
  identStyle : StyleSamples
  importPrefix : String

/-- The C wrapper section of a document. -/
structure CWrapperSection where
  outFolder : Option String
  headerOutFolder : Option String
  includePrefix : String
  includeCppPrefix : String

/-- The section of a document for the foreign function interface. -/
structure CffiSection where
  outFolder : Option String
  packageName : String
  dynamicLibList : String

/-- A configuration document. -/
structure ConfigDocument where
  idlFileName : String
  skipGeneration : Bool
  listOutFiles : Option String
  cpp : CppSection
  java : JavaSection
  jni : JniSection
  objc : ObjcSection
  objcpp : ObjcppSection
  cppCli : CppCliSection
  yaml : YamlSection
  python : PythonSection
  cWrapper : CWrapperSection
  cffi : CffiSection

namespace ConfigDocument

open Schema

/-- The keys of examples for the C++ bundle. -/
def cppStyleKeys : List String :=
  ["ty", "enum_type", "type_param", "method", "field", "local", "enum", "const"]

/-- The keys of examples for the Java and Objective-C bundles. -/
def javaStyleKeys : List String :=
  ["ty", "type_param", "method", "field", "local", "enum", "const"]

/-- The keys of examples for the Python bundle. -/
def pythonStyleKeys : List String := javaStyleKeys ++ ["class_name"]

/-- The keys of examples for the C++/CLI bundle. -/
def cppCliStyleKeys : List String := javaStyleKeys ++ ["property", "file"]

/-- Examples under the given keys and no others. -/
def checkStyles (keys : List String) : Check StyleSamples :=
  sectionOf fun path fields =>
    let samples := keys.map fun key =>
      (fun sample => (key, sample)) <$> field path fields key (optional someText)
    (Checked.all samples).addIssues (unrecognized path keys fields)

/-- A text with a default. -/
def textOr (default : String) : Check String := withDefault default text

/-- An example with a default. -/
def sampleOr (default : String) : Check String := withDefault default someText

/-- The C++ section. -/
def checkCpp : Check CppSection :=
  sectionOf fun path fields =>
    CppSection.mk <$> field path fields "out_folder" (optional text)
      <*> field path fields "header_out_folder" (optional text)
      <*> field path fields "include_prefix" (textOr "")
      <*> field path fields "namespace" (textOr "")
      <*> field path fields "ident_style" (checkStyles cppStyleKeys)
      <*> field path fields "file_ident_style" (sampleOr "foo_bar")
      <*> field path fields "header_ext" (textOr "hpp")
      <*> field path fields "optional_template" (textOr "std::optional")
      <*> field path fields "optional_header" (textOr "<optional>")
      <*> field path fields "enum_hash_workaround" (withDefault true truth)

/-- The Java section. -/
def checkJava : Check JavaSection :=
  sectionOf fun path fields =>
    JavaSection.mk <$> field path fields "out_folder" (optional text)
      <*> field path fields "package" (optional text)
      <*> field path fields "ident_style" (checkStyles javaStyleKeys)

/-- The JNI section. -/
def checkJni : Check JniSection :=
  sectionOf fun path fields =>
    JniSection.mk <$> field path fields "out_folder" (optional text)
      <*> field path fields "header_out_folder" (optional text)
      <*> field path fields "include_prefix" (textOr "")
      <*> field path fields "include_cpp_prefix" (textOr "")
      <*> field path fields "namespace" (textOr "bridgegen_generated")
      <*> field path fields "class_ident_style" (sampleOr "NativeFooBar")
      <*> field path fields "file_ident_style" (sampleOr "NativeFooBar")

/-- The Objective-C section. -/
def checkObjc : Check ObjcSection :=
  sectionOf fun path fields =>
    ObjcSection.mk <$> field path fields "out_folder" (optional text)
      <*> field path fields "header_out_folder" (optional text)
      <*> field path fields "ident_style" (checkStyles javaStyleKeys)
      <*> field path fields "file_ident_style" (sampleOr "FooBar")
      <*> field path fields "include_prefix" (textOr "")
      <*> field path fields "header_ext" (textOr "h")
      <*> field path fields "swift_bridging_header_name" (optional someText)
      <*> field path fields "closed_enums" (withDefault false truth)

/-- The Objective-C++ section. -/
def checkObjcpp : Check ObjcppSection :=
  sectionOf fun path fields =>
    ObjcppSection.mk <$> field path fields "out_folder" (optional text)
      <*> field path fields "header_out_folder" (optional text)
      <*> field path fields "ext" (textOr "mm")
      <*> field path fields "include_prefix" (textOr "")
      <*> field path fields "include_cpp_prefix" (textOr "")
      <*> field path fields "include_objc_prefix" (textOr "")
      <*> field path fields "namespace" (textOr "bridgegen_generated")

/-- The C++/CLI section. -/
def checkCppCli : Check CppCliSection :=
  sectionOf fun path fields =>
    CppCliSection.mk <$> field path fields "out_folder" (optional text)
      <*> field path fields "ident_style" (checkStyles cppCliStyleKeys)
      <*> field path fields "namespace" (textOr "")
      <*> field path fields "include_cpp_prefix" (textOr "")

/-- The YAML section. -/
def checkYaml : Check YamlSection :=
  sectionOf fun path fields =>
    YamlSection.mk <$> field path fields "out_folder" (optional text)
      <*> field path fields "out_file" (optional someText)
      <*> field path fields "prefix" (textOr "")

/-- The Python section. -/
def checkPython : Check PythonSection :=
  sectionOf fun path fields =>
    PythonSection.mk <$> field path fields "out_folder" (optional text)
      <*> field path fields "ident_style" (checkStyles pythonStyleKeys)
      <*> field path fields "import_prefix" (textOr "")

/-- The C wrapper section. -/
def checkCWrapper : Check CWrapperSection :=
  sectionOf fun path fields =>
    CWrapperSection.mk <$> field path fields "out_folder" (optional text)
      <*> field path fields "header_out_folder" (optional text)
      <*> field path fields "include_prefix" (textOr "")
      <*> field path fields "include_cpp_prefix" (textOr "")

/-- The section for the foreign function interface. -/
def checkCffi : Check CffiSection :=
  sectionOf fun path fields =>
    CffiSection.mk <$> field path fields "out_folder" (optional text)
      <*> field path fields "package_name" (textOr "")
      <*> field path fields "dynamic_lib_list" (textOr "")

/-- A document whose nulls are dropped already. -/
def checkFields : Check ConfigDocument :=
  object fun path fields =>
    ConfigDocument.mk <$> field path fields "idl_file_name" (textOr "")
      <*> field path fields "skip_generation" (withDefault false truth)
      <*> field path fields "list_out_files" (optional text)
      <*> field path fields "cpp" checkCpp
      <*> field path fields "java" checkJava
      <*> field path fields "jni" checkJni
      <*> field path fields "objc" checkObjc
      <*> field path fields "objcpp" checkObjcpp
      <*> field path fields "cpp_cli" checkCppCli
      <*> field path fields "yaml" checkYaml
      <*> field path fields "python" checkPython
      <*> field path fields "c_wrapper" checkCWrapper
      <*> field path fields "cffi" checkCffi

/-- A whole document. -/
def check : Check ConfigDocument :=
  fun path value => checkFields path (value.map dropNulls)

end ConfigDocument

end BridgeCode
