import BridgeCode.Config.Basic

/-!
The slots of a run: the targets it can generate, in the order in which it generates them.

A slot is enabled exactly if the main folder of its target is configured. The bridging header for
Swift lies among the Objective-C headers, so it needs a name besides and has no folders of its own.
-/

namespace BridgeCode

/-- A target that can be generated. -/
inductive Slot where
  | cpp
  | java
  | jni
  | objc
  | objcpp
  | swiftBridgingHeader
  | cppCli
  | yaml
  | python
  | cWrapper
  | cffi
deriving Repr, DecidableEq

/-- A folder that has to be there before a target is generated. -/
structure OutputFolder where
  /-- What the folder is called in messages. -/
  name : String
  path : String
deriving Repr, DecidableEq

namespace Slot

/-- All slots, in generation order. -/
def all : List Slot :=
  [.cpp, .java, .jni, .objc, .objcpp, .swiftBridgingHeader, .cppCli, .yaml, .python, .cWrapper,
    .cffi]

/-- The key of a slot. -/
def key : Slot → String
  | .cpp => "cpp"
  | .java => "java"
  | .jni => "jni"
  | .objc => "objc"
  | .objcpp => "objcpp"
  | .swiftBridgingHeader => "swiftBridgingHeader"
  | .cppCli => "cppCli"
  | .yaml => "yaml"
  | .python => "python"
  | .cWrapper => "cWrapper"
  | .cffi => "cffi"

/-- The name of a slot in messages. -/
def label : Slot → String
  | .cpp => "C++"
  | .java => "Java"
  | .jni => "JNI C++"
  | .objc => "Objective-C"
  | .objcpp => "Objective-C++"
  | .swiftBridgingHeader => "Swift bridging header"
  | .cppCli => "C++/CLI"
  | .yaml => "YAML"
  | .python => "Python"
  | .cWrapper => "C"
  | .cffi => "Cffi"

/-- The main output folder of a slot. -/
def outFolder? (config : Config) : Slot → Option String
  | .cpp => config.cpp.outFolder
  | .java => config.java.outFolder
  | .jni => config.jni.outFolder
  | .objc | .swiftBridgingHeader => config.objc.outFolder
  | .objcpp => config.objcpp.outFolder
  | .cppCli => config.cppCli.outFolder
  | .yaml => config.yaml.outFolder
  | .python => config.python.outFolder
  | .cWrapper => config.cWrapper.outFolder
  | .cffi => config.cffi.outFolder

/-- The header folder of a slot that has one of its own. -/
def headerFolder? (config : Config) : Slot → Option String
  | .cpp => config.cpp.headerOutFolder
  | .jni => config.jni.headerOutFolder
  | .objc => config.objc.headerOutFolder
  | .objcpp => config.objcpp.headerOutFolder
  | .cWrapper => config.cWrapper.headerOutFolder
  | _ => none

/-- Whether a slot takes part in a run. -/
def enabled (config : Config) (slot : Slot) : Bool :=
  (slot.outFolder? config).isSome &&
    (slot != .swiftBridgingHeader || config.objc.swiftBridgingHeaderName.isSome)

/-- The folders that are created before a slot is generated. -/
def folders (config : Config) (slot : Slot) : List OutputFolder :=
  if slot = .swiftBridgingHeader then []
  else
    ((slot.outFolder? config).map fun path => ⟨slot.label, path⟩).toList ++
      ((slot.headerFolder? config).map fun path => ⟨slot.label ++ " header", path⟩).toList

end Slot

end BridgeCode
