import BridgeCode.Target.Objc

/-!
The bridging header for Swift: one header among the Objective-C headers that imports the header of
every local declaration.

The header is created with the generator; each declaration then adds its import to it.
-/

namespace BridgeCode.SwiftBridging

/-- The text of the header before any import. -/
def preamble (idlFileName headerName : String) : Writing Unit := do
  Render.banner idlFileName "//"
  .newline
  .line "#import <Foundation/Foundation.h>"
  .newline
  .line ("FOUNDATION_EXPORT double " ++ headerName ++ "VersionNumber;")
  .line ("FOUNDATION_EXPORT const unsigned char " ++ headerName ++ "VersionString[];")
  .newline

/-- The line with which the header imports that of a declaration. -/
def importLine (config : ObjcConfig) (name : String) : String :=
  "#import \"" ++ config.includePrefix ++ ObjcTarget.headerName config name ++ "\""

/-- The generator of the bridging header. -/
def backend : BackendFactory := fun context _ => do
  let config := context.config.objc
  let folder ← .ofExcept (requireSetting "Objective-C header folder" config.headerOutFolder)
  let headerName ←
    .ofExcept (requireSetting "Swift bridging header name" config.swiftBridgingHeaderName)
  let fileName := headerName ++ ".h"
  discard (context.emitter.createFile folder fileName
    (preamble context.config.idlFileName headerName))
  let addImport (name : String) : Emission Unit :=
    discard (context.emitter.appendToFile folder fileName
      (.line (importLine config name)))
  return {
    name := Slot.swiftBridgingHeader.label
    enum := fun _ name _ _ => addImport name
    record := fun _ name _ _ _ => addImport name
    interface := fun _ name _ _ _ => addImport name }

end BridgeCode.SwiftBridging
