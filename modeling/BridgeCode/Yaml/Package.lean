import BridgeCode.Yaml.Printer
import BridgeCode.Yaml.Reader

/-!
Reading and printing YAML.

The tool leaves both to a package, so what it does with documents is said for any reader and any
printer, of which nothing is assumed. The reader and the printer of this library are one package of
this kind, the one that the program uses. They read block and flow collections, scalars of every
style, comments, anchors and aliases, directives and the tags of the core schema, and word in their
own way why a text is no document.
-/

namespace BridgeCode

/-- A reader and a printer of YAML documents. -/
class YamlPackage where
  /-- The value of a text, or the reason why it is no document. -/
  parse : String → Except String Value
  /-- A value as a document. -/
  print : Value → String

namespace Yaml

/-- The reader and the printer of this library. -/
scoped instance package : YamlPackage where
  parse text := (parse text).mapError Flaw.message
  print := print

end Yaml

end BridgeCode
