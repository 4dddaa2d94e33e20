/-!
Why a text is not a YAML document.
-/

namespace BridgeCode.Yaml

/-- A fault in the syntax of a document. -/
inductive Flaw where
  | tabIndentation
  | unexpectedContent
  | missingSeparation
  | badEscape
  | unclosedQuote
  | unclosedFlow
  | missingComma
  | unexpectedComma
  | badPlainStart
  | badBlockHeader
  | badBlockIndent
  | misplacedCollection
  | keyWithoutValue
  | keyNotOnOneLine
  | keyTooLong
  | duplicateKey (key : String)
  | badAnchor
  | repeatedProperty
  | badTag
  | unknownAlias (name : String)
  | badDirective
  | missingDocumentStart
  | severalDocuments
  | tooDeep
deriving Repr, DecidableEq

/-- The wording of a fault. -/
def Flaw.message : Flaw → String
  | .tabIndentation => "Tabs are not allowed as indentation"
  | .unexpectedContent => "Unexpected content"
  | .missingSeparation => "White space is missing between two tokens"
  | .badEscape => "Invalid escape sequence"
  | .unclosedQuote => "Missing closing quote"
  | .unclosedFlow => "A flow collection is not closed or not sufficiently indented"
  | .missingComma => "Missing , between flow collection items"
  | .unexpectedComma => "Unexpected , in flow collection"
  | .badPlainStart => "A plain value cannot start with an indicator or reserved character"
  | .badBlockHeader => "Block scalar header includes extra characters"
  | .badBlockIndent => "Block scalar lines are not indented as their header says"
  | .misplacedCollection => "A block collection cannot start here"
  | .keyWithoutValue => "Implicit map keys need to be followed by map values"
  | .keyNotOnOneLine => "Implicit keys need to be on a single line"
  | .keyTooLong => "An implicit key must not be longer than 1024 characters"
  | .duplicateKey key => "Map keys must be unique: " ++ key
  | .badAnchor => "An anchor or alias needs a name"
  | .repeatedProperty => "A node can have at most one tag and one anchor"
  | .badTag => "A tag cannot be resolved"
  | .unknownAlias name => "Unresolved alias (the anchor must be set before the alias): " ++ name
  | .badDirective => "Malformed directive"
  | .missingDocumentStart => "Missing directives-end indicator line"
  | .severalDocuments => "Source contains multiple documents"
  | .tooDeep => "The document is nested too deeply"

end BridgeCode.Yaml
