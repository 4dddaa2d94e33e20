import BridgeCode.Text.Case
import BridgeCode.Text.Split

/-!
Casing conventions of identifiers.

A canonical identifier is a token of lower-case words joined by underscores, such as `foo_bar`. A
style turns it into the spelling of one target, and a converter is a style with a literal in front.
Converters are given by example: `mFooBar` names the converter that spells `foo_bar` that way, so a
style is recognised by how the example ends.
-/

namespace BridgeCode.Ident

/-- A casing convention. -/
inductive Style where
  /-- `FooBar` -/
  | camelUpper
  /-- `fooBar` -/
  | camelLower
  /-- `foo_bar` -/
  | identity
  /-- `Foo_Bar` -/
  | underscoreCap
  /-- `FOO_BAR` -/
  | allCaps
deriving Repr, DecidableEq

/-- The words of a token. -/
def wordsOf (token : String) : List String :=
  (Text.splitOn '_' token.toList).map String.ofList

namespace Style

/-- The spelling of a token in a style. -/
def apply : Style → String → String
  | .camelUpper, token => String.join ((wordsOf token).map Text.firstUpper)
  | .camelLower, token =>
    match wordsOf token with
    | [] => ""
    | first :: rest => first ++ String.join (rest.map Text.firstUpper)
  | .identity, token => token
  | .underscoreCap, token => "_".intercalate ((wordsOf token).map Text.firstUpper)
  | .allCaps, token => Text.upper token

/-- All styles, in the order in which an example is compared with them. -/
def all : List Style := [.camelUpper, .camelLower, .identity, .underscoreCap, .allCaps]

end Style

/-- The token that examples spell. -/
def probeToken : String := "foo_bar"

/-- How a style spells the probe token. -/
def Style.probe (style : Style) : String := style.apply probeToken

/-- A style with a literal in front. -/
structure Converter where
  lead : String
  style : Style
deriving Repr, DecidableEq

namespace Converter

/-- The converter of a style without a literal. -/
def ofStyle (style : Style) : Converter := ⟨"", style⟩

/-- The spelling of a token. -/
def apply (converter : Converter) (token : String) : String :=
  converter.lead ++ converter.style.apply token

/-- The converter with one more literal in front. -/
def withLead (literal : String) (converter : Converter) : Converter :=
  { converter with lead := literal ++ converter.lead }

@[simp] theorem apply_withLead (literal : String) (converter : Converter) (token : String) :
    (converter.withLead literal).apply token = literal ++ converter.apply token := by
  simp [apply, withLead, String.append_assoc]

end Converter

/-- The converter that an example shows, if the example ends with the probe of a style. -/
def infer (sample : String) : Option Converter :=
  Style.all.findSome? fun style =>
    (Text.stripSuffix? style.probe.toList sample.toList).map fun lead =>
      ⟨String.ofList lead, style⟩

end BridgeCode.Ident
