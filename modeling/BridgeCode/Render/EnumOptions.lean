import BridgeCode.Number.Binary64
import BridgeCode.Render.DocComment

/-!
The options of an enum in generated source: their order and their values.

The option for no flags comes first and is zero. The ordinary options follow in source order; in a
flag enum the k-th has the value `1 << k`. The option for all flags comes last and is the union of
the ordinary ones.
-/

namespace BridgeCode.Render

open Number (Binary64)

/-- An option as a target has it. -/
structure EncodedOption where
  option : EnumOption
  /-- The target's name of the option. -/
  name : String
  value : Option Binary64 := none
  /-- The value in source text. -/
  expr : Option String := none

/-- The first option with a marker. -/
def marked? (body : EnumBody) (flag : SpecialFlag) : Option EnumOption :=
  body.options.find? (·.special == some flag)

/-- The options of an enum with names and values. -/
def encodeOptions (spell : String → String) (body : EnumBody) : List EncodedOption :=
  let normal := body.normalOptions
  let noFlags := (marked? body .noFlags).map fun option =>
    { option, name := spell option.name, value := some (.zero false), expr := some "0" }
  let ordinary := normal.mapIdx fun shift option =>
    if body.flags then
      { option, name := spell option.name, value := some (.ofNat (Nat.pow 2 shift)),
        expr := some ("1 << " ++ toString shift) }
    else
      { option, name := spell option.name }
  let allFlags := (marked? body .allFlags).map fun option =>
    { option, name := spell option.name
      value := if body.flags then some (.ofNat (Nat.pow 2 normal.length - 1)) else none
      expr := some <|
        if normal.isEmpty then "0" else " | ".intercalate (normal.map fun o => spell o.name) }
  noFlags.toList ++ ordinary ++ allFlags.toList

/-- Writes the options of an enum, one a line, each after its doc comment. -/
def enumOptions (spell : String → String) (body : EnumBody) : Writing Unit :=
  (encodeOptions spell body).forM fun encoded => do
    docComment encoded.option.doc
    match encoded.expr with
    | some expr => .line (encoded.name ++ " = " ++ expr ++ ",")
    | none => .line (encoded.name ++ ",")

end BridgeCode.Render
