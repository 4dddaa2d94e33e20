import BridgeCode.Value.Basic
import BridgeCode.Number.Shortest

/-!
JSON text of document values, compact or indented by two spaces.

Numbers that are not finite have no JSON form and are written `null`. Text is escaped only where
JSON requires it.
-/

namespace BridgeCode

namespace Value

/-- Lower-case hexadecimal digits, four of them. -/
def hex4 (n : Nat) : List Char :=
  let digits := Nat.toDigits 16 n
  List.replicate (4 - digits.length) '0' ++ digits

/-- The escaped form of one character of a JSON text. -/
def escapeChar (c : Char) : List Char :=
  if c = '"' then ['\\', '"']
  else if c = '\\' then ['\\', '\\']
  else if c = '\n' then ['\\', 'n']
  else if c = '\r' then ['\\', 'r']
  else if c = '\t' then ['\\', 't']
  else if c.toNat = 8 then ['\\', 'b']
  else if c.toNat = 12 then ['\\', 'f']
  else if c.toNat < 0x20 then '\\' :: 'u' :: hex4 c.toNat
  else [c]

/-- A quoted JSON text. -/
def quoteJson (s : String) : String :=
  String.ofList ('"' :: s.toList.flatMap escapeChar ++ ['"'])

/-- The JSON form of a number. -/
def numberJson : Number.Binary64 → String
  | .finite negative significand exponent =>
    Number.Binary64.text (.finite negative significand exponent)
  | _ => "null"

mutual

/-- Compact JSON. -/
def json : Value → String
  | .null => "null"
  | .bool value => if value then "true" else "false"
  | .num value => numberJson value
  | .str value => quoteJson value
  | .list items => "[" ++ ",".intercalate (jsonItems items) ++ "]"
  | .map fields => "\x7b" ++ ",".intercalate (jsonFields fields) ++ "\x7d"

/-- Compact JSON of list items. -/
def jsonItems : List Value → List String
  | [] => []
  | item :: rest => json item :: jsonItems rest

/-- Compact JSON of map fields. -/
def jsonFields : List (String × Value) → List String
  | [] => []
  | (key, value) :: rest => (quoteJson key ++ ":" ++ json value) :: jsonFields rest

end

/-- Members between brackets, one a line, indented by `indent`. -/
def bracketLines (opening closing indent outer : String) (members : List String) : String :=
  if members.isEmpty then opening ++ closing
  else
    opening ++ "\n" ++ indent ++ (",\n" ++ indent).intercalate members ++ "\n" ++ outer ++ closing

mutual

/-- JSON with one member a line, nested members two spaces further in than `outer`. -/
def jsonLines (outer : String) : Value → String
  | .list items =>
    bracketLines "[" "]" (outer ++ "  ") outer (jsonItemLines (outer ++ "  ") items)
  | .map fields =>
    bracketLines "\x7b" "\x7d" (outer ++ "  ") outer (jsonFieldLines (outer ++ "  ") fields)
  | .null => "null"
  | .bool value => if value then "true" else "false"
  | .num value => numberJson value
  | .str value => quoteJson value

/-- Indented JSON of list items. -/
def jsonItemLines (indent : String) : List Value → List String
  | [] => []
  | item :: rest => jsonLines indent item :: jsonItemLines indent rest

/-- Indented JSON of map fields. -/
def jsonFieldLines (indent : String) : List (String × Value) → List String
  | [] => []
  | (key, value) :: rest =>
    (quoteJson key ++ ": " ++ jsonLines indent value) :: jsonFieldLines indent rest

end

end Value

end BridgeCode
