import BridgeCode.Value.Basic

/-!
What a scalar of a YAML document means: the core schema's null, booleans, integers (decimal, octal,
hexadecimal), floats, infinities and not-a-number; every other text is a string.

`resolvePlain` reads the text, and `readsAsOther` is the printer's question whether a text written
plainly would come back as something that is not a string.
-/

namespace BridgeCode.Yaml

open Number (Binary64)

/-- The value of digits in a base of at most sixteen. -/
def digitsValue (base : Nat) (digits : List Char) : Nat :=
  digits.foldl (fun acc c =>
    let code := c.toNat
    let digit := if code < 58 then code - 48 else if code < 71 then code - 55 else code - 87
    acc * base + digit) 0

/-- Octal digits. -/
def isOctal (c : Char) : Bool := '0' ≤ c && c ≤ '7'

/-- Hexadecimal digits of either case. -/
def isHex (c : Char) : Bool :=
  c.isDigit || ('a' ≤ c && c ≤ 'f') || ('A' ≤ c && c ≤ 'F')

/-- A sign in front of a number, and the rest. -/
def splitSign : List Char → Bool × List Char
  | '-' :: rest => (true, rest)
  | '+' :: rest => (false, rest)
  | cs => (false, cs)

/-- A nonempty list all of whose members satisfy the test. -/
def someAll (test : Char → Bool) (cs : List Char) : Bool :=
  !cs.isEmpty && cs.all test

/-- The exponent part `e`, sign, digits; nothing at the end of the text means exponent zero. -/
def readExponent? : List Char → Option Int
  | [] => some 0
  | mark :: rest =>
    if mark = 'e' ∨ mark = 'E' then
      let (negative, digits) := splitSign rest
      if someAll Char.isDigit digits then
        let n : Int := digitsValue 10 digits
        some (if negative then -n else n)
      else none
    else none

/-- A decimal float: a point or an exponent or both, and at least one digit. -/
def readFloat? (text : List Char) : Option Binary64 :=
  let (negative, rest) := splitSign text
  let whole := rest.takeWhile Char.isDigit
  match rest.dropWhile Char.isDigit with
  | '.' :: after =>
    let fraction := after.takeWhile Char.isDigit
    if whole.isEmpty && fraction.isEmpty then none
    else
      (readExponent? (after.dropWhile Char.isDigit)).map fun exponent =>
        .ofDecimal negative (digitsValue 10 (whole ++ fraction)) (exponent - fraction.length)
  | [] => none
  | after =>
    if whole.isEmpty then none
    else (readExponent? after).map fun exponent =>
      .ofDecimal negative (digitsValue 10 whole) exponent

/-- An infinity or not-a-number, in the spellings of the core schema. -/
def readSpecial? (text : List Char) : Option Binary64 :=
  let (negative, rest) := splitSign text
  if rest = ".inf".toList ∨ rest = ".Inf".toList ∨ rest = ".INF".toList then
    some (.infinite negative)
  else if text = ".nan".toList ∨ text = ".NaN".toList ∨ text = ".NAN".toList then
    some .nan
  else none

/-- An integer: decimal with an optional sign, `0o` octal, `0x` hexadecimal. -/
def readInt? (text : List Char) : Option Binary64 :=
  match text with
  | '0' :: 'o' :: digits =>
    if someAll isOctal digits then some (.ofNat (digitsValue 8 digits)) else none
  | '0' :: 'x' :: digits =>
    if someAll isHex digits then some (.ofNat (digitsValue 16 digits)) else none
  | _ =>
    let (negative, digits) := splitSign text
    if someAll Char.isDigit digits then
      some (.ofDecimal negative (digitsValue 10 digits) 0)
    else none

/-- A null: nothing at all, a tilde or the word. -/
def isNull (text : List Char) : Bool :=
  ["", "~", "null", "Null", "NULL"].any (·.toList == text)

/-- A boolean word. -/
def readBool? (text : List Char) : Option Bool :=
  if ["true", "True", "TRUE"].any (·.toList == text) then some true
  else if ["false", "False", "FALSE"].any (·.toList == text) then some false
  else none

/-- A float in any of its spellings. -/
def readAnyFloat? (text : List Char) : Option Binary64 :=
  (readSpecial? text).or (readFloat? text)

/-- The value of an untagged plain scalar. -/
def resolvePlain (text : List Char) : Value :=
  if isNull text then .null
  else
    match readBool? text with
    | some b => .bool b
    | none =>
      match (readInt? text).or (readAnyFloat? text) with
      | some n => .num n
      | none => .str (String.ofList text)

/-- Whether a plain scalar with this text is something other than a string. -/
def readsAsOther (text : String) : Bool :=
  match resolvePlain text.toList with
  | .str _ => false
  | _ => true

/-- A tag in front of a node. `core` holds a name of the core schema (`str`, `int`, ...); all other
tags leave a scalar a string and a collection as it is. -/
inductive Tag where
  | core (name : String)
  | other
deriving Repr, DecidableEq

/-- The value of a tagged scalar: the tagged type if the text has its form, else a string. -/
def Tag.resolve (tag : Tag) (text : List Char) : Value :=
  let plain : Value := .str (String.ofList text)
  match tag with
  | .core "null" => if isNull text then .null else plain
  | .core "bool" => ((readBool? text).map Value.bool).getD plain
  | .core "int" => ((readInt? text).map Value.num).getD plain
  | .core "float" => ((readAnyFloat? text).map Value.num).getD plain
  | _ => plain

end BridgeCode.Yaml
