import BridgeCode.Text.Units

/-!
Text as code units that need not be well formed.

Everything that is read, named and spelled is a sequence of characters. On its way to a file a text
is a sequence of code units, in which the two halves of a character can be apart. Encoding such a sequence as UTF-8 replaces each surrogate that stands alone by U+FFFD, so
encoding part by part is not the same as encoding the whole.
-/

namespace BridgeCode.Text

/-- A text as the code units that it consists of. Surrogates can stand alone. -/
abbrev Raw := List UInt16

/-- The code units of a text. -/
def encode (s : String) : Raw := (unitList s).map UInt16.ofNat

/-- Whether a code unit is the first half of a character. -/
def isLead (unit : UInt16) : Bool := 0xD800 ≤ unit.toNat && unit.toNat < 0xDC00

/-- Whether a code unit is the second half of a character. -/
def isTrail (unit : UInt16) : Bool := 0xDC00 ≤ unit.toNat && unit.toNat < 0xE000

/-- The character of two halves. -/
def joined (lead trail : UInt16) : Char :=
  Char.ofNat (0x10000 + (lead.toNat - 0xD800) * 0x400 + (trail.toNat - 0xDC00))

/-- What stands for a surrogate that stands alone. -/
def replacement : Char := '\uFFFD'

/-- The character of a code unit by itself. -/
def alone (unit : UInt16) : Char :=
  if isLead unit || isTrail unit then replacement else Char.ofNat unit.toNat

/-- A text with the characters of code units behind it. -/
def decodeOnto (text : String) : Raw → String
  | [] => text
  | [unit] => text.push (alone unit)
  | unit :: next :: rest =>
    if isLead unit && isTrail next then decodeOnto (text.push (joined unit next)) rest
    else decodeOnto (text.push (alone unit)) (next :: rest)

/-- The text that remains of code units when they are encoded as UTF-8. -/
def decode (raw : Raw) : String := decodeOnto "" raw

end BridgeCode.Text
