/-!
The white-space characters that separate the tokens of a type expression.

Beside the ASCII blanks these are the no-break space, the byte-order mark, the line and paragraph
separators and the space separators of Unicode.
-/

namespace BridgeCode.Text

/-- White space between tokens. -/
def isBlank (c : Char) : Bool :=
  let code := c.toNat
  (9 ≤ code && code ≤ 13) || code == 0x20 || code == 0xA0 || code == 0x1680 ||
    (0x2000 ≤ code && code ≤ 0x200A) || code == 0x2028 || code == 0x2029 || code == 0x202F ||
    code == 0x205F || code == 0x3000 || code == 0xFEFF

end BridgeCode.Text
