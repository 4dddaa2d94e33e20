import BridgeCode.Yaml.Cursor
import BridgeCode.Yaml.Scalar

/-!
Scalars that run over several lines: a single line break between two lines reads as a space, `n + 1`
breaks read as `n`, and the blanks around a break are dropped.

Plain and quoted scalars share this rule. A double-quoted scalar first decodes its escapes, so an
escaped blank or break is kept; an escaped line break joins two lines with nothing between them.
-/

namespace BridgeCode.Yaml

/-- One piece of a scalar: a character as written, a code point that an escape stands for, or an
escaped line break. -/
inductive Piece where
  | raw (c : Char)
  | code (n : Nat)
  | joint
deriving Repr, DecidableEq

/-- Where the folding of a scalar stands: in a line, with the blanks held back since the last other
character (newest first); after breaks, with the number of breaks beyond the first; or after an
escaped break. -/
inductive FoldState where
  | inLine (held : List Char)
  | broken (extra : Nat)
  | joined
deriving Repr

/-- What is written before the next character. -/
def FoldState.release : FoldState → List Nat
  | .inLine held => held.reverse.map Char.toNat
  | .broken 0 => [' '.toNat]
  | .broken extra => List.replicate extra '\n'.toNat
  | .joined => []

/-- The code points of a folded scalar. -/
def foldPieces : FoldState → List Piece → List Nat
  | state, [] => state.release
  | state, .code n :: rest => state.release ++ n :: foldPieces (.inLine []) rest
  | state, .joint :: rest => state.release ++ foldPieces .joined rest
  | state, .raw c :: rest =>
    if c = '\n' then
      match state with
      | .broken extra => foldPieces (.broken (extra + 1)) rest
      | _ => foldPieces (.broken 0) rest
    else if isSpaceTab c then
      match state with
      | .inLine held => foldPieces (.inLine (c :: held)) rest
      | _ => foldPieces state rest
    else
      state.release ++ c.toNat :: foldPieces (.inLine []) rest

/-- Characters of code points, two surrogates in a row making one character. A surrogate that stands
alone is replaced. -/
def ofCodes : List Nat → List Char
  | [] => []
  | [n] => [if 0xD800 ≤ n ∧ n < 0xE000 then Char.ofNat 0xFFFD else Char.ofNat n]
  | n :: m :: rest =>
    if 0xD800 ≤ n ∧ n < 0xDC00 ∧ 0xDC00 ≤ m ∧ m < 0xE000 then
      Char.ofNat (0x10000 + (n - 0xD800) * 0x400 + (m - 0xDC00)) :: ofCodes rest
    else if 0xD800 ≤ n ∧ n < 0xE000 then
      Char.ofNat 0xFFFD :: ofCodes (m :: rest)
    else
      Char.ofNat n :: ofCodes (m :: rest)

/-- The text of a plain or single-quoted scalar. -/
def foldRaw (source : List Char) : List Char :=
  ofCodes (foldPieces (.inLine []) (source.map .raw))

/-- The code point of a one-letter escape. -/
def escapeCode? (c : Char) : Option Nat :=
  match c with
  | '0' => some 0
  | 'a' => some 7
  | 'b' => some 8
  | 't' => some 9
  | '\t' => some 9
  | 'n' => some 10
  | 'v' => some 11
  | 'f' => some 12
  | 'r' => some 13
  | 'e' => some 27
  | ' ' => some 0x20
  | '"' => some 0x22
  | '/' => some 0x2F
  | '\\' => some 0x5C
  | 'N' => some 0x85
  | '_' => some 0xA0
  | 'L' => some 0x2028
  | 'P' => some 0x2029
  | _ => none

/-- The number of hexadecimal digits after an escape letter. -/
def escapeDigits? (c : Char) : Option Nat :=
  match c with
  | 'x' => some 2
  | 'u' => some 4
  | 'U' => some 8
  | _ => none

/-- Where the decoding of a double-quoted scalar stands: in text, after a backslash, or in the
digits of a numeric escape. -/
inductive EscapeState where
  | text
  | backslash
  | digits (left value : Nat)
deriving Repr

/-- The pieces of the text between double quotes. -/
def decodeEscapes : EscapeState → List Char → Except Flaw (List Piece)
  | .text, [] => .ok []
  | _, [] => .error .badEscape
  | .text, c :: rest =>
    if c = '\\' then decodeEscapes .backslash rest
    else (decodeEscapes .text rest).map (.raw c :: ·)
  | .backslash, c :: rest =>
    if c = '\n' then (decodeEscapes .text rest).map (.joint :: ·)
    else
      match escapeCode? c, escapeDigits? c with
      | some n, _ => (decodeEscapes .text rest).map (.code n :: ·)
      | none, some count => decodeEscapes (.digits count 0) rest
      | none, none => .error .badEscape
  | .digits left value, c :: rest =>
    if isHex c then
      let value := value * 16 + digitsValue 16 [c]
      if left ≤ 1 then
        if value < 0x110000 then (decodeEscapes .text rest).map (.code value :: ·)
        else .error .badEscape
      else decodeEscapes (.digits (left - 1) value) rest
    else .error .badEscape

/-- The text of a double-quoted scalar. -/
def foldEscaped (source : List Char) : Except Flaw (List Char) :=
  (decodeEscapes .text source).map fun pieces => ofCodes (foldPieces (.inLine []) pieces)

/-- Single quotes written twice stand for one. -/
def unpairQuotes : List Char → List Char
  | '\x27' :: '\x27' :: rest => '\x27' :: unpairQuotes rest
  | c :: rest => c :: unpairQuotes rest
  | [] => []

/-- Reads on to the closing double quote: the text before it and the position after it. Lines after
the first are indented by at least `least`. -/
def scanDouble (least : Nat) (escaped : Bool) (seen : List Char) :
    List Char → Cursor → Except Flaw (List Char × Cursor)
  | [], _ => .error .unclosedQuote
  | c :: rest, cursor =>
    let after := cursor.step c rest
    if c = '"' ∧ !escaped then .ok (seen.reverse, after)
    else if c = '\n' ∧ !continuesScalar least rest then .error .unclosedQuote
    else scanDouble least (c == '\\' && !escaped) (c :: seen) rest after

/-- Reads on to the closing single quote; `pending` says that the last character was a quote that
may close the scalar or be the first of two. -/
def scanSingle (least : Nat) (pending : Bool) (seen : List Char) :
    List Char → Cursor → Except Flaw (List Char × Cursor)
  | [], cursor => if pending then .ok (seen.reverse, cursor) else .error .unclosedQuote
  | c :: rest, cursor =>
    let after := cursor.step c rest
    if pending then
      if c = '\x27' then scanSingle least false ('\x27' :: '\x27' :: seen) rest after
      else .ok (seen.reverse, cursor)
    else if c = '\x27' then scanSingle least true seen rest after
    else if c = '\n' ∧ !continuesScalar least rest then .error .unclosedQuote
    else scanSingle least false (c :: seen) rest after

/-- The quoted scalar at the cursor. -/
def readQuoted (least : Nat) (cursor : Cursor) : Except Flaw (List Char × Cursor) := do
  match cursor.rest with
  | '"' :: rest =>
    let (source, after) ← scanDouble least false [] rest (cursor.step '"' rest)
    return (← foldEscaped source, after)
  | '\x27' :: rest =>
    let (source, after) ← scanSingle least false [] rest (cursor.step '\x27' rest)
    return (unpairQuotes (foldRaw source), after)
  | _ => throw .unclosedQuote

/-- Reads a plain scalar on: `kept` is the text so far and `pending` the blanks and breaks since its
last other character, both newest first, and `mark` the position after `kept`. -/
def scanPlain (inFlow : Bool) (least : Nat) (kept pending : List Char) (mark : Cursor) :
    List Char → Cursor → List Char × Cursor
  | [], _ => (kept.reverse, mark)
  | c :: rest, cursor =>
    let after := cursor.step c rest
    if c = '\n' then
      let stops := !continuesScalar least rest ||
        (rest.dropWhile (· == ' ')).head? == some '#'
      if stops then (kept.reverse, mark)
      else scanPlain inFlow least kept (c :: pending) mark rest after
    else if isSpaceTab c then
      if rest.head? == some '#' then (kept.reverse, mark)
      else scanPlain inFlow least kept (c :: pending) mark rest after
    else if c = ':' ∧ (startsEmpty rest ∨ (inFlow ∧ startsFlowIndicator rest)) then
      (kept.reverse, mark)
    else if inFlow ∧ isFlowIndicator c then
      (kept.reverse, mark)
    else
      scanPlain inFlow least (c :: pending ++ kept) [] after rest after

/-- The characters with which no plain scalar starts. -/
def badPlainStart (c : Char) : Bool :=
  c == ',' || c == '%' || c == '|' || c == '>' || c == '@' || c == '\x60' || c == ']' ||
    c == '\x7d'

/-- The plain scalar at the cursor, folded. -/
def readPlain (inFlow : Bool) (least : Nat) (cursor : Cursor) :
    Except Flaw (List Char × Cursor) :=
  match cursor.rest with
  | c :: rest =>
    if badPlainStart c then .error .badPlainStart
    else
      let after := cursor.step c rest
      let (source, mark) := scanPlain inFlow least [c] [] after rest after
      .ok (foldRaw source, mark)
  | [] => .error .badPlainStart

end BridgeCode.Yaml
