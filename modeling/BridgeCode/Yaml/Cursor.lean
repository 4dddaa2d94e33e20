import BridgeCode.Yaml.Flaw

/-!
A position in a YAML text, with what the indentation rules ask about it: its line and column, how
far its line is indented, whether anything but blanks precedes it on the line, and whether a tab is
among the blanks just before it.
-/

namespace BridgeCode.Yaml

/-- A position in the text. -/
structure Cursor where
  rest : List Char
  line : Nat := 0
  column : Nat := 0
  /-- Spaces at the start of the line, up to here. -/
  indent : Nat := 0
  /-- Only blanks stand before this position on its line. -/
  fresh : Bool := true
  /-- A tab stands among the blanks right before this position. -/
  tabbed : Bool := false
  /-- The line starts here, or a blank stands right before this position. -/
  spaced : Bool := true
deriving Repr

/-- The blanks within a line. -/
def isSpaceTab (c : Char) : Bool := c == ' ' || c == '\t'

/-- Whether a text starts with a blank, a line break or nothing at all. -/
def startsEmpty : List Char → Bool
  | [] => true
  | c :: _ => isSpaceTab c || c == '\n' || c == '\r'

/-- The characters that structure flow collections. -/
def isFlowIndicator (c : Char) : Bool :=
  c == ',' || c == '[' || c == ']' || c == '\x7b' || c == '\x7d'

/-- Whether a text starts with a flow indicator. -/
def startsFlowIndicator : List Char → Bool
  | [] => false
  | c :: _ => isFlowIndicator c

/-- Whether a line that starts here is a document marker. -/
def startsMarker : List Char → Bool
  | '-' :: '-' :: '-' :: rest => startsEmpty rest
  | '.' :: '.' :: '.' :: rest => startsEmpty rest
  | _ => false

namespace Cursor

/-- The position after the next character `c`. -/
def step (cursor : Cursor) (c : Char) (rest : List Char) : Cursor :=
  if c = '\n' then
    { rest, line := cursor.line + 1 }
  else if c = ' ' then
    { cursor with
      rest, column := cursor.column + 1, spaced := true
      indent := if cursor.fresh && !cursor.tabbed then cursor.indent + 1 else cursor.indent }
  else if c = '\t' then
    { cursor with rest, column := cursor.column + 1, spaced := true, tabbed := true }
  else
    { cursor with
      rest, column := cursor.column + 1, spaced := false, tabbed := false, fresh := false }

/-- The position after one character; the end of the text stays where it is. -/
def next (cursor : Cursor) : Cursor :=
  match cursor.rest with
  | [] => cursor
  | c :: rest => cursor.step c rest

/-- The position after `count` characters. -/
def advance (cursor : Cursor) : Nat → Cursor
  | 0 => cursor
  | count + 1 => cursor.next.advance count

/-- Skips the characters that satisfy the test, along the text `cs` at the cursor. -/
def skipAlong (test : Char → Bool) : List Char → Cursor → Cursor
  | [], cursor => cursor
  | c :: rest, cursor =>
    if test c then skipAlong test rest (cursor.step c rest) else cursor

/-- The position after the blanks on this line. -/
def skipBlanks (cursor : Cursor) : Cursor :=
  skipAlong isSpaceTab cursor.rest cursor

/-- Skips blanks, line breaks and comments along the text; `comment` says whether the text starts
inside a comment. A comment needs a blank before it. -/
def gapAlong (comment : Bool) : List Char → Cursor → Except Flaw Cursor
  | [], cursor => .ok { cursor with rest := [] }
  | c :: rest, cursor =>
    if comment then
      gapAlong (c != '\n') rest (cursor.step c rest)
    else if isSpaceTab c || c == '\n' then
      gapAlong false rest (cursor.step c rest)
    else if c == '#' then
      if cursor.spaced then gapAlong true rest (cursor.step c rest) else .error .missingSeparation
    else
      .ok cursor

/-- The position of the next content. -/
def gap (cursor : Cursor) : Except Flaw Cursor :=
  gapAlong false cursor.rest cursor

/-- Whether the text is at its end or at a document marker. -/
def atDocumentEnd (cursor : Cursor) : Bool :=
  cursor.rest.isEmpty || (cursor.fresh && cursor.column == 0 && startsMarker cursor.rest)

/-- Whether the character `c` stands here as an indicator, that is before a blank or line end. -/
def atIndicator (c : Char) (cursor : Cursor) : Bool :=
  match cursor.rest with
  | [] => false
  | d :: rest => d == c && startsEmpty rest

end Cursor

/-- Whether the line that starts here continues a scalar whose lines are indented by at least
`least`: it is blank, or indented enough and, without a least indentation, no document marker. -/
def continuesScalar (least : Nat) (line : List Char) : Bool :=
  if least = 0 then
    !startsMarker line
  else
    let spaces := (line.takeWhile (· == ' ')).length
    (line.drop spaces).head? == some '\n' || spaces ≥ least

end BridgeCode.Yaml
