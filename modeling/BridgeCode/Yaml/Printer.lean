import BridgeCode.Value.Json
import BridgeCode.Yaml.Scalar
import BridgeCode.Yaml.Wrapping

/-!
Writing a value as a YAML document.

Maps and lists are written as block collections indented by two spaces, empty ones in flow form. A
string is written plainly if it reads back as itself, as a block literal if it has several lines (a
folded block if one of them is too long), and otherwise in quotes: double ones, or single ones if it
holds a double quote and no single one.
-/

namespace BridgeCode.Yaml

/-- Where a scalar is written: the indentation of its further lines, whether it is a key and must
stay on one line, and the column at which its first line starts if that is known. -/
structure Layout where
  indent : Nat
  key : Bool := false
  startColumn : Option Nat := none

/-- Text after each run of line breaks. -/
def afterBreaks (insert : List Char) : List Char → List Char
  | [] => []
  | [c] => if c = '\n' then c :: insert else [c]
  | c :: d :: rest =>
    if c = '\n' ∧ d ≠ '\n' then c :: insert ++ afterBreaks insert (d :: rest)
    else c :: afterBreaks insert (d :: rest)

/-- Text after each run of line breaks except one at the end. -/
def afterInnerBreaks (insert : List Char) : List Char → List Char
  | [] => []
  | [c] => [c]
  | c :: d :: rest =>
    if c = '\n' ∧ d ≠ '\n' then c :: insert ++ afterInnerBreaks insert (d :: rest)
    else c :: afterInnerBreaks insert (d :: rest)

/-- Whether a line that starts here looks like a directive or a document marker. -/
def startsLikeMarker : List Char → Bool
  | '%' :: _ => true
  | '-' :: '-' :: '-' :: _ => true
  | '.' :: '.' :: '.' :: _ => true
  | _ => false

/-- Whether some line of the text looks like a directive or a document marker. -/
def hasMarkerLine (text : List Char) : Bool :=
  startsLikeMarker text || laterLines text
where
  /-- Whether a line after a break does. -/
  laterLines : List Char → Bool
    | [] => false
    | c :: rest => (c == '\n' && startsLikeMarker rest) || laterLines rest

/-- Control characters, which only double quotes can hold. -/
def isControl (c : Char) : Bool :=
  let n := c.toNat
  n ≤ 8 || (11 ≤ n && n ≤ 0x1F) || (0x7F ≤ n && n ≤ 0x9F)

/-! ## Quoted strings -/

/-- The escape of one character between double quotes: JSON's, but control characters by their own
letter or by two hexadecimal digits. -/
def escapeDouble (c : Char) : List Char :=
  match Value.escapeChar c with
  | '\\' :: 'u' :: _ =>
    match c.toNat with
    | 0 => ['\\', '0']
    | 7 => ['\\', 'a']
    | 11 => ['\\', 'v']
    | 27 => ['\\', 'e']
    | n => '\\' :: 'x' :: (Value.hex4 n).drop 2
  | escape => escape

/-- The text between double quotes. With `breaking`, a line break that is not at the end is written
as an empty line, `fresh` telling that the last character was such a break; else all are escaped. A
space next to a break is escaped, too. -/
def doubleBody (breaking : Bool) (indent : List Char) (fresh : Bool) : List Char → List Char
  | [] => []
  | c :: rest =>
    let start := if fresh ∧ c = ' ' then ['\\'] else []
    if c = '\n' then
      if breaking ∧ !rest.isEmpty then
        -- Folding takes one break of a run, so the first is written twice.
        let lead := if fresh then ['\n'] else ['\n', '\n']
        let runEnds := rest.head? != some '\n' || rest.length == 1
        lead ++ (if runEnds then indent else []) ++
          doubleBody breaking indent (!runEnds || rest.head? == some ' ') rest
      else '\\' :: 'n' :: doubleBody breaking indent false rest
    else if c = ' ' ∧ rest.head? = some '\n' then
      start ++ '\\' :: ' ' :: doubleBody breaking indent false rest
    else
      start ++ escapeDouble c ++ doubleBody breaking indent false rest

/-- Double-quoted strings shorter than this are kept on one line. -/
def minMultiLineLength : Nat := 40

/-- The indentation of further lines; at the outermost level none is needed unless a line could be
taken for a document marker. -/
def lineIndent (layout : Layout) (text : List Char) : Nat :=
  if layout.indent = 0 ∧ hasMarkerLine text then 2 else layout.indent

/-- A double-quoted string. -/
def renderDouble (layout : Layout) (text : List Char) : List Char :=
  let indent := lineIndent layout text
  let length := Text.listUnits (text.flatMap Value.escapeChar) + 2
  let breaking := !layout.key && length ≥ minMultiLineLength
  let body := '"' :: doubleBody breaking (List.replicate indent ' ') false text ++ ['"']
  if layout.key then body else (wrap .quoted indent layout.startColumn body).1

/-- Whether a blank stands next to a line break. -/
def blankAtBreak : List Char → Bool
  | c :: d :: rest =>
    (c == '\n' && (d == ' ' || d == '\t')) || (d == '\n' && (c == ' ' || c == '\t')) ||
      blankAtBreak (d :: rest)
  | _ => false

/-- A single-quoted string, or a double-quoted one where blanks around a break would be lost. -/
def renderSingle (layout : Layout) (text : List Char) : List Char :=
  if (layout.key && text.contains '\n') || blankAtBreak text then
    renderDouble layout text
  else
    let indent := lineIndent layout text
    let doubled := text.flatMap fun c => if c = '\x27' then ['\x27', '\x27'] else [c]
    let body :=
      '\x27' :: afterBreaks ('\n' :: List.replicate indent ' ') doubled ++ ['\x27']
    if layout.key then body else (wrap .flow indent layout.startColumn body).1

/-- A quoted string. -/
def renderQuoted (layout : Layout) (text : List Char) : List Char :=
  if text.contains '"' && !text.contains '\x27' then renderSingle layout text
  else renderDouble layout text

/-! ## Block strings -/

/-- Whether some line is longer than the limit. -/
def hasLongLine (limit : Nat) (text : List Char) : Bool :=
  scan 0 text
where
  /-- Whether a line is too long, `width` of it being passed already. -/
  scan (width : Nat) : List Char → Bool
    | [] => width > limit
    | c :: rest =>
      if c = '\n' then width > limit || scan 0 rest else scan (width + Text.charUnits c) rest

/-- Lines that are indented further are not folded, so the breaks around them are written once: the
text from a line start on. -/
def exemptIndented : (fuel : Nat) → (lineStart : Bool) → List Char → List Char
  | 0, _, text => text
  | _ + 1, _, [] => []
  | fuel + 1, true, text =>
    let line := text.takeWhile (· != '\n')
    let after := text.drop line.length
    let isGap (c : Char) : Bool := c == '\n' || c == '\t' || c == ' '
    let run := after.takeWhile isGap
    if run.getLast? = some '\n' then
      line ++ run.dropLast ++ exemptIndented fuel false (after.drop run.length)
    else
      line ++ exemptIndented fuel false after
  | fuel + 1, false, c :: rest =>
    if c = '\n' ∧ (rest.head? = some ' ' ∨ rest.head? = some '\t') then
      exemptIndented fuel true rest
    else c :: exemptIndented fuel false rest

/-- The text of a folded block before it is broken into lines. -/
def foldedBody (indent : List Char) (text : List Char) : List Char :=
  let doubled := afterBreaks ['\n'] text
  let indented := text.head? = some ' ' ∨ text.head? = some '\t'
  afterBreaks indent (exemptIndented (doubled.length + 1) (decide indented) doubled)

/-- A string of several lines as a block scalar. -/
def renderBlock (layout : Layout) (force : Bool) (text : List Char) : List Char :=
  let isEdge (c : Char) : Bool := c == '\n' || c == '\t' || c == ' '
  let ending := (text.reverse.takeWhile isEdge).reverse
  let lastLine := (text.reverse.takeWhile (· != '\n')).reverse
  if text.contains '\n' ∧ !lastLine.isEmpty ∧ lastLine.all fun c => c == ' ' || c == '\t' then
    -- Blanks on a last line of their own would be lost.
    renderQuoted layout text
  else
    let indentWidth :=
      if layout.indent = 0 ∧ (force ∨ hasMarkerLine text) then 2 else layout.indent
    let indent := List.replicate indentWidth ' '
    let chomp :=
      match ending.findIdx? (· == '\n') with
      | none => ['-']
      | some i => if ending.length = text.length ∨ i + 1 ≠ ending.length then ['+'] else []
    let inner := text.take (text.length - ending.length)
    let tail := if ending.getLast? = some '\n' then ending.dropLast else ending
    let tail := afterInnerBreaks indent tail
    let edge := inner.takeWhile fun c => c == ' ' || c == '\n'
    -- The leading empty lines, up to the last break before the first text.
    let leadLength :=
      (edge.reverse.dropWhile (· != '\n')).length
    let lead := edge.take (if leadLength > 0 then leadLength else 0)
    let body := inner.drop lead.length
    let lead := afterBreaks indent lead
    let size := if indentWidth > 0 then ['2'] else ['1']
    let header := (if edge.contains ' ' then size else []) ++ chomp
    let literal :=
      '|' :: header ++ '\n' :: indent ++ lead ++ afterBreaks indent body ++ tail
    if hasLongLine (lineWidth - indentWidth) text then
      let (folded, overflow) :=
        wrap .block indentWidth (some layout.indent) (lead ++ foldedBody indent body ++ tail)
      if overflow then literal else '>' :: header ++ '\n' :: indent ++ folded
    else literal

/-! ## Strings -/

/-- Whether a string cannot be written plainly: it starts with an indicator, ends with a blank or a
colon, or holds a colon or a break before a blank, a blank before a break, or a blank before `#`. -/
def needsQuotes (text : List Char) : Bool :=
  let blank (c : Char) : Bool := c == ' ' || c == '\t'
  let starts := match text with
    | [] => false
    | c :: rest =>
      "\n\t ,[]\x7b\x7d#&*!|>'\"%@\x60".toList.contains c ||
        ((c == '?' || c == '-') && (rest.isEmpty || (rest.head?.map blank).getD false))
  let ends := match text.getLast? with
    | some c => c == '\n' || c == '\t' || c == ' ' || c == ':'
    | none => false
  starts || ends || within text
where
  /-- Two neighbouring characters that a plain string cannot hold. -/
  within : List Char → Bool
    | c :: d :: rest =>
      ((c == '\n' || c == ':') && (d == ' ' || d == '\t')) ||
        ((c == ' ' || c == '\t') && d == '\n') ||
        ((c == '\n' || c == '\t' || c == ' ') && d == '#') || within (d :: rest)
    | _ => false

/-- A string. -/
def renderString (layout : Layout) (value : String) : List Char :=
  let text := value.toList
  let lines := text.contains '\n'
  if text.any isControl then renderDouble layout text
  else if layout.key && lines then renderQuoted layout text
  else if needsQuotes text then
    if lines then renderBlock layout false text else renderQuoted layout text
  else if lines then renderBlock layout false text
  else if hasMarkerLine text && layout.indent == 0 then renderBlock layout true text
  else if hasMarkerLine text && layout.key && layout.indent == 2 then renderQuoted layout text
  else if readsAsOther value then renderQuoted layout text
  else if layout.key then text
  else (wrap .flow layout.indent layout.startColumn text).1

/-! ## Documents -/

/-- A number. -/
def renderNumber : Number.Binary64 → String
  | .nan => ".nan"
  | .infinite negative => if negative then "-.inf" else ".inf"
  | number => number.text

/-- Keys longer than this are written in explicit form. -/
def maxKeyLength : Nat := 1024

/-- A key with its colon, and whether it is in explicit form. -/
def renderKey (indent : Nat) (key : String) : List Char × Bool :=
  let text := renderString { indent := indent + 2, key := true } key
  if Text.listUnits text > maxKeyLength then
    ('?' :: ' ' :: text ++ '\n' :: List.replicate indent ' ' ++ [':'], true)
  else (text ++ [':'], false)

/-- Lines with a break and an indentation between each two. -/
def stackLines (indent : Nat) : List (List Char) → List Char
  | [] => []
  | [line] => line
  | line :: lines => line ++ '\n' :: List.replicate indent ' ' ++ stackLines indent lines

mutual

/-- A value at an indentation; scalars also at a column. -/
def renderValue (layout : Layout) : Value → List Char
  | .null => "null".toList
  | .bool b => (if b then "true" else "false").toList
  | .num n => (renderNumber n).toList
  | .str s => renderString layout s
  | .list items =>
    if items.isEmpty then ['[', ']'] else stackLines layout.indent (renderItems layout.indent items)
  | .map fields =>
    if fields.isEmpty then ['\x7b', '\x7d']
    else stackLines layout.indent (renderFields layout.indent fields)

/-- The items of a list, each after a dash. -/
def renderItems (indent : Nat) : List Value → List (List Char)
  | [] => []
  | item :: rest =>
    ('-' :: ' ' :: renderValue { indent := indent + 2 } item) :: renderItems indent rest

/-- The fields of a map. -/
def renderFields (indent : Nat) : List (String × Value) → List (List Char)
  | [] => []
  | (key, value) :: rest =>
    let (lead, explicit) := renderKey indent key
    let isBlock := match value with
      | .list (_ :: _) => true
      | .map (_ :: _) => true
      | _ => false
    let startColumn := if explicit then none else some (Text.listUnits lead + 1)
    let body := renderValue { indent := indent + 2, startColumn } value
    let gap :=
      if isBlock && !explicit then '\n' :: List.replicate (indent + 2) ' '
      else if !isBlock && body.head? == some '\n' then []
      else [' ']
    (lead ++ gap ++ body) :: renderFields indent rest

end

/-- A value as a document. -/
def print (value : Value) : String :=
  String.ofList (renderValue { indent := 0 } value ++ ['\n'])

end BridgeCode.Yaml
