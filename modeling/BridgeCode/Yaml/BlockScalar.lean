import BridgeCode.Text.Split
import BridgeCode.Yaml.Cursor

/-!
Block scalars: the indented lines after a `|` or `>` header.

A literal keeps its line breaks; in a folded one a break between two lines of text reads as a space,
except around lines that are indented further. The header may fix the indentation and says what
happens to the breaks at the end: one is kept, none (`-`), or all (`+`).
-/

namespace BridgeCode.Yaml

/-- What happens to the line breaks at the end of a block scalar. -/
inductive Chomp where
  | clip
  | strip
  | keep
deriving Repr, DecidableEq

/-- The header of a block scalar. -/
structure BlockHeader where
  folded : Bool
  /-- The indentation, relative to the parent, if the header gives it. -/
  indent : Option Nat := none
  chomp : Option Chomp := none
deriving Repr

/-- Reads the indicators after `|` or `>`: one digit and one sign at most, in any order. -/
def BlockHeader.addIndicators (header : BlockHeader) : List Char → Except Flaw BlockHeader
  | [] => .ok header
  | c :: rest =>
    if header.chomp.isNone ∧ (c = '-' ∨ c = '+') then
      BlockHeader.addIndicators
        { header with chomp := some (if c = '-' then .strip else .keep) } rest
    else if header.indent.isNone ∧ '1' ≤ c ∧ c ≤ '9' then
      BlockHeader.addIndicators { header with indent := some (c.toNat - '0'.toNat) } rest
    else .error .badBlockHeader

/-- A line of a block scalar: the number of spaces it starts with, and what follows them. -/
structure BlockLine where
  spaces : Nat
  content : List Char
deriving Repr

/-- Takes a line apart. -/
def BlockLine.ofChars (line : List Char) : BlockLine :=
  let spaces := (line.takeWhile (· == ' ')).length
  ⟨spaces, line.drop spaces⟩

/-- Whether nothing but spaces stands on the line. -/
def BlockLine.isEmpty (line : BlockLine) : Bool :=
  line.content.isEmpty

/-- A line without its first `trim` characters, which are spaces. -/
def BlockLine.trimmed (line : BlockLine) (trim : Nat) : List Char :=
  List.replicate (line.spaces - trim) ' ' ++ line.content

/-- Lines with a break between each two. -/
def joinLines : List (List Char) → List Char
  | [] => []
  | [line] => line
  | line :: lines => line ++ '\n' :: joinLines lines

/-- How many of the lines belong to a block scalar whose content is indented by `indent`. -/
def blockExtent (indent : Nat) : List (List Char) → Nat
  | [] => 0
  | line :: lines =>
    let parts := BlockLine.ofChars line
    let belongs :=
      if indent = 0 then !startsMarker line else parts.isEmpty || parts.spaces ≥ indent
    if belongs then blockExtent indent lines + 1 else 0

/-- How the text of a folded scalar goes on: what stands before the next text, and whether the last
text was indented further. -/
structure FoldedTail where
  separator : List Char := []
  indented : Bool := false

/-- The text of the content lines of a folded scalar. -/
def foldBlock (trim : Nat) (tail : FoldedTail) : List BlockLine → List Char
  | [] => []
  | line :: lines =>
    if line.spaces > trim ∨ line.content.head? = some '\t' then
      let separator :=
        if tail.separator = [' '] then ['\n']
        else if !tail.indented ∧ tail.separator = ['\n'] then ['\n', '\n']
        else tail.separator
      separator ++ line.trimmed trim ++ foldBlock trim ⟨['\n'], true⟩ lines
    else if line.isEmpty then
      if tail.separator = ['\n'] then '\n' :: foldBlock trim tail lines
      else foldBlock trim { tail with separator := ['\n'] } lines
    else
      tail.separator ++ line.content ++ foldBlock trim ⟨[' '], false⟩ lines

/-- The text of the lines of a block scalar in a collection indented by `parent`; `atRoot` says that
it is the whole document, which need not be indented. -/
def blockText (header : BlockHeader) (parent : Nat) (atRoot : Bool) (lines : List BlockLine) :
    Except Flaw (List Char) :=
  let chomp := header.chomp.getD .clip
  let trailing := (lines.reverse.takeWhile BlockLine.isEmpty).length
  let body := lines.take (lines.length - trailing)
  if body.isEmpty then
    .ok (if chomp = .keep ∧ !lines.isEmpty then List.replicate (max 1 (lines.length - 1)) '\n'
      else [])
  else
    let leading := body.takeWhile BlockLine.isEmpty
    let content := body.drop leading.length
    let first := (content.map BlockLine.spaces).headD 0
    let widest := (leading.map BlockLine.spaces).foldl max parent
    let required := match header.indent with
      | some indent => parent + indent
      | none => widest
    let trim := if header.indent.isSome then required else first
    if first < required then .error .badBlockIndent
    else if trim = 0 ∧ !atRoot then .error .badBlockIndent
    else
      -- Empty lines after the content count as content up to the last one indented further.
      let ending := lines.drop body.length
      let kept := ending.length - (ending.reverse.takeWhile (·.spaces ≤ trim)).length
      let content := content ++ ending.take kept
      let rest := ending.drop kept
      if content.any fun line => !line.isEmpty && line.spaces < trim then .error .badBlockIndent
      else
        let start := leading.flatMap fun line => line.trimmed trim ++ ['\n']
        let text :=
          if header.folded then foldBlock trim {} content
          else joinLines (content.map (·.trimmed trim))
        let value := start ++ text
        .ok (match chomp with
          | .strip => value
          | .clip => value ++ ['\n']
          | .keep =>
            let value := value ++ rest.flatMap fun line => '\n' :: line.trimmed trim
            if value.getLast? = some '\n' then value else value ++ ['\n'])

/-- Reads a block scalar from its header on. Its lines are indented by at least `least`, one more
than the collection at column `parent` that holds it. -/
def readBlockScalar (parent least : Nat) (atRoot : Bool) (cursor : Cursor) :
    Except Flaw (List Char × Cursor) := do
  match cursor.rest with
  | [] => throw .badBlockHeader
  | mark :: rest =>
    let indicators := rest.takeWhile fun c => !(startsEmpty [c] || c == '#')
    let header ← BlockHeader.addIndicators { folded := mark == '>' } indicators
    let after := (cursor.advance (1 + indicators.length)).skipBlanks
    let after ← match after.rest with
      | [] => pure after
      | '\n' :: _ => pure after
      | '#' :: _ =>
        if after.spaced then pure (Cursor.skipAlong (· != '\n') after.rest after)
        else throw .missingSeparation
      | _ => throw .badBlockHeader
    let after := after.next
    let lines := if after.rest.isEmpty then [] else Text.splitOn '\n' after.rest
    let parsed := lines.map BlockLine.ofChars
    let empties := (parsed.takeWhile BlockLine.isEmpty).length
    let first := ((parsed.drop empties).map BlockLine.spaces).headD 0
    let count :=
      if parsed.length = empties then lines.length
      else if first < least then empties
      else
        blockExtent
          (match header.indent with
            | some indent => indent - 1 + (if least = 0 then 1 else least)
            | none => first) lines
    let taken := parsed.take count
    -- Before a line that does not belong to the scalar its text ends with a line break.
    let source := if count < lines.length ∧ count > 0 then taken ++ [⟨0, []⟩] else taken
    let text ← blockText header parent atRoot source
    let rest := if count < lines.length then joinLines (lines.drop count) else []
    return (text, { rest, line := after.line + count })

end BridgeCode.Yaml
