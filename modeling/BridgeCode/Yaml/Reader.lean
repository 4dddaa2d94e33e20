import BridgeCode.Yaml.BlockScalar
import BridgeCode.Yaml.Folding
import BridgeCode.Yaml.Scalar
import BridgeCode.Number.Shortest

/-!
Reading a YAML text as one document value.

The reader walks the text once and follows the indentation: a block collection sits at the column of
its first entry, its entries all start there, and whatever an entry holds is indented further; only
a sequence that is the value of a key may start at the key's own column. Flow collections and
scalars may run over lines that are indented further than the collection around them. Anchors are
remembered as they are passed, so an alias stands for the last node of its name before it.

Every step takes a smaller amount of fuel, which is computed from the length of the text.
-/

namespace BridgeCode.Yaml

/-- The state of the reader: where it is, and the anchored nodes so far, newest first. -/
structure ReaderState where
  cursor : Cursor
  anchors : List (String × Value) := []

/-- A step of the reader. -/
abbrev Read := StateT ReaderState (Except Flaw)

/-- Anchor and tag of a node. -/
structure Properties where
  anchor : Option String := none
  tag : Option Tag := none

/-- Whether a node has neither anchor nor tag. -/
def Properties.isEmpty (props : Properties) : Bool :=
  props.anchor.isNone && props.tag.isNone

/-- Properties given in two places: each of them at most once. -/
def Properties.merge (a b : Properties) : Except Flaw Properties :=
  if (a.anchor.isSome && b.anchor.isSome) || (a.tag.isSome && b.tag.isSome) then
    .error .repeatedProperty
  else
    .ok ⟨a.anchor.or b.anchor, a.tag.or b.tag⟩

/-- What a node turned out to be: its value, and whether it was quoted or bracketed, so that a colon
may follow it directly. -/
structure Content where
  value : Value
  delimited : Bool := false

/-- Where a block node may stand: `parent` is the column of the collection around it (none for the
whole document), `compact` allows a block collection to start on the current line, and `keyed`
allows a sequence at the parent's own column. -/
structure Place where
  parent : Option Nat
  compact : Bool
  keyed : Bool

/-- The least indentation of lines that continue a node at this place. -/
def Place.least (place : Place) : Nat :=
  match place.parent with
  | some column => column + 1
  | none => 0

namespace Read

/-- The current position. -/
def here : Read Cursor := return (← get).cursor

/-- Moves to a position. -/
def moveTo (cursor : Cursor) : Read Unit := modify ({ · with cursor })

/-- Skips to the next content. -/
def skipGap : Read Unit := do moveTo (← (← here).gap)

/-- Remembers an anchored value. -/
def remember (props : Properties) (value : Value) : Read Unit :=
  match props.anchor with
  | some name => modify fun s => { s with anchors := (name, value) :: s.anchors }
  | none => pure ()

end Read

open Read

/-- The characters of an anchor's or alias's name. -/
def isAnchorChar (c : Char) : Bool :=
  !(isSpaceTab c || c == '\n' || c == '\r' || isFlowIndicator c)

/-- The characters of a tag. -/
def isTagChar (c : Char) : Bool :=
  c.isAlphanum || "-#;/?:@&=+$_.!~*'()%".toList.contains c

/-- The meaning of a tag as it is spelled, without its first exclamation mark. -/
def resolveTag (spelling : List Char) : Except Flaw Tag :=
  let coreName := "tag:yaml.org,2002:".toList
  match spelling with
  | [] => .ok .other
  | '<' :: rest =>
    let name := rest.takeWhile (· != '>')
    if rest.length = name.length + 1 ∧ name ≠ ['!'] ∧ name ≠ ['!', '!'] then
      if coreName.isPrefixOf name then
        .ok (.core (String.ofList (name.drop coreName.length)))
      else .ok .other
    else .error .badTag
  | '!' :: name =>
    if name.isEmpty ∨ name.contains '!' then .error .badTag else .ok (.core (String.ofList name))
  | name => if name.contains '!' then .error .badTag else .ok .other

/-- Reads the property at the cursor, if there is one. It is separated by a blank from what follows.
-/
def readProperty? : Read (Option Properties) := do
  let cursor ← here
  match cursor.rest with
  | '&' :: rest =>
    let name := rest.takeWhile isAnchorChar
    if name.isEmpty then throw .badAnchor
    moveTo (cursor.advance (1 + name.length))
    return some { anchor := some (String.ofList name) }
  | '!' :: rest =>
    let spelling := match rest with
      | '<' :: verbatim =>
        let name := verbatim.takeWhile fun c => c != '>' && !startsEmpty [c]
        '<' :: (if (verbatim.drop name.length).head? == some '>' then name ++ ['>'] else name)
      | _ => rest.takeWhile isTagChar
    let tag ← resolveTag spelling
    moveTo (cursor.advance (1 + spelling.length))
    return some { tag := some tag }
  | _ => return none

/-- Reads the properties on the current line; each ends at a blank, or in a flow collection at a
comma. -/
def readProperties (inFlow : Bool) : (tries : Nat) → Properties → Read Properties
  | 0, props => return props
  | tries + 1, props => do
    match ← readProperty? with
    | none => return props
    | some more =>
      let props ← props.merge more
      let cursor ← here
      if startsEmpty cursor.rest || (inFlow && startsFlowIndicator cursor.rest) then
        moveTo cursor.skipBlanks
        readProperties inFlow tries props
      else throw .missingSeparation

/-- The value of a scalar's text: its tag decides, else a plain text is resolved and a quoted one is
a string. -/
def scalarValue (props : Properties) (plain : Bool) (text : List Char) : Value :=
  match props.tag with
  | some tag => tag.resolve text
  | none => if plain then resolvePlain text else .str (String.ofList text)

/-- The empty node. -/
def emptyNode (props : Properties) : Read Value := do
  let value := scalarValue props true []
  remember props value
  return value

/-- Equal keys: scalars of the same type and value. Two not-a-numbers differ. -/
def sameKey : Value → Value → Bool
  | .null, .null => true
  | .bool a, .bool b => a == b
  | .str a, .str b => a == b
  | .num a, .num b =>
    match a, b with
    | .finite _ 0 _, .finite _ 0 _ => true
    | .nan, _ => false
    | a, b => a == b
  | _, _ => false

mutual

/-- A value written on one line, the form in which a collection serves as a key. -/
def keyText : Value → String
  | .null => "null"
  | .bool b => if b then "true" else "false"
  | .num n => n.text
  | .str s => s
  | .list items =>
    if items.isEmpty then "[]" else "[ " ++ ", ".intercalate (keyTextItems items) ++ " ]"
  | .map fields =>
    if fields.isEmpty then "\x7b\x7d"
    else "\x7b " ++ ", ".intercalate (keyTextFields fields) ++ " \x7d"

/-- Items of a list that serves as a key. -/
def keyTextItems : List Value → List String
  | [] => []
  | item :: rest => keyText item :: keyTextItems rest

/-- Fields of a map that serves as a key. -/
def keyTextFields : List (String × Value) → List String
  | [] => []
  | (key, value) :: rest => (key ++ ": " ++ keyText value) :: keyTextFields rest

end

/-- The field name of a key: an empty one for null. -/
def fieldName : Value → String
  | .null => ""
  | key => keyText key

/-- A map of the entries read, newest first. -/
def mapOfEntries (entries : List (Value × Value)) : Value :=
  .ofFields (entries.reverse.map fun (key, value) => (fieldName key, value))

/-- The entries with one more, whose key must be new. -/
def addEntry (key value : Value) (entries : List (Value × Value)) :
    Except Flaw (List (Value × Value)) :=
  if entries.any fun entry => sameKey entry.1 key then .error (.duplicateKey (fieldName key))
  else .ok ((key, value) :: entries)

/-- The alias at the cursor. -/
def readAlias : Read Value := do
  let cursor ← here
  let name := (cursor.rest.drop 1).takeWhile isAnchorChar
  if name.isEmpty then throw .badAnchor
  moveTo (cursor.advance (1 + name.length))
  match (← get).anchors.lookup (String.ofList name) with
  | some value => return value
  | none => throw (.unknownAlias (String.ofList name))

/-- Skips to the next content inside a flow collection at nesting `depth`. A line that starts there
is indented by at least `least`; only the outermost closing bracket may stand one column less. -/
def skipFlowGap (least depth : Nat) : Read Unit := do
  let before ← here
  skipGap
  let cursor ← here
  if cursor.rest.isEmpty then throw .unclosedFlow
  if cursor.line > before.line then
    let closing := cursor.rest.head? == some ']' || cursor.rest.head? == some '\x7d'
    let short := cursor.indent < least && !(cursor.indent + 1 == least && depth == 1 && closing)
    if short || (cursor.column == 0 && startsMarker cursor.rest) then throw .unclosedFlow

/-- Whether a colon stands here that separates a key from its value in a flow collection. -/
def atFlowColon (delimited : Bool) (cursor : Cursor) : Bool :=
  match cursor.rest with
  | ':' :: rest => delimited || startsEmpty rest || startsFlowIndicator rest
  | _ => false

/-- Whether the indicator `c` stands here in a flow collection. -/
def atFlowIndicator (c : Char) (cursor : Cursor) : Bool :=
  match cursor.rest with
  | d :: rest => d == c && (startsEmpty rest || startsFlowIndicator rest)
  | [] => false

mutual

/-- A node inside a flow collection: empty before a comma, a colon or a closing bracket. -/
def flowNode (least depth : Nat) : (fuel : Nat) → Read Content
  | 0 => throw .tooDeep
  | fuel + 1 => do
    let props ← readProperties true fuel {}
    if !props.isEmpty then skipFlowGap least depth
    let cursor ← here
    match cursor.rest with
    | [] => throw .unclosedFlow
    | c :: _ =>
      if c == ',' || c == ']' || c == '\x7d' || atFlowColon false cursor then
        return { value := ← emptyNode props }
      else if atFlowIndicator '-' cursor then throw .misplacedCollection
      else if c == '*' then
        if !props.isEmpty then throw .repeatedProperty
        return { value := ← readAlias }
      else if c == '[' || c == '\x7b' then
        let value ← flowCollection least (depth + 1) fuel
        remember props value
        return { value, delimited := true }
      else
        let plain := !(c == '"' || c == '\x27')
        let (text, after) ← if plain then readPlain true least cursor else readQuoted least cursor
        moveTo after
        let value := scalarValue props plain text
        remember props value
        return { value, delimited := !plain }
termination_by structural fuel => fuel

/-- The flow collection at the cursor, from its opening to its closing bracket. -/
def flowCollection (least depth : Nat) : (fuel : Nat) → Read Value
  | 0 => throw .tooDeep
  | fuel + 1 => do
    let cursor ← here
    moveTo cursor.next
    if cursor.rest.head? == some '[' then
      return .list (← flowItems least depth [] fuel)
    else
      return mapOfEntries (← flowEntries least depth [] fuel)
termination_by structural fuel => fuel

/-- The items of a flow sequence; a pair of key and value is a map of one entry. -/
def flowItems (least depth : Nat) (items : List Value) : (fuel : Nat) → Read (List Value)
  | 0 => throw .tooDeep
  | fuel + 1 => do
    skipFlowGap least depth
    let start ← here
    if start.rest.head? == some ']' then
      moveTo start.next
      return items.reverse
    if start.rest.head? == some ',' then throw .unexpectedComma
    let explicit := atFlowIndicator '?' start
    if explicit then
      moveTo start.next
      skipFlowGap least depth
    let key ← flowNode least depth fuel
    skipFlowGap least depth
    let cursor ← here
    if atFlowColon key.delimited cursor then
      if !explicit && cursor.line != start.line then throw .keyNotOnOneLine
      moveTo cursor.next
      skipFlowGap least depth
      let value ← flowNode least depth fuel
      let entries ← addEntry key.value value.value []
      flowItemEnd least depth (mapOfEntries entries :: items) fuel
    else if explicit then
      flowItemEnd least depth (mapOfEntries [(key.value, .null)] :: items) fuel
    else
      flowItemEnd least depth (key.value :: items) fuel
termination_by structural fuel => fuel

/-- The comma after an item, or the closing bracket. -/
def flowItemEnd (least depth : Nat) (items : List Value) : (fuel : Nat) → Read (List Value)
  | 0 => throw .tooDeep
  | fuel + 1 => do
    skipFlowGap least depth
    let cursor ← here
    match cursor.rest with
    | ',' :: _ =>
      moveTo cursor.next
      flowItems least depth items fuel
    | ']' :: _ =>
      moveTo cursor.next
      return items.reverse
    | _ => throw .missingComma
termination_by structural fuel => fuel

/-- The entries of a flow map, newest first; an entry without a colon has the value null. -/
def flowEntries (least depth : Nat) (entries : List (Value × Value)) :
    (fuel : Nat) → Read (List (Value × Value))
  | 0 => throw .tooDeep
  | fuel + 1 => do
    skipFlowGap least depth
    let start ← here
    if start.rest.head? == some '\x7d' then
      moveTo start.next
      return entries
    if start.rest.head? == some ',' then throw .unexpectedComma
    if atFlowIndicator '?' start then
      moveTo start.next
      skipFlowGap least depth
    let key ← flowNode least depth fuel
    skipFlowGap least depth
    let cursor ← here
    if atFlowColon key.delimited cursor then
      moveTo cursor.next
      skipFlowGap least depth
      let value ← flowNode least depth fuel
      flowEntryEnd least depth (← addEntry key.value value.value entries) fuel
    else
      flowEntryEnd least depth (← addEntry key.value .null entries) fuel
termination_by structural fuel => fuel

/-- The comma after an entry, or the closing bracket. -/
def flowEntryEnd (least depth : Nat) (entries : List (Value × Value)) :
    (fuel : Nat) → Read (List (Value × Value))
  | 0 => throw .tooDeep
  | fuel + 1 => do
    skipFlowGap least depth
    let cursor ← here
    match cursor.rest with
    | ',' :: _ =>
      moveTo cursor.next
      flowEntries least depth entries fuel
    | '\x7d' :: _ =>
      moveTo cursor.next
      return entries
    | _ => throw .missingComma
termination_by structural fuel => fuel

end

/-- Content that may be the key of a block map: an alias, a flow collection, a quoted or a plain
scalar. -/
def inlineContent (least : Nat) (props : Properties) (fuel : Nat) : Read Content := do
  let cursor ← here
  match cursor.rest with
  | '*' :: _ =>
    if !props.isEmpty then throw .repeatedProperty
    return { value := ← readAlias }
  | c :: _ =>
    if c == '[' || c == '\x7b' then
      let value ← flowCollection least 1 fuel
      remember props value
      return { value, delimited := true }
    else
      let plain := !(c == '"' || c == '\x27')
      let (text, after) ← if plain then readPlain false least cursor else readQuoted least cursor
      moveTo after
      let value := scalarValue props plain text
      remember props value
      return { value, delimited := !plain }
  | [] => throw .unexpectedContent

/-- Whether the content that started at `start` is the key of a block map: a colon follows on its
last line. Such a key stands on one line and is not too long. -/
def isImplicitKey (start : Cursor) : Read Bool := do
  let cursor := (← here).skipBlanks
  if cursor.atIndicator ':' then
    if cursor.line != start.line then throw .keyNotOnOneLine
    if cursor.column > start.column + 1024 then throw .keyTooLong
    moveTo cursor
    return true
  else
    return false

/-- Whether the reader is at the end of a block collection at column `column`: at the end of the
document or at a line indented less. Anything else than an entry at that very column is a fault. -/
def atCollectionEnd (column : Nat) : Read Bool := do
  skipGap
  let cursor ← here
  if cursor.atDocumentEnd then return true
  if !cursor.fresh then throw .unexpectedContent
  if cursor.tabbed then throw .tabIndentation
  if cursor.column < column then return true
  if cursor.column > column then throw .unexpectedContent
  return false

/-- Whether nothing at this place is left to read: the document ends, or the next content is not
indented enough. -/
def outOfPlace (place : Place) : Read Bool := do
  let cursor ← here
  if cursor.atDocumentEnd then return true
  if !cursor.fresh then return false
  let bound := place.parent.getD 0
  let bracket := cursor.rest.head? == some '[' || cursor.rest.head? == some '\x7b'
  if cursor.tabbed && cursor.indent ≤ bound && !(place.parent.isNone && bracket) then
    throw .tabIndentation
  match place.parent with
  | none => return false
  | some parent =>
    if cursor.indent > parent then return false
    return !(place.keyed && cursor.indent == parent && cursor.atIndicator '-')

mutual

/-- A node of a block collection or of the document. -/
def blockNode (place : Place) : (fuel : Nat) → Read Value
  | 0 => throw .tooDeep
  | fuel + 1 => do
    skipGap
    if ← outOfPlace place then emptyNode {}
    else
      let first ← here
      let props ← readProperties false fuel {}
      let cursor ← here
      if props.isEmpty then blockContent place {} {} first fuel
      else if startsEmpty cursor.rest || cursor.rest.head? == some '#' then
        -- The properties stand on a line of their own: they belong to the whole node.
        skipGap
        if ← outOfPlace place then emptyNode props
        else
          let first ← here
          let more ← readProperties false fuel {}
          blockContent { place with compact := true } props more first fuel
      else
        blockContent place {} props first fuel
termination_by structural fuel => fuel

/-- The content of a block node. `outer` are properties on earlier lines, `inner` those on the line
of the content, and `start` is where that line's part of the node starts. -/
def blockContent (place : Place) (outer inner : Properties) (start : Cursor) :
    (fuel : Nat) → Read Value
  | 0 => throw .tooDeep
  | fuel + 1 => do
    let cursor ← here
    let mayStart := (start.fresh || place.compact) && !start.tabbed
    let collection (read : Read Value) : Read Value := do
      if !mayStart || !inner.isEmpty then throw .misplacedCollection
      let value ← read
      remember outer value
      return value
    if cursor.atIndicator '-' then
      collection (return .list (← sequence cursor.column place [] fuel))
    else if cursor.atIndicator '?' then
      collection (return mapOfEntries (← mapping cursor.column [] fuel))
    else if cursor.atIndicator ':' then
      if !mayStart then throw .misplacedCollection
      let key ← emptyNode inner
      let value := mapOfEntries (← mappingValue start.column key [] fuel)
      remember outer value
      return value
    else if cursor.rest.head? == some '|' || cursor.rest.head? == some '>' then
      let props ← outer.merge inner
      let (text, after) ←
        readBlockScalar (place.parent.getD 0) place.least place.parent.isNone cursor
      moveTo after
      let value := scalarValue props false text
      remember props value
      return value
    else
      let saved ← get
      let content ← inlineContent place.least inner fuel
      if ← isImplicitKey start then
        if !mayStart then throw .misplacedCollection
        let value := mapOfEntries (← mappingValue start.column content.value [] fuel)
        remember outer value
        return value
      else if outer.isEmpty then
        return content.value
      else
        -- Not a key after all: the properties of both lines belong to this one node.
        let props ← outer.merge inner
        set saved
        return (← inlineContent place.least props fuel).value
termination_by structural fuel => fuel

/-- The items of a block sequence at `column`, newest first so far, from a dash on. -/
def sequence (column : Nat) (place : Place) (items : List Value) : (fuel : Nat) → Read (List Value)
  | 0 => throw .tooDeep
  | fuel + 1 => do
    moveTo (← here).next
    let item ← blockNode { parent := some column, compact := true, keyed := false } fuel
    let items := item :: items
    if ← atCollectionEnd column then return items.reverse
    if (← here).atIndicator '-' then sequence column place items fuel
    else if place.parent == some column then return items.reverse
    else throw .unexpectedContent
termination_by structural fuel => fuel

/-- The value of `key` after a colon, and the entries after it. -/
def mappingValue (column : Nat) (key : Value) (entries : List (Value × Value)) :
    (fuel : Nat) → Read (List (Value × Value))
  | 0 => throw .tooDeep
  | fuel + 1 => do
    moveTo (← here).next
    let value ← blockNode { parent := some column, compact := false, keyed := true } fuel
    let entries ← addEntry key value entries
    if ← atCollectionEnd column then return entries
    mapping column entries fuel
termination_by structural fuel => fuel

/-- The entries of a block map at `column`, newest first, from a key on. -/
def mapping (column : Nat) (entries : List (Value × Value)) :
    (fuel : Nat) → Read (List (Value × Value))
  | 0 => throw .tooDeep
  | fuel + 1 => do
    let start ← here
    if start.atIndicator '-' then throw .unexpectedContent
    else if start.atIndicator '?' then
      moveTo start.next
      let key ← blockNode { parent := some column, compact := true, keyed := false } fuel
      if ← atCollectionEnd column then
        addEntry key .null entries
      else if (← here).atIndicator ':' then
        moveTo (← here).next
        let value ← blockNode { parent := some column, compact := true, keyed := true } fuel
        let entries ← addEntry key value entries
        if ← atCollectionEnd column then return entries
        mapping column entries fuel
      else
        mapping column (← addEntry key .null entries) fuel
    else
      let props ← readProperties false fuel {}
      if (← here).atIndicator ':' then
        mappingValue column (← emptyNode props) entries fuel
      else
        let content ← inlineContent column props fuel
        if ← isImplicitKey start then mappingValue column content.value entries fuel
        else throw .keyWithoutValue
termination_by structural fuel => fuel

end

/-- Whether a directive line is well formed. Unknown directives are let pass. -/
def directiveOk (line : List Char) : Bool :=
  let parts := (splitWords line).filter (!·.isEmpty)
  match parts with
  | name :: args =>
    if name = "%YAML".toList then
      match args with
      | [version] =>
        let major := version.takeWhile Char.isDigit
        match version.dropWhile Char.isDigit with
        | '.' :: minor => !major.isEmpty && someAll Char.isDigit minor
        | _ => false
      | _ => false
    else if name = "%TAG".toList then args.length == 2
    else true
  | [] => false
where
  /-- The parts of a line between blanks. -/
  splitWords : List Char → List (List Char)
    | [] => [[]]
    | c :: rest =>
      match splitWords rest with
      | [] => [[c]]
      | word :: words => if isSpaceTab c then [] :: word :: words else (c :: word) :: words

/-- Passes the directive lines before a document; `seen` says whether there was one. -/
def skipDirectives (seen : Bool) : (tries : Nat) → Read Bool
  | 0 => return seen
  | tries + 1 => do
    skipGap
    let cursor ← here
    if cursor.fresh && cursor.column == 0 && cursor.rest.head? == some '%' then
      let line := cursor.rest.takeWhile (· != '\n')
      let text := line.take (commentStart line)
      if !directiveOk text then throw .badDirective
      moveTo (cursor.advance line.length)
      skipDirectives true tries
    else return seen
where
  /-- The length of a line up to a comment. -/
  commentStart : List Char → Nat
    | [] => 0
    | c :: rest =>
      if isSpaceTab c && rest.head? == some '#' then 0 else commentStart rest + 1

/-- Checks that nothing but comments follows the document. A further document marker starts a second
document. -/
def expectEnd : Read Unit := do
  skipGap
  let cursor ← here
  match cursor.rest with
  | [] => return
  | '.' :: '.' :: '.' :: _ =>
    if !cursor.atDocumentEnd then throw .unexpectedContent
    moveTo (cursor.advance 3)
    skipGap
    let after ← here
    if after.rest.isEmpty then return
    if after.line == cursor.line then throw .unexpectedContent
    throw .severalDocuments
  | _ => if cursor.atDocumentEnd then throw .severalDocuments else throw .unexpectedContent

/-- The document at the start of the text. -/
def readDocument (fuel : Nat) : Read Value := do
  let directives ← skipDirectives false fuel
  let cursor ← here
  let atStart := cursor.atDocumentEnd && cursor.rest.head? == some '-'
  if directives && !atStart then throw .missingDocumentStart
  if atStart then moveTo (cursor.advance 3)
  else if cursor.atDocumentEnd && !cursor.rest.isEmpty then throw .unexpectedContent
  let value ← blockNode { parent := none, compact := false, keyed := false } fuel
  expectEnd
  return value

/-- A text with its line breaks written as line feeds. -/
def normalizeBreaks : List Char → List Char
  | '\r' :: '\n' :: rest => '\n' :: normalizeBreaks rest
  | c :: rest => c :: normalizeBreaks rest
  | [] => []

/-- The value of a YAML text. A byte-order mark at its start is skipped. -/
def parse (text : String) : Except Flaw Value :=
  let chars := match text.toList with
    | '\uFEFF' :: rest => rest
    | cs => cs
  let chars := normalizeBreaks chars
  let fuel := 8 * chars.length + 64
  (readDocument fuel |>.run { cursor := { rest := chars } }).map (·.1)

end BridgeCode.Yaml
