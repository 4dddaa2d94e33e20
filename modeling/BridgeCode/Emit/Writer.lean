import BridgeCode.Fault
import BridgeCode.Text.Utf16

/-!
Writing text line by line with indentation.

A writer puts the current indentation in front of the first text of every line, so an empty line has
none. What was written is kept as the list of texts in the order of the calls, each as its code
units, so that a writer can be handed the halves of a character one by one; `Writer.text` is what
all of them together say. A body of a file is a `Writing`: it can fail at any point, and what was
written before stays.
-/

namespace BridgeCode

/-- The state of a writer. -/
structure Writer where
  /-- The text of one level of indentation. -/
  unit : String := "    "
  /-- The indentation of the next line. -/
  indent : String := ""
  atLineStart : Bool := true
  /-- The texts written so far. -/
  chunks : Array Text.Raw := #[]
deriving Repr

/-- Everything written so far, in one piece. -/
def Writer.raw (writer : Writer) : Text.Raw := writer.chunks.toList.flatten

/-- The text of everything written so far. -/
def Writer.text (writer : Writer) : String := Text.decode writer.raw

/-- An action on a writer that can fail. -/
abbrev Writing (α : Type) := ExceptT Fault (StateM Writer) α

namespace Writing

/-- The result of an action and the writer after it. -/
def runOn {α : Type} (action : Writing α) (writer : Writer) : Except Fault α × Writer :=
  (ExceptT.run action).run writer

/-- Hands a text on as it is. -/
def put (text : Text.Raw) : Writing Unit :=
  modify fun writer => { writer with chunks := writer.chunks.push text }

/-- Writes code units without ending the line. -/
def writeUnits (text : Text.Raw) : Writing Unit := do
  unless text.isEmpty do
    let writer ← get
    if writer.atLineStart then
      put (Text.encode writer.indent)
      modify fun writer => { writer with atLineStart := false }
    put text

/-- Writes text without ending the line. -/
def write (text : String) : Writing Unit := writeUnits (Text.encode text)

/-- Writes text, if any, and ends the line. -/
def line (text : String) : Writing Unit := do
  write text
  put (Text.encode "\n")
  modify fun writer => { writer with atLineStart := true }

/-- An indentation with the length of one level taken off its end. A character above U+FFFF of which
only the second half is in that length is taken off whole: an indentation is a text and has no half
of a character in it. -/
def outdent (unit indent : String) : String :=
  String.ofList (Text.takeUnits (Text.units indent - Text.units unit) indent.toList)

/-- Writes a line one level less indented. After it one level is added again, so an indentation that
was shorter than a level has grown to one. -/
def lineOutdented (text : String) : Writing Unit := do
  modify fun writer => { writer with indent := outdent writer.unit writer.indent }
  line text
  modify fun writer => { writer with indent := writer.indent ++ writer.unit }

/-- Runs an action and puts the indentation back, whether it fails or not. -/
def restoringIndent {α : Type} (action : Writing α) : Writing α :=
  fun writer =>
    let (result, after) := action.runOn writer
    (result, { after with indent := writer.indent })

/-- The failure to repeat a text a negative number of times. -/
def invalidCount (amount : String) : Fault :=
  .raised .range ("Invalid count value: " ++ amount)

/-- Runs an action the given number of levels deeper. A negative number is refused. -/
def nestedBy {α : Type} (amount : Int) (action : Writing α) : Writing α :=
  if amount < 0 then throw (invalidCount (toString amount))
  else restoringIndent do
    modify fun writer =>
      { writer with
        indent := writer.indent ++ String.join (List.replicate amount.toNat writer.unit) }
    action

/-- Runs an action one level deeper. -/
def nested {α : Type} (action : Writing α) : Writing α := nestedBy 1 action

/-- Runs an action between braces, one level deeper. -/
def braced (action : Writing Unit) : Writing Unit := do
  line "\x7b"
  nested action
  line "\x7d"

/-- Ends the line, which stays empty if nothing was written on it. -/
def newline : Writing Unit := line ""

/-- Lines in a row. -/
def lines (texts : List String) : Writing Unit := texts.forM line

end Writing

end BridgeCode
