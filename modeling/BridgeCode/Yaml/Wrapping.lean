import BridgeCode.Text.Units

/-!
Breaking long scalars into lines of limited width.

A line is broken at the last single space before it is full; the space becomes a line break and the
next line is indented. Without such a space a plain or single-quoted line stays long, and a
double-quoted one is broken anywhere by an escaped line break. Widths count UTF-16 code units.
-/

namespace BridgeCode.Yaml

/-- Lines aim at this width. -/
def lineWidth : Nat := 100

/-- However deep the indentation, this much of a line is left for its content. -/
def minContentWidth : Nat := 20

/-- How a scalar may be broken. -/
inductive WrapMode where
  /-- Plain and single-quoted: only at spaces. -/
  | flow
  /-- Folded block: only at spaces, and never in lines that are indented further. -/
  | block
  /-- Double-quoted: at spaces, else anywhere with an escape. -/
  | quoted
deriving Repr, DecidableEq

/-- A text as cells of one code unit each: a character above U+FFFF takes a second, blank cell. -/
def cells (text : List Char) : Array (Option Char) :=
  (text.flatMap fun c => if Text.charUnits c = 1 then [some c] else [some c, none]).toArray

/-- The characters from cell `first` up to cell `last`, without the latter. -/
def cellText (text : Array (Option Char)) (first last : Nat) : List Char :=
  (text.extract first last).toList.filterMap id

/-- The character at a cell. -/
def charAt? (text : Array (Option Char)) (i : Nat) : Option Char :=
  text[i]?.join

/-- Whether a cell holds a blank. -/
def blankAt (text : Array (Option Char)) (i : Nat) : Bool :=
  charAt? text i == some ' ' || charAt? text i == some '\t'

/-- The end of the line at cell `i`: the next line break or the end of the text. -/
def lineEnd (text : Array (Option Char)) : (fuel : Nat) → Nat → Nat
  | 0, i => i
  | fuel + 1, i =>
    if i ≥ text.size || charAt? text i == some '\n' then i else lineEnd text fuel (i + 1)

/-- Passes the lines from cell `start` on that are indented by more than `indent` blanks. `last` is
where the line before ended; so is the result for the last line passed. -/
def passIndented (text : Array (Option Char)) (indent : Nat) :
    (fuel : Nat) → (last start i : Nat) → Nat
  | 0, last, _, _ => last
  | fuel + 1, last, start, i =>
    if blankAt text i then
      if i < start + indent then passIndented text indent fuel last start (i + 1)
      else
        let stop := lineEnd text text.size (i + 1)
        passIndented text indent fuel stop (stop + 1) (stop + 1)
    else last

/-- The progress of breaking a text. -/
structure WrapState where
  /-- The cell at which the current line is full. -/
  limit : Int
  /-- The last space at which the current line can be broken. -/
  split : Option Nat := none
  previous : Option Char := none
  /-- Where lines are broken, newest first. -/
  breaks : List Nat := []
  /-- Those of the breaks that need an escape. -/
  escaped : List Nat := []
  /-- Whether a line got longer than it should. -/
  overflow : Bool := false
  escapeStart : Int := -1
  escapeEnd : Int := -1

/-- The cells of a line after a break. -/
def stepWidth (indent : Nat) : Nat :=
  max (1 + minContentWidth) (1 + lineWidth - indent)

/-- The length of the escape whose backslash is at cell `i`, less one. -/
def escapeLength (text : Array (Option Char)) (i : Nat) : Nat :=
  match charAt? text (i + 1) with
  | some 'x' => 3
  | some 'u' => 5
  | some 'U' => 9
  | _ => 1

/-- Passes blanks past the width: the cell after them. -/
def passBlanks (text : Array (Option Char)) : (fuel : Nat) → (i : Nat) → Nat
  | 0, i => i
  | fuel + 1, i => if blankAt text (i - 1) then passBlanks text fuel (i + 1) else i

/-- Breaks the text from cell `i` on. Nothing is returned if an escape is wider than a line. -/
def wrapFrom (mode : WrapMode) (indent : Nat) (text : Array (Option Char)) :
    (fuel : Nat) → (i : Nat) → WrapState → Option WrapState
  | 0, _, state => some state
  | fuel + 1, i, state =>
    if i ≥ text.size then some state
    else
      let c := charAt? text i
      let (i, state) :=
        if mode = .quoted ∧ c = some '\\' then
          let stop := i + escapeLength text i
          (stop, { state with escapeStart := i, escapeEnd := stop })
        else (i, state)
      if c = some '\n' then
        let i :=
          if mode = .block then passIndented text indent text.size i (i + 1) (i + 1) else i
        wrapFrom mode indent text fuel (i + 1)
          { state with
            limit := (i + indent + stepWidth indent : Nat), split := none, previous := c }
      else
        let solid (d : Option Char) : Bool :=
          d.isSome && d != some ' ' && d != some '\n' && d != some '\t'
        let next := text[i + 1]?.map (·.getD 'x')
        let split :=
          if c = some ' ' ∧ solid state.previous ∧ solid next then some i else state.split
        let state := { state with split }
        if (i : Int) < state.limit then
          wrapFrom mode indent text fuel (i + 1) { state with previous := some (c.getD 'x') }
        else
          match split with
          | some space =>
            wrapFrom mode indent text fuel (i + 1)
              { state with
                breaks := space :: state.breaks, split := none
                limit := (space + stepWidth indent : Nat), previous := some (c.getD 'x') }
          | none =>
            if mode = .quoted then
              let blankBefore := state.previous == some ' ' || state.previous == some '\t'
              let j := if blankBefore then passBlanks text text.size (i + 1) else i
              let cut : Int :=
                if (j : Int) > state.escapeEnd + 1 then j - 2 else state.escapeStart - 1
              let cut := cut.toNat
              if state.escaped.contains cut then none
              else
                wrapFrom mode indent text fuel (j + 1)
                  { state with
                    breaks := cut :: state.breaks, escaped := cut :: state.escaped, split := none
                    limit := (cut + stepWidth indent : Nat)
                    overflow := state.overflow || blankBefore
                    previous := some ((charAt? text j).getD 'x') }
            else
              wrapFrom mode indent text fuel (i + 1)
                { state with overflow := true, previous := some (c.getD 'x') }

/-- The lines after the breaks, each indented. -/
def brokenLines (indent : Nat) (text : Array (Option Char)) (escaped : List Nat) :
    List Nat → List Char
  | [] => []
  | cut :: rest =>
    let stop := match rest with
      | next :: _ => if next = 0 then text.size else next
      | [] => text.size
    let lead :=
      if escaped.contains cut then cellText text cut (cut + 1) ++ ['\\'] else []
    lead ++ '\n' :: List.replicate indent ' ' ++ cellText text (cut + 1) stop ++
      brokenLines indent text escaped rest

/-- A scalar broken into lines, and whether a line got too long. `startColumn` is the column of its
first line if that differs from the indentation of the others. -/
def wrap (mode : WrapMode) (indent : Nat) (startColumn : Option Nat) (source : List Char) :
    List Char × Bool :=
  let text := cells source
  if text.size ≤ stepWidth indent then (source, false)
  else
    let breakFirst := match startColumn with
      | some column => decide (column > lineWidth - max 2 minContentWidth)
      | none => false
    let limit : Int := match startColumn with
      | some column => if breakFirst then lineWidth - indent else lineWidth - column
      | none => lineWidth - indent
    let start := if mode = .block then passIndented text indent text.size 0 0 0 else 0
    let (first, limit) : Nat × Int :=
      if mode = .block ∧ start > 0 then (start + 1, (start + stepWidth indent : Nat))
      else (0, limit)
    let initial : WrapState := { limit, breaks := if breakFirst then [0] else [] }
    match wrapFrom mode indent text (text.size + 1) first initial with
    | none => (source, false)
    | some state =>
      match state.breaks.reverse with
      | [] => (source, state.overflow)
      | 0 :: rest =>
        let stop := rest.headD text.size
        ('\n' :: List.replicate indent ' ' ++ cellText text 0 stop ++
          brokenLines indent text state.escaped rest, state.overflow)
      | first :: rest =>
        (cellText text 0 first ++ brokenLines indent text state.escaped (first :: rest),
          state.overflow)

end BridgeCode.Yaml
