import BridgeCode.Text.CaseTable

/-!
Upper and lower case of text, with the full Unicode mappings.

A character may map to several (`ß` to `SS`), and a capital sigma lowers to `ς` at the end of a
word and to `σ` elsewhere. ASCII characters take the short way and never reach a table.
-/

namespace BridgeCode.Text

open CaseTable

/-- The characters of a table entry: its expansion if it has one, else its single mapping, else
the character itself. -/
def mapChar (expansions : List (Nat × List Nat)) (runs : List Run) (c : Char) : List Char :=
  match expansions.lookup c.toNat with
  | some codes => codes.map Char.ofNat
  | none =>
    match map? runs c.toNat with
    | some code => [Char.ofNat code]
    | none => [c]

/-- Upper case of one character. -/
def upperChar (c : Char) : List Char :=
  if c.toNat < 0x80 then [c.toUpper] else mapChar upperExpansions upperRuns c

/-- Lower case of one character, away from the sigma rule. -/
def lowerChar (c : Char) : List Char :=
  if c.toNat < 0x80 then [c.toLower] else mapChar lowerExpansions lowerRuns c

/-- Upper case of a text. -/
def upper (s : String) : String :=
  String.ofList (s.toList.flatMap upperChar)

/-- Whether a character is skipped around a capital sigma. -/
def isIgnorable (c : Char) : Bool :=
  covers ignorableRanges c.toNat

/-- Whether a character that is not skipped is cased. -/
def isCased (c : Char) : Bool :=
  covers casedRanges c.toNat

/-- Whether the first character that is not skipped is cased. -/
def startsCased : List Char → Bool
  | [] => false
  | c :: rest => if isIgnorable c then startsCased rest else isCased c

/-- Lower case of the rest of a text; `afterCased` says whether the last character before it that
is not skipped is cased. -/
def lowerFrom (afterCased : Bool) : List Char → List Char
  | [] => []
  | c :: rest =>
    let here :=
      if c = 'Σ' then
        if afterCased && !startsCased rest then ['ς'] else ['σ']
      else
        lowerChar c
    here ++ lowerFrom (if isIgnorable c then afterCased else isCased c) rest

/-- Lower case of a text. Paths that agree in lower case may not be told apart by a file system. -/
def lower (s : String) : String :=
  String.ofList (lowerFrom false s.toList)

/-- Upper case of the first code unit of a text: a character above U+FFFF stays as it is. -/
def firstUpper (s : String) : String :=
  match s.toList with
  | [] => s
  | c :: rest =>
    if c.toNat < 0x10000 then String.ofList (upperChar c ++ rest) else s

end BridgeCode.Text
