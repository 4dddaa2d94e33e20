/-!
Text measured and ordered in UTF-16 code units.

Columns, offsets and sort order of the generated files count code units: a character above U+FFFF
counts twice, and it sorts by its surrogates, before U+E000 to U+FFFF.

A text is a sequence of characters throughout, so it is well-formed Unicode and no surrogate stands
alone in it. Only on their way to a file are texts sequences of code units, which need not be well
formed.
-/

namespace BridgeCode.Text

/-- Number of code units of one character. -/
def charUnits (c : Char) : Nat :=
  if c.toNat < 0x10000 then 1 else 2

/-- Length of a list of characters in code units. -/
def listUnits : List Char → Nat
  | [] => 0
  | c :: rest => charUnits c + listUnits rest

/-- Length of a text in code units. -/
def units (s : String) : Nat :=
  listUnits s.toList

/-- The code units of one character: itself, or its two surrogates. -/
def encodeUnits (c : Char) : List Nat :=
  if c.toNat < 0x10000 then
    [c.toNat]
  else
    [0xD800 + (c.toNat - 0x10000) / 0x400, 0xDC00 + (c.toNat - 0x10000) % 0x400]

/-- The code units of a text, in order. -/
def unitList (s : String) : List Nat :=
  s.toList.flatMap encodeUnits

/-- Lexicographic order on lists of numbers. -/
def lexLE : List Nat → List Nat → Bool
  | [], _ => true
  | _ :: _, [] => false
  | a :: as, b :: bs => a < b || (a == b && lexLE as bs)

/-- The order of texts by code units, in which files and includes are listed. -/
def unitLE (s t : String) : Bool :=
  lexLE (unitList s) (unitList t)

/-- Texts in code-unit order. -/
def sortByUnits (names : List String) : List String :=
  names.mergeSort unitLE

/-- Drops characters from the front until at least `count` code units are gone. -/
def dropUnits : Nat → List Char → List Char
  | 0, cs => cs
  | _ + 1, [] => []
  | count + 1, c :: rest => dropUnits (count + 1 - charUnits c) rest
termination_by _ cs => cs.length

/-- The longest prefix of at most `count` code units. It ends in front of a character of which only
the first half would be in it. -/
def takeUnits : Nat → List Char → List Char
  | _, [] => []
  | count, c :: rest =>
    if charUnits c ≤ count then c :: takeUnits (count - charUnits c) rest else []

theorem charUnits_pos (c : Char) : 0 < charUnits c := by
  unfold charUnits
  split <;> omega

theorem listUnits_append (as bs : List Char) :
    listUnits (as ++ bs) = listUnits as + listUnits bs := by
  induction as with
  | nil => simp [listUnits]
  | cons c rest ih => simp [listUnits, ih, Nat.add_assoc]

theorem units_append (s t : String) : units (s ++ t) = units s + units t := by
  simp [units, String.toList_append, listUnits_append]

/-- The code units of a front of a text are the front. -/
theorem takeUnits_listUnits_append (front rest : List Char) :
    takeUnits (listUnits front) (front ++ rest) = front := by
  induction front with
  | nil =>
    cases rest with
    | nil => rfl
    | cons c rest => simp [takeUnits, listUnits, Nat.ne_of_gt (charUnits_pos c)]
  | cons c front ih => simp [takeUnits, listUnits, ih]

end BridgeCode.Text
