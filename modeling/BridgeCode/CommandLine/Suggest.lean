import BridgeCode.Text.Units

/-!
Suggestions for a mistyped word: the candidates at the least distance from it.

The distance of two words is the number of characters to insert, delete, replace or swap with their
neighbour, where no part is changed twice. Words are compared by code units.
-/

namespace BridgeCode.CommandLine

/-- The greatest distance at which a word is suggested. -/
def maxDistance : Nat := 3

/-- One row of the table of distances: those of the front of `a` that ends with `c` to all fronts of
`b`. `last` is the row before, and `swap` the character before `c` with the row before that. -/
def distanceRow (b : Array Nat) (c : Nat) (last : Array Nat) (swap : Option (Nat × Array Nat)) :
    Array Nat :=
  (List.range b.size).foldl (fun row j =>
    let d := b.getD j 0
    let plain := min (min (row.getD j 0 + 1) (last.getD (j + 1) 0 + 1))
      (last.getD j 0 + if c = d then 0 else 1)
    let swapped := match swap with
      | some (before, twoBack) =>
        if 0 < j ∧ before = d ∧ b.getD (j - 1) 0 = c then min plain (twoBack.getD (j - 1) 0 + 1)
        else plain
      | none => plain
    row.push swapped) #[last.getD 0 0 + 1]

/-- The last row of the table of distances. -/
def distanceRows (b : Array Nat) : List Nat → Array Nat → Option (Nat × Array Nat) → Array Nat
  | [], last, _ => last
  | c :: rest, last, swap =>
    distanceRows b rest (distanceRow b c last swap) (some (c, last))

/-- The distance of two words. Words of very different length are as far apart as can be. -/
def editDistance (a b : List Nat) : Nat :=
  if a.length > b.length + maxDistance ∨ b.length > a.length + maxDistance then
    max a.length b.length
  else
    (distanceRows b.toArray a (Array.range (b.length + 1)) none).getD b.length 0

/-- The best distance so far, and the candidates at that distance. -/
abbrev Nearest := Nat × List String

/-- Considers one more candidate. Less than two fifths in common is too little. -/
def consider (word : String) (nearest : Nearest) (candidate : String) : Nearest :=
  let w := Text.unitList word
  let c := Text.unitList candidate
  let length := max w.length c.length
  let distance := editDistance w c
  if c.length ≤ 1 ∨ 5 * (length - distance) ≤ 2 * length then nearest
  else if distance < nearest.1 then (distance, [candidate])
  else if distance = nearest.1 then (distance, nearest.2 ++ [candidate])
  else nearest

/-- The text behind a message about an unknown word: the candidates that may have been meant. The
dashes in front of a long option do not count. -/
def suggestion (word : String) (candidates : List String) : String :=
  let dashed := "--".toList.isPrefixOf word.toList
  let bare (text : String) := if dashed then String.ofList (text.toList.drop 2) else text
  let (_, similar) := (candidates.eraseDups.map bare).foldl (consider (bare word)) (maxDistance, [])
  let shown := (Text.sortByUnits similar).map fun name => if dashed then "--" ++ name else name
  match shown with
  | [] => ""
  | [single] => "\n(Did you mean " ++ single ++ "?)"
  | several => "\n(Did you mean one of " ++ ", ".intercalate several ++ "?)"

end BridgeCode.CommandLine
