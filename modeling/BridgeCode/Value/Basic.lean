import BridgeCode.Number.Binary64

/-!
Plain data: what a document holds before it is read as a configuration or as declarations.

The fields of a map are kept in enumeration order: keys that are canonical array indices come first,
by value, then all other keys in the order in which they first appeared.
-/

namespace BridgeCode

open Number (Binary64)

/-- A document value. -/
inductive Value where
  | null
  | bool (value : Bool)
  | num (value : Binary64)
  | str (value : String)
  | list (items : List Value)
  | map (fields : List (String × Value))
deriving Repr, Inhabited

namespace Value

/-- A field list with `key` set to `value`: in place if the key is there, else at the end. -/
def setField (key : String) (value : Value) : List (String × Value) → List (String × Value)
  | [] => [(key, value)]
  | (k, v) :: rest => if k = key then (k, value) :: rest else (k, v) :: setField key value rest

/-- The number a key denotes if it is written as an array index: decimal, without leading zeros,
below `2 ^ 32 - 1`. -/
def arrayIndex? (key : String) : Option Nat :=
  let cs := key.toList
  if cs.isEmpty || !cs.all Char.isDigit || (cs.head? == some '0' && cs.length > 1) then
    none
  else
    let n := cs.foldl (fun acc c => acc * 10 + (c.toNat - '0'.toNat)) 0
    if n < Nat.pow 2 32 - 1 then some n else none

/-- Fields in enumeration order: array indices by value, then the other keys as they stand. -/
def enumerate (fields : List (String × Value)) : List (String × Value) :=
  let indexed := fields.filterMap fun field => (arrayIndex? field.1).map (·, field)
  let sorted := indexed.mergeSort fun a b => a.1 ≤ b.1
  sorted.map (·.2) ++ fields.filter fun field => (arrayIndex? field.1).isNone

/-- The map with the given fields, a later field replacing an earlier one of the same key. -/
def ofFields (fields : List (String × Value)) : Value :=
  .map (enumerate (fields.foldl (fun acc field => setField field.1 field.2 acc) []))

/-- The field of a map. -/
def field? (fields : List (String × Value)) (key : String) : Option Value :=
  fields.lookup key

/-- A list of texts. -/
def strs (items : List String) : Value :=
  .list (items.map .str)

end Value

end BridgeCode
