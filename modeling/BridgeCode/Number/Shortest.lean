import BridgeCode.Number.Binary64

/-!
The text of a binary64 number: the fewest decimal digits that read back as the number, and of those
the nearest to it.

Digits are laid out positionally while the decimal point is at most 21 places to the right or six
zeros to the left, and with an exponent (`1e+21`, `1e-7`) beyond that. Negative zero is written `0`.
-/

namespace BridgeCode.Number

namespace Binary64

/-- Decimal digits with the place of the decimal point: `digits = 125`, `point = 1` is `1.25`. -/
structure Decimal where
  digits : Nat
  point : Int
deriving Repr, DecidableEq

/-- The place of the decimal point of `num / den`: the least `k` with `num / den < 10 ^ k`. -/
def decimalPoint (num den : Nat) : Int :=
  (decimalLength (num * Nat.pow 10 400 / den) : Int) - 400

/-- Of the two decimals of `count` digits around `num / den` those that read back as the given
number, the nearer first. -/
def candidates (num den significand : Nat) (exponent point : Int) (count : Nat) :
    List Nat :=
  let grid := point - count
  let (n, d) :=
    if grid < 0 then (num * Nat.pow 10 (-grid).toNat, den)
    else (num, den * Nat.pow 10 grid.toNat)
  let below := n / d
  let twice := 2 * (n % d)
  let upFirst := twice > d ∨ (twice = d ∧ below % 2 = 1)
  let ordered := if upFirst then [below + 1, below] else [below, below + 1]
  ordered.filter fun digits => ofDecimal false digits grid = .finite false significand exponent

/-- The fewest digits, of at least `count`, that read back; `tries` bounds the search. -/
def shortestFrom (num den significand : Nat) (exponent point : Int) :
    (tries count : Nat) → Decimal
  | 0, _ => ⟨0, 1⟩
  | tries + 1, count =>
    match candidates num den significand exponent point count with
    | digits :: _ => ⟨digits, point + decimalLength digits - count⟩
    | [] => shortestFrom num den significand exponent point tries (count + 1)

/-- The shortest decimal of a positive number. Seventeen digits always suffice. -/
def shortest (significand : Nat) (exponent : Int) : Decimal :=
  let (num, den) :=
    if exponent < 0 then (significand, Nat.pow 2 (-exponent).toNat)
    else (significand * Nat.pow 2 exponent.toNat, 1)
  shortestFrom num den significand exponent (decimalPoint num den) 17 1

/-- Digits without the zeros at their end. -/
def trimZeros (digits : List Char) : List Char :=
  (digits.reverse.dropWhile (· == '0')).reverse

/-- Lays out digits around the decimal point. -/
def layout (decimal : Decimal) : String :=
  let digits := trimZeros (Nat.toDigits 10 decimal.digits)
  let count : Int := digits.length
  let point := decimal.point
  if count ≤ point ∧ point ≤ 21 then
    String.ofList (digits ++ List.replicate (point - count).toNat '0')
  else if 0 < point ∧ point ≤ 21 then
    String.ofList (digits.take point.toNat ++ '.' :: digits.drop point.toNat)
  else if -6 < point ∧ point ≤ 0 then
    String.ofList ("0.".toList ++ List.replicate (-point).toNat '0' ++ digits)
  else
    let exponent := point - 1
    let sign := if exponent < 0 then "-" else "+"
    let mantissa := digits.take 1 ++ (if digits.length > 1 then '.' :: digits.drop 1 else [])
    String.ofList mantissa ++ "e" ++ sign ++ toString exponent.natAbs

/-- The text of a number. -/
def text : Binary64 → String
  | .nan => "NaN"
  | .infinite negative => if negative then "-Infinity" else "Infinity"
  | .finite negative significand exponent =>
    if significand = 0 then "0"
    else (if negative then "-" else "") ++ layout (shortest significand exponent)

end Binary64

end BridgeCode.Number
