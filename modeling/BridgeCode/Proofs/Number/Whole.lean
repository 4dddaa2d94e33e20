import BridgeCode.Number.Binary64
import Mathlib.Algebra.Group.Nat.Defs

/-!
Whole numbers in binary64.

* `toInt?_ofNat`: a number below `2 ^ 53` is kept exactly.
* `ofNat_two_pow`: powers of two are kept exactly as long as they are in the range of the format,
  and beyond it they are infinite.
* `ofNat_two_pow_sub_one`: a number of at least 54 binary digits, all of them ones, is rounded to
  the power of two above it.
-/

namespace BridgeCode.Number.Binary64

/-! ## Exponents -/

theorem scaleDown_of_neg {exponent : Int} (negative : exponent < 0) (num den : Nat) :
    scaleDown num den exponent = (num * 2 ^ (-exponent).toNat, den) :=
  if_pos negative

theorem scaleDown_of_nonneg {exponent : Int} (nonneg : 0 ≤ exponent) (num den : Nat) :
    scaleDown num den exponent = (num, den * 2 ^ exponent.toNat) :=
  if_neg (Int.not_lt.2 nonneg)

/-- A whole number that is scaled down by 53 places less than it has keeps at least 53 of them. -/
theorem two_pow_le_scaled {n : Nat} (nonzero : n ≠ 0) :
    2 ^ 53 ≤ (scaleDown n 1 ((n.log2 : Int) - 53)).1 / (scaleDown n 1 ((n.log2 : Int) - 53)).2 := by
  have lower : 2 ^ n.log2 ≤ n := Nat.log2_self_le nonzero
  by_cases short : (n.log2 : Int) - 53 < 0
  · have places : (-((n.log2 : Int) - 53)).toNat = 53 - n.log2 := by omega
    have split : 2 ^ 53 = 2 ^ n.log2 * 2 ^ (53 - n.log2) := by
      rw [← Nat.pow_add, Nat.add_sub_cancel' (by omega)]
    rw [scaleDown_of_neg short, places]
    dsimp only
    rw [Nat.div_one, split]
    exact Nat.mul_le_mul_right _ lower
  · have places : ((n.log2 : Int) - 53).toNat = n.log2 - 53 := by omega
    have split : 2 ^ n.log2 = 2 ^ 53 * 2 ^ (n.log2 - 53) := by
      rw [← Nat.pow_add, Nat.add_sub_cancel' (by omega)]
    rw [scaleDown_of_nonneg (Int.not_lt.1 short), places]
    dsimp only
    rw [Nat.one_mul, Nat.le_div_iff_mul_le (Nat.two_pow_pos _), ← split]
    exact lower

/-- The last of the 53 binary digits of a whole number. -/
theorem unitExponent_one {n : Nat} (nonzero : n ≠ 0) :
    unitExponent n 1 = (n.log2 : Int) - 52 := by
  have guess : max ((n.log2 : Int) - (Nat.log2 1 : Nat) - 53) (-1074) = (n.log2 : Int) - 53 := by
    have one : Nat.log2 1 = 0 := rfl
    rw [one]
    omega
  have scaled := two_pow_le_scaled nonzero
  unfold unitExponent
  rw [guess]
  dsimp only
  split
  · next small => exact absurd small (Nat.not_lt.2 scaled)
  · omega

/-! ## Rounding -/

theorem roundHalfEven_one (n : Nat) : roundHalfEven n 1 = n := by
  unfold roundHalfEven
  rw [Nat.div_one, Nat.mod_one, if_pos (.inl Nat.one_pos)]

/-- A multiple is divided without rounding. -/
theorem roundHalfEven_mul (quotient : Nat) {den : Nat} (positive : 0 < den) :
    roundHalfEven (quotient * den) den = quotient := by
  unfold roundHalfEven
  rw [Nat.mul_div_cancel _ positive, Nat.mul_mod_left, if_pos (.inl positive)]

/-- One less than an even multiple is rounded up to it, also where both neighbours are as near. -/
theorem roundHalfEven_mul_sub_one {quotient den : Nat} (odd : quotient % 2 = 1) (many : 2 ≤ den) :
    roundHalfEven ((quotient + 1) * den - 1) den = quotient + 1 := by
  have decomposed : (quotient + 1) * den - 1 = den - 1 + den * quotient := by
    rw [Nat.add_mul, Nat.one_mul, Nat.mul_comm quotient]
    omega
  have quotients : ((quotient + 1) * den - 1) / den = quotient := by
    rw [decomposed, Nat.add_mul_div_left _ _ (by omega), Nat.div_eq_of_lt (by omega), Nat.zero_add]
  have remainders : ((quotient + 1) * den - 1) % den = den - 1 := by
    rw [decomposed, Nat.add_mul_mod_self_left, Nat.mod_eq_of_lt (by omega)]
  unfold roundHalfEven
  rw [quotients, remainders]
  exact if_neg (by omega)

/-- The significand of a whole number, rounded to 53 binary digits. -/
def roundedSignificand (n : Nat) : Nat :=
  let (num, den) := scaleDown n 1 ((n.log2 : Int) - 52)
  roundHalfEven num den

theorem roundedSignificand_of_short {n : Nat} (short : n.log2 ≤ 52) :
    roundedSignificand n = n * 2 ^ (52 - n.log2) := by
  unfold roundedSignificand
  by_cases negative : (n.log2 : Int) - 52 < 0
  · have places : (-((n.log2 : Int) - 52)).toNat = 52 - n.log2 := by omega
    rw [scaleDown_of_neg negative, places]
    exact roundHalfEven_one _
  · have full : n.log2 = 52 := by omega
    rw [scaleDown_of_nonneg (Int.not_lt.1 negative), full]
    simp [roundHalfEven_one]

theorem roundedSignificand_of_long {n : Nat} (long : 52 ≤ n.log2) :
    roundedSignificand n = roundHalfEven n (2 ^ (n.log2 - 52)) := by
  have places : ((n.log2 : Int) - 52).toNat = n.log2 - 52 := by omega
  unfold roundedSignificand
  rw [scaleDown_of_nonneg (by omega), places]
  dsimp only
  rw [Nat.one_mul]

/-- The value nearest to a whole number: a significand that was rounded up to 54 binary digits is
written with 53 again, and beyond the range of the format the value is infinite. -/
theorem ofNat_eq {n : Nat} (nonzero : n ≠ 0) :
    ofNat n =
      if roundedSignificand n = 2 ^ 53 then
        if n.log2 + 1 ≤ 1023 then .finite false (2 ^ 52) ((n.log2 : Int) - 51) else .infinite false
      else if n.log2 ≤ 1023 then
        if roundedSignificand n = 0 then zero false
        else .finite false (roundedSignificand n) ((n.log2 : Int) - 52)
      else .infinite false := by
  have unfolded : ofNat n =
      (fun rounded : Nat × Int =>
        if rounded.2 > 971 then .infinite false
        else if rounded.1 = 0 then zero false
        else .finite false rounded.1 rounded.2)
      (if roundedSignificand n = 2 ^ 53 then (2 ^ 52, (n.log2 : Int) - 52 + 1)
        else (roundedSignificand n, (n.log2 : Int) - 52)) := by
    unfold ofNat ofRatio
    rw [if_neg nonzero, unitExponent_one nonzero]
    rfl
  rw [unfolded]
  by_cases carried : roundedSignificand n = 2 ^ 53
  · rw [if_pos carried, if_pos carried]
    have next : (n.log2 : Int) - 52 + 1 = (n.log2 : Int) - 51 := by omega
    dsimp only
    rw [next, if_neg (show ¬ 2 ^ 52 = 0 by decide)]
    by_cases inRange : n.log2 + 1 ≤ 1023
    · rw [if_neg (by omega), if_pos inRange]
    · rw [if_pos (by omega), if_neg inRange]
  · rw [if_neg carried, if_neg carried]
    by_cases inRange : n.log2 ≤ 1023
    · exact (if_neg (by omega)).trans (if_pos inRange).symm
    · exact (if_pos (by omega)).trans (if_neg inRange).symm

/-! ## Numbers that are exact -/

/-- A number of at most 53 binary digits needs no rounding. -/
theorem ofNat_of_lt {n : Nat} (nonzero : n ≠ 0) (short : n < 2 ^ 53) :
    ofNat n = .finite false (n * 2 ^ (52 - n.log2)) ((n.log2 : Int) - 52) := by
  have digits : n.log2 < 53 := (Nat.log2_lt nonzero).2 short
  have below : n * 2 ^ (52 - n.log2) < 2 ^ 53 := by
    have upper : n < 2 ^ (n.log2 + 1) := Nat.lt_log2_self
    calc n * 2 ^ (52 - n.log2) < 2 ^ (n.log2 + 1) * 2 ^ (52 - n.log2) :=
          Nat.mul_lt_mul_of_pos_right upper (Nat.two_pow_pos _)
      _ = 2 ^ 53 := by
          rw [← Nat.pow_add]
          congr 1
          omega
  have positive : 0 < n * 2 ^ (52 - n.log2) :=
    Nat.mul_pos (Nat.pos_of_ne_zero nonzero) (Nat.two_pow_pos _)
  rw [ofNat_eq nonzero, roundedSignificand_of_short (by omega), if_neg (Nat.ne_of_lt below),
    if_pos (by omega), if_neg (Nat.ne_of_gt positive)]

/-- A number below `2 ^ 53` is kept exactly. -/
theorem toInt?_ofNat {n : Nat} (short : n < 2 ^ 53) : (ofNat n).toInt? = some (n : Int) := by
  by_cases zero : n = 0
  · subst zero
    rfl
  · have digits : n.log2 < 53 := (Nat.log2_lt zero).2 short
    rw [ofNat_of_lt zero short]
    unfold toInt?
    by_cases negative : (n.log2 : Int) - 52 < 0
    · have places : (-((n.log2 : Int) - 52)).toNat = 52 - n.log2 := by omega
      dsimp only
      rw [if_pos negative, places, Nat.pow_eq, if_pos (Nat.mul_mod_left _ _),
        Nat.mul_div_cancel _ (Nat.two_pow_pos _)]
      rfl
    · have full : n.log2 = 52 := by omega
      rw [full]
      simp

/-! ## Powers of two -/

/-- A power of two, as far as the range of the format goes. -/
theorem ofNat_two_pow (k : Nat) :
    ofNat (2 ^ k) =
      if k ≤ 1023 then .finite false (2 ^ 52) ((k : Int) - 52) else .infinite false := by
  have nonzero : 2 ^ k ≠ 0 := Nat.ne_of_gt (Nat.two_pow_pos k)
  have significand : roundedSignificand (2 ^ k) = 2 ^ 52 := by
    by_cases short : k ≤ 52
    · rw [roundedSignificand_of_short (by rwa [Nat.log2_two_pow]), Nat.log2_two_pow,
        ← Nat.pow_add, Nat.add_sub_cancel' short]
    · have split : 2 ^ k = 2 ^ 52 * 2 ^ (k - 52) := by
        rw [← Nat.pow_add, Nat.add_sub_cancel' (by omega)]
      rw [roundedSignificand_of_long (by rw [Nat.log2_two_pow]; omega), Nat.log2_two_pow, split]
      exact roundHalfEven_mul _ (Nat.two_pow_pos _)
  rw [ofNat_eq nonzero, significand, Nat.log2_two_pow, if_neg (by decide),
    if_neg (show ¬ 2 ^ 52 = 0 by decide)]

theorem toInt?_ofNat_two_pow {k : Nat} (inRange : k ≤ 1023) :
    (ofNat (2 ^ k)).toInt? = some ((2 ^ k : Nat) : Int) := by
  rw [ofNat_two_pow, if_pos inRange]
  unfold toInt?
  dsimp only
  by_cases negative : (k : Int) - 52 < 0
  · have places : (-((k : Int) - 52)).toNat = 52 - k := by omega
    have split : 2 ^ 52 = 2 ^ k * 2 ^ (52 - k) := by
      rw [← Nat.pow_add, Nat.add_sub_cancel' (by omega)]
    rw [if_pos negative, places, Nat.pow_eq, split, if_pos (Nat.mul_mod_left _ _),
      Nat.mul_div_cancel _ (Nat.two_pow_pos _)]
    rfl
  · have places : ((k : Int) - 52).toNat = k - 52 := by omega
    have split : 2 ^ 52 * 2 ^ (k - 52) = 2 ^ k := by
      rw [← Nat.pow_add, Nat.add_sub_cancel' (by omega)]
    rw [if_neg negative, places, Nat.pow_eq, split]
    rfl

theorem toInt?_ofNat_two_pow_of_large {k : Nat} (large : 1024 ≤ k) :
    (ofNat (2 ^ k)).toInt? = none := by
  rw [ofNat_two_pow, if_neg (by omega)]
  rfl

/-- With 54 binary digits or more, the number of all ones is rounded to the next power of two. -/
theorem ofNat_two_pow_sub_one {n : Nat} (long : 54 ≤ n) : ofNat (2 ^ n - 1) = ofNat (2 ^ n) := by
  obtain ⟨last, rfl⟩ : ∃ last, n = last + 1 := ⟨n - 1, by omega⟩
  have double : 2 ^ (last + 1) = 2 * 2 ^ last := Nat.pow_succ'
  have positive := Nat.two_pow_pos last
  have digits : (2 ^ (last + 1) - 1).log2 = last := by
    refine (Nat.log2_eq_iff (by omega)).2 ⟨by omega, ?_⟩
    omega
  have split : 2 ^ (last + 1) = (2 ^ 53 - 1 + 1) * 2 ^ (last - 52) := by
    rw [Nat.sub_add_cancel (Nat.two_pow_pos 53), ← Nat.pow_add]
    congr 1
    omega
  have unit : 2 ≤ 2 ^ (last - 52) := Nat.le_self_pow (by omega) 2
  have carried : roundedSignificand (2 ^ (last + 1) - 1) = 2 ^ 53 := by
    rw [roundedSignificand_of_long (by omega), digits, split]
    exact roundHalfEven_mul_sub_one (by decide) unit
  rw [ofNat_two_pow, ofNat_eq (by omega), if_pos carried, digits]
  have next : (last : Int) - 51 = ((last + 1 : Nat) : Int) - 52 := by omega
  rw [next]

end BridgeCode.Number.Binary64
