import BridgeCode.Proofs.Text.Order

/-!
The order of texts by code units beside their order by code points.

A character above U+FFFF begins with a surrogate and so stands, by code units, in front of the
characters from U+E000 to U+FFFF, which by code points stand in front of it. All other pairs of
characters have the same order in both (`encodeUnits_append_lt_agrees_iff`), and the two orders of
texts part exactly where the first difference is a pair of that kind (`precedes_agrees_iff`).
-/

namespace BridgeCode.Text

/-- The first character has surrogates that put it in front of the second one, which has the lower
code point. -/
def Overtakes (c d : Char) : Prop :=
  0x10000 ≤ c.toNat ∧ 0xE000 ≤ d.toNat ∧ d.toNat < 0x10000

instance (c d : Char) : Decidable (Overtakes c d) :=
  inferInstanceAs (Decidable (_ ∧ _ ∧ _))

/-- The texts go on with different characters behind what they share, and one of these characters
overtakes the other. -/
def Crossed : List Char → List Char → Prop
  | c :: cs, d :: ds => if c = d then Crossed cs ds else Overtakes c d ∨ Overtakes d c
  | _, _ => False

/-- Different characters decide the order by code units, whatever follows them. It is their order by
code points, unless one overtakes the other. -/
theorem encodeUnits_append_lt_agrees_iff {c d : Char} (differ : c ≠ d) (rest others : List Nat) :
    (encodeUnits c ++ rest < encodeUnits d ++ others ↔ c < d) ↔
      ¬ (Overtakes c d ∨ Overtakes d c) := by
  have validC := toNat_valid c
  have validD := toNat_valid d
  have codes : c.toNat ≠ d.toNat := fun same => differ (Char.toNat_inj.1 same)
  have less : c < d ↔ c.toNat < d.toNat := Iff.rfl
  rw [less]
  unfold encodeUnits Overtakes
  split <;> split <;>
    simp only [List.cons_append, List.nil_append, List.cons_lt_cons_iff] <;> omega

/-- A shared character leaves the order by code units to what follows it. -/
theorem encodeUnits_append_lt_same_iff (c : Char) (rest others : List Nat) :
    encodeUnits c ++ rest < encodeUnits c ++ others ↔ rest < others := by
  unfold encodeUnits
  split <;> simp

theorem nil_lt_encodeUnits_append (c : Char) (rest : List Nat) : [] < encodeUnits c ++ rest := by
  unfold encodeUnits
  split <;> simp

/-- The order by code units is that by code points, unless the texts cross. -/
theorem precedes_agrees_iff (s t : String) :
    (Precedes s t ↔ s < t) ↔ ¬ Crossed s.toList t.toList := by
  -- By induction on both lists of characters: a shared first character drops out of both orders,
  -- and different ones decide both.
  have chars : ∀ cs ds : List Char,
      (cs.flatMap encodeUnits < ds.flatMap encodeUnits ↔ cs < ds) ↔ ¬ Crossed cs ds := by
    intro cs
    induction cs with
    | nil =>
        intro ds
        cases ds with
        | nil => simp [Crossed]
        | cons d ds =>
            have units := nil_lt_encodeUnits_append d (ds.flatMap encodeUnits)
            simpa [Crossed] using units
    | cons c cs ih =>
        intro ds
        cases ds with
        | nil => simp [Crossed]
        | cons d ds =>
            rw [List.flatMap_cons, List.flatMap_cons, Crossed]
            by_cases same : c = d
            · subst same
              rw [encodeUnits_append_lt_same_iff, List.cons_lt_cons_self, if_pos rfl]
              exact ih ds
            · have order : c :: cs < d :: ds ↔ c < d := by simp [List.cons_lt_cons_iff, same]
              rw [order, if_neg same]
              exact encodeUnits_append_lt_agrees_iff same _ _
  exact chars s.toList t.toList

end BridgeCode.Text
