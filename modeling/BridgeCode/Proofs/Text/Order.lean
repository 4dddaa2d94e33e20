import BridgeCode.Render.Header

/-!
The order of texts by code units.

Different texts have different code units (`unitList_injective`), so the order in which files and
includes are listed is a strict one: of two different texts exactly one precedes the other. Sorting
keeps the members of a list and brings them into this order (`pairwise_sortByUnits`), and an include
list is the two sorted groups one after the other (`Render.sortIncludes_ranked`).
-/

namespace BridgeCode

namespace Text

/-- The first text comes before the second one in the order of code units. -/
def Precedes (s t : String) : Prop := unitList s < unitList t

instance (s t : String) : Decidable (Precedes s t) :=
  inferInstanceAs (Decidable (unitList s < unitList t))

/-! ## Code units -/

/-- No character is a surrogate. -/
theorem toNat_valid (c : Char) : c.toNat < 0xD800 ∨ 0xDFFF < c.toNat ∧ c.toNat < 0x110000 :=
  c.valid

/-- The code units at the front of a text tell its first character. -/
theorem encodeUnits_append_inj {c d : Char} {rest others : List Nat}
    (same : encodeUnits c ++ rest = encodeUnits d ++ others) : c = d ∧ rest = others := by
  have toNat_inj : c.toNat = d.toNat → c = d := fun eq => Char.toNat_inj.1 eq
  have validC := toNat_valid c
  have validD := toNat_valid d
  unfold encodeUnits at same
  split at same <;> split at same
  · obtain ⟨unit, rest⟩ := List.cons.inj same
    exact ⟨toNat_inj unit, rest⟩
  · -- One unit of its own is no surrogate.
    have unit := (List.cons.inj same).1
    omega
  · have unit := (List.cons.inj same).1
    omega
  · obtain ⟨high, same⟩ := List.cons.inj same
    obtain ⟨low, rest⟩ := List.cons.inj same
    exact ⟨toNat_inj (by omega), rest⟩

theorem unitList_injective {s t : String} (same : unitList s = unitList t) : s = t := by
  have chars : ∀ cs ds : List Char, cs.flatMap encodeUnits = ds.flatMap encodeUnits → cs = ds := by
    intro cs
    induction cs with
    | nil =>
        intro ds same
        cases ds with
        | nil => rfl
        | cons d ds =>
            rw [List.flatMap_nil, List.flatMap_cons, eq_comm, List.append_eq_nil_iff] at same
            unfold encodeUnits at same
            split at same <;> cases same.1
    | cons c cs ih =>
        intro ds same
        cases ds with
        | nil =>
            rw [List.flatMap_nil, List.flatMap_cons, List.append_eq_nil_iff] at same
            unfold encodeUnits at same
            split at same <;> cases same.1
        | cons d ds =>
            rw [List.flatMap_cons, List.flatMap_cons] at same
            obtain ⟨rfl, rest⟩ := encodeUnits_append_inj same
            rw [ih ds rest]
  exact String.toList_inj.1 (chars _ _ same)

/-! ## The order -/

theorem lexLE_iff {as bs : List Nat} : lexLE as bs = true ↔ ¬ bs < as := by
  induction as generalizing bs with
  | nil => simp [lexLE]
  | cons a as ih =>
      cases bs with
      | nil => simp [lexLE]
      | cons b bs =>
          rw [List.cons_lt_cons_iff]
          simp only [lexLE, Bool.or_eq_true, Bool.and_eq_true, decide_eq_true_eq, beq_iff_eq, ih]
          constructor
          · rintro (less | ⟨rfl, rest⟩) (more | ⟨same, after⟩)
            · omega
            · omega
            · omega
            · exact rest after
          · intro notAfter
            by_cases less : a < b
            · exact .inl less
            · have notMore : ¬ b < a := fun more => notAfter (.inl more)
              have same : a = b := by omega
              exact .inr ⟨same, fun after => notAfter (.inr ⟨same.symm, after⟩)⟩

theorem unitLE_total (s t : String) : (unitLE s t || unitLE t s) = true := by
  rw [Bool.or_eq_true, unitLE, unitLE, lexLE_iff, lexLE_iff]
  exact List.le_total (unitList s) (unitList t)

theorem unitLE_trans (s t u : String) (first : unitLE s t = true) (second : unitLE t u = true) :
    unitLE s u = true := by
  rw [unitLE, lexLE_iff] at first second ⊢
  exact @List.le_trans _ _ _ _ _ (unitList s) (unitList t) (unitList u) first second

/-- Of two different texts the one that is listed first precedes the other. -/
theorem precedes_of_unitLE {s t : String} (le : unitLE s t = true) (differ : s ≠ t) :
    Precedes s t := by
  rw [unitLE, lexLE_iff] at le
  refine Decidable.byContradiction fun notBefore => differ (unitList_injective ?_)
  exact @List.le_antisymm _ _ _ (unitList s) (unitList t) le notBefore

theorem Precedes.asymm {s t : String} (before : Precedes s t) : ¬ Precedes t s :=
  List.lt_asymm before

/-! ## Sorted lists -/

theorem nodup_eraseDups (names : List String) : names.eraseDups.Nodup := by
  cases names with
  | nil => simp
  | cons name names =>
      rw [List.eraseDups_cons, List.nodup_cons]
      refine ⟨?_, nodup_eraseDups _⟩
      simp [List.mem_eraseDups]
termination_by names.length
decreasing_by exact Nat.lt_succ_of_le (List.length_filter_le _ _)

@[simp]
theorem mem_sortByUnits {names : List String} {name : String} :
    name ∈ sortByUnits names ↔ name ∈ names :=
  (List.mergeSort_perm names unitLE).mem_iff

theorem nodup_sortByUnits {names : List String} (nodup : names.Nodup) :
    (sortByUnits names).Nodup :=
  (List.mergeSort_perm names unitLE).nodup_iff.2 nodup

/-- Different texts are sorted so that each precedes the next. -/
theorem pairwise_sortByUnits {names : List String} (nodup : names.Nodup) :
    (sortByUnits names).Pairwise Precedes := by
  have sorted := List.pairwise_mergeSort unitLE_trans unitLE_total names
  refine (sorted.and (nodup_sortByUnits nodup)).imp ?_
  rintro s t ⟨le, differ⟩
  exact precedes_of_unitLE le differ

end Text

namespace Render

/-- Whether an include target is one of the system. -/
def isSystem (target : String) : Bool := target.toList.head? == some '<'

/-- Include targets of which no two are the same: those of the system first, each group in the order
of code units. -/
structure Ranked (targets : List String) : Prop where
  nodup : targets.Nodup
  groups : ∃ system own, targets = system ++ own ∧
    (∀ target ∈ system, isSystem target = true) ∧ (∀ target ∈ own, isSystem target = false) ∧
    system.Pairwise Text.Precedes ∧ own.Pairwise Text.Precedes

theorem sortIncludes_eq (names : List String) :
    sortIncludes names =
      Text.sortByUnits (names.eraseDups.filter isSystem) ++
        Text.sortByUnits (names.eraseDups.filter (!isSystem ·)) := by
  simp only [sortIncludes, List.partition_eq_filter_filter]
  rfl

@[simp]
theorem mem_sortIncludes {names : List String} {name : String} :
    name ∈ sortIncludes names ↔ name ∈ names := by
  rw [sortIncludes_eq]
  cases kind : isSystem name <;> simp [kind]

/-- An include list is in order. -/
theorem sortIncludes_ranked (names : List String) : Ranked (sortIncludes names) := by
  have unique : names.eraseDups.Nodup := Text.nodup_eraseDups names
  have system := unique.filter isSystem
  have own := unique.filter (!isSystem ·)
  rw [sortIncludes_eq]
  refine ⟨?_, _, _, rfl, ?_, ?_, Text.pairwise_sortByUnits system, Text.pairwise_sortByUnits own⟩
  · refine List.nodup_append.2
      ⟨Text.nodup_sortByUnits system, Text.nodup_sortByUnits own, fun one first two second => ?_⟩
    rintro rfl
    simp_all
  · simp
  · simp

end Render

end BridgeCode
