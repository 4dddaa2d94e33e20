import BridgeCode.Config.Build
import Mathlib.Logic.Relation

/-!
Null settings are missing settings.

Two documents are variants of one another if null fields of their maps can be put in and taken out
until they are the same (`Value.NullVariant`). Maps in lists are left alone, as lists hold no
settings.

* `Value.dropNulls_eq_iff`: values are variants exactly if they are the same without their nulls, so
  dropping nulls picks one value of each class of variants.
* `Value.nullFree_dropNulls`: the value it picks has no null field.
* `null_settings_are_missing`: a configuration is built from that value, so it is the same for all
  variants.
-/

namespace BridgeCode

namespace Value

/-- The value gains one null field, in itself or in a map that it reaches through maps. -/
inductive GainsNull : Value → Value → Prop
  | here (front back : List (String × Value)) (key : String) :
      GainsNull (.map (front ++ back)) (.map (front ++ (key, .null) :: back))
  | within (front back : List (String × Value)) (key : String) {value other : Value} :
      GainsNull value other →
      GainsNull (.map (front ++ (key, value) :: back)) (.map (front ++ (key, other) :: back))

/-- The values differ in null fields only, however many and at whatever depth. -/
abbrev NullVariant : Value → Value → Prop := Relation.EqvGen GainsNull

/-- The map is the value itself, or the value reaches it through the fields of maps. -/
inductive Reaches : Value → List (String × Value) → Prop
  | here {fields : List (String × Value)} : Reaches (.map fields) fields
  | within {fields inner : List (String × Value)} {key : String} {value : Value} :
      (key, value) ∈ fields → Reaches value inner → Reaches (.map fields) inner

/-- No map that the value reaches has a null field. -/
def NullFree (value : Value) : Prop :=
  ∀ fields, value.Reaches fields → ∀ key, (key, .null) ∉ fields

/-! ## Dropping nulls field by field -/

theorem dropNullFields_cons_of_ne {value : Value} (nonnull : value ≠ .null) (key : String)
    (rest : List (String × Value)) :
    dropNullFields ((key, value) :: rest) = (key, dropNulls value) :: dropNullFields rest := by
  rw [dropNullFields]
  exact nonnull

theorem dropNullFields_append (front back : List (String × Value)) :
    dropNullFields (front ++ back) = dropNullFields front ++ dropNullFields back := by
  induction front with
  | nil => rfl
  | cons field front ih =>
      obtain ⟨key, value⟩ := field
      by_cases isNull : value = .null
      · subst isNull
        exact ih
      · rw [List.cons_append, dropNullFields_cons_of_ne isNull, dropNullFields_cons_of_ne isNull,
          ih, List.cons_append]

/-- A field that is left was there, not null, and has lost its nulls. -/
theorem exists_of_mem_dropNullFields {fields : List (String × Value)} {key : String} {kept : Value}
    (member : (key, kept) ∈ dropNullFields fields) :
    ∃ value, value ≠ .null ∧ dropNulls value = kept := by
  induction fields with
  | nil => cases member
  | cons field fields ih =>
      obtain ⟨other, value⟩ := field
      by_cases isNull : value = .null
      · subst isNull
        exact ih member
      · rw [dropNullFields_cons_of_ne isNull] at member
        rcases List.mem_cons.1 member with same | member
        · exact ⟨value, isNull, (Prod.mk.inj same).2.symm⟩
        · exact ih member

theorem dropNulls_ne_null {value : Value} (nonnull : value ≠ .null) : dropNulls value ≠ .null := by
  cases value with
  | null => exact absurd rfl nonnull
  | _ => simp [dropNulls]

/-- What is a map without its nulls was a map. -/
theorem exists_of_dropNulls_eq_map {value : Value} {fields : List (String × Value)}
    (dropped : dropNulls value = .map fields) : ∃ original, dropNullFields original = fields := by
  cases value with
  | map original => exact ⟨original, map.inj dropped⟩
  | _ => simp [dropNulls] at dropped

/-! ## Values without nulls -/

theorem GainsNull.dropNulls_eq {value other : Value} (gains : GainsNull value other) :
    dropNulls value = dropNulls other := by
  induction gains with
  | here front back key =>
      rw [dropNulls, dropNulls, dropNullFields_append, dropNullFields_append]
      rfl
  | @within front back key value other gains ih =>
      have nonnull : value ≠ .null ∧ other ≠ .null := by
        cases gains <;> exact ⟨nofun, nofun⟩
      rw [dropNulls, dropNulls, dropNullFields_append, dropNullFields_append,
        dropNullFields_cons_of_ne nonnull.1, dropNullFields_cons_of_ne nonnull.2, ih]

/-- A variant of one field makes a variant of the map. -/
theorem NullVariant.within (front back : List (String × Value)) (key : String)
    {value other : Value} (variant : NullVariant value other) :
    NullVariant (.map (front ++ (key, value) :: back)) (.map (front ++ (key, other) :: back)) := by
  induction variant with
  | rel value other gains => exact .rel _ _ (.within front back key gains)
  | refl value => exact .refl _
  | symm value other _ ih => exact ih.symm
  | trans value middle other _ _ first second => exact first.trans _ _ _ second

mutual

/-- Dropping nulls leads to a variant. -/
theorem nullVariant_dropNulls : ∀ value : Value, NullVariant value (dropNulls value)
  | .map fields => nullVariant_dropNullFields [] fields
  | .null => .refl _
  | .bool _ => .refl _
  | .num _ => .refl _
  | .str _ => .refl _
  | .list _ => .refl _

/-- So does dropping them from the fields behind others. -/
theorem nullVariant_dropNullFields : ∀ front fields : List (String × Value),
    NullVariant (.map (front ++ fields)) (.map (front ++ dropNullFields fields))
  | _, [] => .refl _
  | front, (key, value) :: fields => by
      by_cases isNull : value = .null
      · subst isNull
        have taken :
            NullVariant (.map (front ++ (key, .null) :: fields)) (.map (front ++ fields)) :=
          .symm _ _ (.rel _ _ (.here front fields key))
        exact taken.trans _ _ _ (nullVariant_dropNullFields front fields)
      · have first := NullVariant.within front fields key (nullVariant_dropNulls value)
        have rest := nullVariant_dropNullFields (front ++ [(key, dropNulls value)]) fields
        rw [List.append_assoc, List.append_assoc] at rest
        rw [dropNullFields_cons_of_ne isNull]
        exact first.trans _ _ _ rest

end

/-- Values are variants exactly if they are the same without their nulls. -/
theorem dropNulls_eq_iff {value other : Value} :
    dropNulls value = dropNulls other ↔ NullVariant value other := by
  constructor
  · intro same
    have back := (nullVariant_dropNulls other).symm
    rw [← same] at back
    exact (nullVariant_dropNulls value).trans _ _ _ back
  · intro variant
    induction variant with
    | rel value other gains => exact gains.dropNulls_eq
    | refl value => rfl
    | symm value other _ ih => exact ih.symm
    | trans value middle other _ _ first second => exact first.trans second

/-- Dropping nulls leaves none outside lists. -/
theorem nullFree_dropNulls (value : Value) : (dropNulls value).NullFree := by
  intro fields reaches
  generalize dropped : dropNulls value = kept at reaches
  induction reaches generalizing value with
  | here =>
      obtain ⟨original, rfl⟩ := exists_of_dropNulls_eq_map dropped
      intro key member
      obtain ⟨inner, nonnull, isNull⟩ := exists_of_mem_dropNullFields member
      exact dropNulls_ne_null nonnull isNull
  | within member _ ih =>
      obtain ⟨original, rfl⟩ := exists_of_dropNulls_eq_map dropped
      obtain ⟨inner, -, kept⟩ := exists_of_mem_dropNullFields member
      exact ih inner kept

end Value

/-- A configuration is the same, and so is the error if there is none, however many null fields are
put in or taken out. Dropping nulls does no more than that, leaves no null outside lists, and is
done once. -/
theorem null_settings_are_missing (value : Value) :
    (∀ other, value.NullVariant other → ∀ base, buildConfig base value = buildConfig base other) ∧
    dropNulls (dropNulls value) = dropNulls value ∧ (dropNulls value).NullFree ∧
    ∀ other, dropNulls value = dropNulls other ↔ value.NullVariant other := by
  refine ⟨fun other variant base => ?_, ?_, value.nullFree_dropNulls,
    fun other => Value.dropNulls_eq_iff⟩
  · -- A document is checked without its nulls.
    have checked : ConfigDocument.check [] (some value) = ConfigDocument.check [] (some other) := by
      rw [ConfigDocument.check, ConfigDocument.check, Option.map_some, Option.map_some,
        Value.dropNulls_eq_iff.2 variant]
    rw [buildConfig, buildConfig, checked]
  · exact Value.dropNulls_eq_iff.2 value.nullVariant_dropNulls.symm

/-- A section that is null and a null example for an unknown role, against neither of them. -/
theorem null_example_is_missing :
    let noisy : Value := .map [("cpp", .map [("out_folder", .str "gen"),
      ("ident_style", .map [("bogus", .null), ("field", .str "mFooBar")])]), ("java", .null)]
    let plain : Value := .map [("cpp", .map [("out_folder", .str "gen"),
      ("ident_style", .map [("field", .str "mFooBar")])])]
    noisy.NullVariant plain ∧ (∀ base, buildConfig base noisy = buildConfig base plain) ∧
      ((buildConfig ⟨"/work", "/work"⟩ noisy).toOption.bind fun config => config.cpp.outFolder) =
        some "/work/gen" := by
  intro noisy plain
  have variant : noisy.NullVariant plain := Value.dropNulls_eq_iff.1 rfl
  have same := (null_settings_are_missing noisy).1 plain variant
  refine ⟨variant, same, ?_⟩
  decide +kernel

end BridgeCode
