import Mathlib.Logic.Relation
import BridgeCode.Proofs.Config.Loading
import BridgeCode.Proofs.Target.Boxing
import BridgeCode.Proofs.TypeExpr.Lexing

/-!
Types that lack arguments.

A type is spelled from some of its arguments. It cannot be spelled exactly if it lacks an argument
that it needs, or if one of those that it is spelled from cannot be spelled
(`TypeRef.SpelledFrom`). So the error of a type is that of a type reached through such arguments
(`SpelledFrom.blame`), and a type that is reached and lacks an argument makes the whole fail
(`SpelledFrom.fails_iff`). C++ spells the arguments of declared types and Objective-C does not, so
that whatever can be spelled in C++ can be spelled in Objective-C.
-/

namespace BridgeCode

namespace TypeRef

/-- A list, a set or an optional without arguments, or a map with less than two. -/
def LacksArgs (ref : TypeRef) : Prop := ref.args.length < neededArgs ref.name

instance (ref : TypeRef) : Decidable ref.LacksArgs :=
  inferInstanceAs (Decidable (_ < _))

/-- The error of a type that lacks its next argument. -/
def lackError (ref : TypeRef) : GenerateError :=
  .missingTypeArg ref.name (ref.args.length + 1) ref.args.length

theorem neededArgs_unary {name : String}
    (unary : name = "list" ∨ name = "set" ∨ name = "optional") : neededArgs name = 1 := by
  rcases unary with rfl | rfl | rfl <;> rfl

theorem neededArgs_plain {name : String}
    (unary : ¬ (name = "list" ∨ name = "set" ∨ name = "optional")) (binary : name ≠ "map") :
    neededArgs name = 0 := by
  unfold neededArgs
  split
  case h_4 => exact absurd rfl binary
  case h_5 => rfl
  all_goals exact absurd (by simp) unary

/-- The second type is reached from the first one through parts. -/
abbrev Within (parts : TypeRef → List TypeRef) : TypeRef → TypeRef → Prop :=
  Relation.ReflTransGen fun ref arg => arg ∈ parts ref

/-- A type is spelled from parts of it: if it can be spelled, it lacks no argument and all parts can
be spelled, and otherwise its error is its own or that of a part. -/
structure SpelledFrom {α : Type} (parts : TypeRef → List TypeRef)
    (spell : TypeRef → Except GenerateError α) (ref : TypeRef) : Prop where
  among : ∀ arg ∈ parts ref, arg ∈ ref.args
  ok : ∀ value, spell ref = .ok value →
    ¬ ref.LacksArgs ∧ ∀ arg ∈ parts ref, ∃ inner, spell arg = .ok inner
  error : ∀ error, spell ref = .error error →
    ref.LacksArgs ∧ error = ref.lackError ∨ ∃ arg ∈ parts ref, spell arg = .error error

namespace SpelledFrom

variable {α : Type} {parts : TypeRef → List TypeRef} {spell : TypeRef → Except GenerateError α}

/-! ## Kinds of types -/

section

variable {name : String} {args : List TypeRef}

/-- A type that fails for want of its first argument. -/
theorem of_nil (needed : 0 < neededArgs name) (taken : parts (.mk name []) = [])
    (spells : spell (.mk name []) = .error (TypeRef.mk name []).lackError) :
    SpelledFrom parts spell (.mk name []) := by
  refine ⟨by simp [taken], fun value ran => ?_, fun error ran => .inl ⟨needed, ?_⟩⟩
  · cases spells.symm.trans ran
  · exact Except.error.inj (ran.symm.trans spells)

/-- A type that is spelled from its first argument. -/
theorem of_unary (needed : neededArgs name = 1) (taken : parts (.mk name args) = args.take 1)
    {make : α → α}
    (spells : spell (.mk name args) = (requireArg name (args.map spell) 0).map make) :
    SpelledFrom parts spell (.mk name args) := by
  cases args with
  | nil => exact of_nil (by omega) taken spells
  | cons first rest =>
      have enough : ¬ (TypeRef.mk name (first :: rest)).LacksArgs := by
        rw [LacksArgs, TypeRef.name, needed, TypeRef.args, List.length_cons]
        omega
      have whole : spell (.mk name (first :: rest)) = (spell first).map make := spells
      refine ⟨by simp [taken, TypeRef.args], fun value ran => ⟨enough, ?_⟩,
        fun error ran => .inr ?_⟩
      · obtain ⟨inner, ranFirst, -⟩ := exists_ok_of_map (whole.symm.trans ran)
        simp [taken, ranFirst]
      · exact ⟨first, by simp [taken], error_of_map (whole.symm.trans ran)⟩

/-- A type that is spelled from its first two arguments. -/
theorem of_binary (needed : neededArgs name = 2) (taken : parts (.mk name args) = args.take 2)
    {make : α → α → α}
    (spells : spell (.mk name args) = do
      let key ← requireArg name (args.map spell) 0
      let value ← requireArg name (args.map spell) 1
      return make key value) :
    SpelledFrom parts spell (.mk name args) := by
  rcases args with - | ⟨key, - | ⟨value, rest⟩⟩
  · exact of_nil (by omega) taken spells
  · have lacks : (TypeRef.mk name [key]).LacksArgs := by
      rw [LacksArgs, TypeRef.name, needed]
      exact Nat.one_lt_two
    have whole : spell (.mk name [key]) =
        spell key >>= fun _ => .error (TypeRef.mk name [key]).lackError := spells
    refine ⟨by simp [taken, TypeRef.args], fun made ran => ?_, fun error ran => ?_⟩
    · obtain ⟨inner, -, failed⟩ := exists_ok_of_bind (whole.symm.trans ran)
      cases failed
    · rcases error_cases_of_bind (whole.symm.trans ran) with failed | ⟨inner, -, own⟩
      · exact .inr ⟨key, by simp [taken], failed⟩
      · exact .inl ⟨lacks, (Except.error.inj own).symm⟩
  · have enough : ¬ (TypeRef.mk name (key :: value :: rest)).LacksArgs := by
      rw [LacksArgs, TypeRef.name, needed, TypeRef.args, List.length_cons, List.length_cons]
      omega
    have whole : spell (.mk name (key :: value :: rest)) = do
        let key ← spell key
        let value ← spell value
        return make key value := spells
    refine ⟨by simp [taken, TypeRef.args], fun made ran => ⟨enough, ?_⟩, fun error ran => .inr ?_⟩
    · obtain ⟨innerKey, ranKey, ran⟩ := exists_ok_of_bind (whole.symm.trans ran)
      obtain ⟨innerValue, ranValue, -⟩ := exists_ok_of_bind ran
      simp [taken, ranKey, ranValue]
    · rcases error_cases_of_bind (whole.symm.trans ran) with failed | ⟨innerKey, -, ran⟩
      · exact ⟨key, by simp [taken], failed⟩
      rcases error_cases_of_bind ran with failed | ⟨innerValue, -, made⟩
      · exact ⟨value, by simp [taken], failed⟩
      · cases made

/-- A type that is spelled without arguments. -/
theorem of_plain (needed : neededArgs name = 0) (taken : parts (.mk name args) = []) {value : α}
    (spells : spell (.mk name args) = .ok value) : SpelledFrom parts spell (.mk name args) := by
  have enough : ¬ (TypeRef.mk name args).LacksArgs := by
    rw [LacksArgs, TypeRef.name, needed]
    omega
  refine ⟨by simp [taken], fun _ _ => ⟨enough, by simp [taken]⟩, fun error ran => ?_⟩
  cases spells.symm.trans ran

end

/-! ## Whole types -/

variable {ref inner : TypeRef}

/-- The error of a type is that of one that is reached from it and lacks an argument. -/
theorem blame (each : ∀ ref, SpelledFrom parts spell ref) {error : GenerateError} :
    spell ref = .error error →
      ∃ inner, Within parts ref inner ∧ inner.LacksArgs ∧ error = inner.lackError := by
  induction ref using TypeRef.args_induction with
  | step name args ih =>
      intro failed
      rcases (each _).error error failed with ⟨lacks, own⟩ | ⟨arg, part, failed⟩
      · exact ⟨_, .refl, lacks, own⟩
      · obtain ⟨inner, within, blamed⟩ := ih arg ((each _).among arg part) failed
        exact ⟨inner, .head part within, blamed⟩

/-- What is reached from a type that can be spelled can be spelled. -/
theorem ok_of_within (each : ∀ ref, SpelledFrom parts spell ref) (within : Within parts ref inner)
    (ran : ∃ value, spell ref = .ok value) : ∃ value, spell inner = .ok value := by
  induction within with
  | refl => exact ran
  | tail _ part ih =>
      obtain ⟨value, ran⟩ := ih
      exact ((each _).ok value ran).2 _ part

/-- A type can be spelled exactly if no type that is reached from it lacks an argument. -/
theorem ok_iff (each : ∀ ref, SpelledFrom parts spell ref) :
    (∃ value, spell ref = .ok value) ↔ ∀ inner, Within parts ref inner → ¬ inner.LacksArgs := by
  constructor
  · intro ran inner within
    obtain ⟨value, ran⟩ := ok_of_within each within ran
    exact ((each inner).ok value ran).1
  · intro complete
    cases ran : spell ref with
    | ok value => exact ⟨value, rfl⟩
    | error error =>
        obtain ⟨inner, within, lacks, -⟩ := blame each ran
        exact absurd lacks (complete inner within)

/-- A type cannot be spelled exactly if a type that is reached from it lacks an argument. -/
theorem fails_iff (each : ∀ ref, SpelledFrom parts spell ref) :
    (∃ error, spell ref = .error error ∧ error.code = .invalidDeclaration) ↔
      ∃ inner, Within parts ref inner ∧ inner.LacksArgs := by
  constructor
  · rintro ⟨error, failed, -⟩
    obtain ⟨inner, within, lacks, -⟩ := blame each failed
    exact ⟨inner, within, lacks⟩
  · rintro ⟨inner, within, lacks⟩
    cases ran : spell ref with
    | ok value => exact absurd lacks ((ok_iff each).1 ⟨value, ran⟩ inner within)
    | error error =>
        obtain ⟨other, -, -, rfl⟩ := blame each ran
        exact ⟨_, rfl, rfl⟩

end SpelledFrom

end TypeRef

/-! ## Both languages -/

namespace CppTarget

open TypeRef

variable {target : CppTarget} {typeParams : List String}

theorem spelledArgs_of_declared {name : String} (declared : isBuiltin name = false)
    (free : name ∉ typeParams) (args : List TypeRef) :
    spelledArgs typeParams (.mk name args) = args := by
  have other {builtin : String} (isBuiltin : isBuiltin builtin = true) : name ≠ builtin :=
    ObjcTarget.ne_of_declared declared isBuiltin
  rw [spelledArgs, if_neg (not_or.2 ⟨other rfl, not_or.2 ⟨other rfl, other rfl⟩⟩),
    if_neg (other rfl), if_neg (not_or.2 ⟨Bool.eq_false_iff.1 declared, free⟩)]

/-- A declared type is spelled from all its arguments. -/
theorem spelledFrom_declared {name : String} (declared : isBuiltin name = false)
    (free : name ∉ typeParams) (args : List TypeRef) :
    SpelledFrom (spelledArgs typeParams) (target.typeName typeParams) (.mk name args) where
  among _ part := spelledArgs_subset part
  ok text ran := by
    refine ⟨by simp [LacksArgs, TypeRef.name, neededArgs_of_declared declared], fun arg part => ?_⟩
    obtain ⟨piece, ranArg, -⟩ := piece_of_arg part ran
    exact ⟨piece, ranArg⟩
  error error ran := by
    rw [typeName_mk, spellWith_declared declared free] at ran
    obtain ⟨_, listed, failed⟩ := error_of_mapM (error_of_map ran)
    obtain ⟨arg, member, rfl⟩ := List.mem_map.1 listed
    refine .inr ⟨arg, ?_, failed⟩
    rw [spelledArgs_of_declared declared free]
    exact member

/-- The C++ spelling of a type is made of those of the arguments that are spelled. -/
theorem spelledFrom (target : CppTarget) (typeParams : List String) (ref : TypeRef) :
    SpelledFrom (spelledArgs typeParams) (target.typeName typeParams) ref := by
  obtain ⟨name, args⟩ := ref
  by_cases unary : name = "list" ∨ name = "set" ∨ name = "optional"
  · obtain ⟨opening, spells⟩ := @spellWith_unary target typeParams name unary
    exact .of_unary (neededArgs_unary unary) (if_pos unary) ((typeName_mk _ _).trans (spells _))
  by_cases binary : name = "map"
  · subst binary
    exact .of_binary rfl rfl (by rw [typeName_mk, spellWith_map])
  by_cases plain : isBuiltin name = true ∨ name ∈ typeParams
  · obtain ⟨spelled, spells⟩ := @spellWith_plain target typeParams name unary binary plain
    refine .of_plain (neededArgs_plain unary binary) ?_ ((typeName_mk _ _).trans (spells _))
    rw [spelledArgs, if_neg unary, if_neg binary, if_pos plain]
  · obtain ⟨builtin, free⟩ := not_or.1 plain
    exact spelledFrom_declared (Bool.eq_false_iff.2 builtin) free args

theorem spells_iff_within {ref inner : TypeRef} :
    Spells typeParams ref inner ↔ Within (spelledArgs typeParams) ref inner := by
  constructor
  · intro spells
    induction spells with
    | whole => exact .refl
    | part spelled _ ih => exact .head spelled ih
  · intro within
    induction within using Relation.ReflTransGen.head_induction_on with
    | refl => exact .whole _
    | head spelled _ ih => exact .part spelled ih

end CppTarget

namespace ObjcTarget

open TypeRef

/-- The Objective-C spelling of a type is made of those of what it holds. -/
theorem spelledFrom (target : ObjcTarget) (ref : TypeRef) :
    SpelledFrom heldArgs target.typeOf ref := by
  obtain ⟨name, args⟩ := ref
  have none (needed : neededArgs name = 0) : heldArgs (.mk name args) = [] := by
    rw [heldArgs, needed, List.take_zero]
  cases builtin : isBuiltin name with
  | false =>
      have needed := neededArgs_of_declared builtin
      exact .of_plain needed (none needed)
        ((typeOf_mk _ _).trans (typeWith_of_declared builtin _))
  | true =>
      rcases builtin_cases name (List.contains_iff_mem.1 builtin) with
        scalar | object | (rfl | rfl) | rfl | rfl
      · obtain ⟨text, found⟩ := Option.isSome_iff_exists.1 scalar
        have needed := (isBuiltin_of_mem_scalars name (mem_scalars_of_scalar? found)).2.2
        exact .of_plain needed (none needed) ((typeOf_mk _ _).trans (typeWith_scalar found _))
      · obtain ⟨⟨_, text⟩, found, rfl⟩ := List.mem_map.1 object
        have needed := (isBuiltin_of_mem_objects _ found).2.2.2.1
        exact .of_plain needed (none needed) ((typeOf_mk _ _).trans (typeWith_object found _))
      · exact .of_unary rfl rfl
          ((typeOf_mk _ _).trans (@typeWith_unary _ _ "NSArray" (by simp [generics]) _))
      · exact .of_unary rfl rfl
          ((typeOf_mk _ _).trans (@typeWith_unary _ _ "NSSet" (by simp [generics]) _))
      · exact .of_binary rfl rfl ((typeOf_mk _ _).trans (typeWith_map _))
      · exact .of_unary rfl rfl ((typeOf_mk _ _).trans (typeWith_optional _))

/-- C++ spells at least what Objective-C spells. -/
theorem heldArgs_subset_spelledArgs (typeParams : List String) {ref arg : TypeRef}
    (held : arg ∈ heldArgs ref) : arg ∈ CppTarget.spelledArgs typeParams ref := by
  obtain ⟨name, args⟩ := ref
  rw [heldArgs] at held
  rw [CppTarget.spelledArgs]
  split
  · next unary =>
      rw [neededArgs_unary unary] at held
      exact held
  next notUnary =>
    split
    · next map =>
        subst map
        exact held
    next notMap =>
      rw [neededArgs_plain notUnary notMap, List.take_zero] at held
      cases held

end ObjcTarget

open TypeRef.SpelledFrom in
/-- A type is rejected in C++ and in Objective-C exactly if a type that its spelling is made of
lacks an argument, and Objective-C spells all that C++ spells. -/
theorem incomplete_types_rejected (cpp : CppTarget) (objc : ObjcTarget) (typeParams : List String)
    (ref : TypeRef) :
    ((∃ error, cpp.typeName typeParams ref = .error error ∧ error.code = .invalidDeclaration) ↔
      ∃ inner, CppTarget.Spells typeParams ref inner ∧ inner.LacksArgs) ∧
    ((∃ text, cpp.typeName typeParams ref = .ok text) ↔
      ∀ inner, CppTarget.Spells typeParams ref inner → ¬ inner.LacksArgs) ∧
    ((∃ error, objc.typeOf ref = .error error ∧ error.code = .invalidDeclaration) ↔
      ∃ inner, TypeRef.Within ObjcTarget.heldArgs ref inner ∧ inner.LacksArgs) ∧
    ((∃ type, objc.typeOf ref = .ok type) ↔
      ∀ inner, TypeRef.Within ObjcTarget.heldArgs ref inner → ¬ inner.LacksArgs) ∧
    ((∃ text, cpp.typeName typeParams ref = .ok text) → ∃ type, objc.typeOf ref = .ok type) := by
  have inCpp := cpp.spelledFrom typeParams
  have inObjc := objc.spelledFrom
  simp only [CppTarget.spells_iff_within]
  refine ⟨fails_iff inCpp, ok_iff inCpp, fails_iff inObjc, ok_iff inObjc, fun ran => ?_⟩
  refine (ok_iff inObjc).2 fun inner within => ?_
  refine (ok_iff inCpp).1 ran inner ?_
  exact Relation.ReflTransGen.mono
    (fun _ _ => ObjcTarget.heldArgs_subset_spelledArgs typeParams) _ _ within

/-- Targets without declarations. -/
def bareTargets : CppTarget × ObjcTarget where
  fst :=
    { config :=
        { outFolder := none
          headerOutFolder := none
          includePrefix := ""
          ns := ""
          identStyle := .cpp
          fileIdentStyle := .ofStyle .identity
          headerExt := "hpp"
          optionalTemplate := "std::optional"
          optionalHeader := "<optional>"
          enumHashWorkaround := false }
      decls := [] }
  snd :=
    { config :=
        { outFolder := none
          headerOutFolder := none
          identStyle := .objc
          fileIdentStyle := .ofStyle .camelUpper
          includePrefix := ""
          headerExt := "h"
          swiftBridgingHeaderName := none
          closedEnums := false }
      decls := [] }

/-- A list without elements is rejected in C++ inside a declared type, and not inside a type
parameter. Objective-C rejects it in neither. -/
theorem bare_list_in_box :
    let ref := TypeRef.mk "box" [.mk "list" []]
    (∃ error, bareTargets.1.typeName [] ref = .error error ∧ error.code = .invalidDeclaration) ∧
      (∃ text, bareTargets.1.typeName ["box"] ref = .ok text) ∧
      ∃ type, bareTargets.2.typeOf ref = .ok type := by
  intro ref
  have inDeclared := incomplete_types_rejected bareTargets.1 bareTargets.2 [] ref
  have inParam := incomplete_types_rejected bareTargets.1 bareTargets.2 ["box"] ref
  have ran : ∃ text, bareTargets.1.typeName ["box"] ref = .ok text := ⟨_, rfl⟩
  refine ⟨inDeclared.1.2 ⟨.mk "list" [], .part ?_ (.whole _), by decide⟩, ran, inParam.2.2.2.2 ran⟩
  exact List.mem_cons_self

end BridgeCode
