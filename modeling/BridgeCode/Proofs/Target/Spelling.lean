import BridgeCode.Proofs.Results
import BridgeCode.Target.Cpp

/-!
How types are spelled in C++.

The spelling of a type is made of the spellings of some of its arguments: a map has a place for two,
other templates for one, and a type parameter has none.

* `spellWith_unary`, `spellWith_map`, `spellWith_plain`, `spellWith_declared`: the spelling of each
  kind of name, given the spellings of its arguments.
* `TypeRef.Occurs`: a name occurs in a type, at any depth, spelled or not.
* `CppTarget.Spells`: a type is spelled as a part of another one. What is no part leaves no trace in
  the spelling (`typeName_spelledArgs`), and what is one is found in it (`Spells.piece`).
-/

namespace BridgeCode

namespace TypeRef

/-- The name occurs in the type, at any depth. -/
inductive Occurs (name : String) : TypeRef → Prop
  | head (args : List TypeRef) : Occurs name (.mk name args)
  | arg {other : String} {args : List TypeRef} {arg : TypeRef} (member : arg ∈ args)
      (inner : Occurs name arg) : Occurs name (.mk other args)

theorem occurs_mk_iff {name other : String} {args : List TypeRef} :
    Occurs name (.mk other args) ↔ name = other ∨ ∃ arg ∈ args, Occurs name arg := by
  constructor
  · intro occurs
    cases occurs with
    | head => exact .inl rfl
    | arg member inner => exact .inr ⟨_, member, inner⟩
  · rintro (rfl | ⟨arg, member, inner⟩)
    · exact .head args
    · exact .arg member inner

mutual

theorem mem_referenced_iff {name : String} : ∀ ref : TypeRef,
    name ∈ ref.referenced ↔ ref.Occurs name
  | .mk other args => by
      rw [referenced, List.mem_cons, mem_referencedList_iff args, occurs_mk_iff]

theorem mem_referencedList_iff {name : String} : ∀ refs : List TypeRef,
    name ∈ referencedList refs ↔ ∃ ref ∈ refs, ref.Occurs name
  | [] => by simp [referencedList]
  | ref :: refs => by
      rw [referencedList, List.mem_append, mem_referenced_iff ref, mem_referencedList_iff refs]
      simp only [List.mem_cons, exists_eq_or_imp]

end

end TypeRef

namespace CppTarget

variable {target : CppTarget} {typeParams : List String}

/-! ## How types are spelled -/

/-- The arguments of a declared type, in angle brackets unless there are none. -/
def argumentList (spelled : List String) : String :=
  if spelled.isEmpty then "" else "<" ++ ", ".intercalate spelled ++ ">"

theorem simpleType?_of_declared {name : String} (declared : TypeRef.isBuiltin name = false) :
    simpleType? name = none := by
  unfold simpleType?
  split
  case h_11 => rfl
  all_goals cases declared

/-- Templates with one argument. -/
theorem spellWith_unary {name : String}
    (unary : name = "list" ∨ name = "set" ∨ name = "optional") :
    ∃ opening, ∀ args, target.spellWith typeParams name args =
      (requireArg name args 0).map fun inner => opening ++ inner ++ ">" := by
  rcases unary with rfl | rfl | rfl
  · refine ⟨"std::vector<", fun args => ?_⟩
    cases first : requireArg "list" args 0 <;> simp [spellWith, simpleType?, first] <;> rfl
  · refine ⟨"std::unordered_set<", fun args => ?_⟩
    cases first : requireArg "set" args 0 <;> simp [spellWith, simpleType?, first] <;> rfl
  · refine ⟨target.config.optionalTemplate ++ "<", fun args => ?_⟩
    cases first : requireArg "optional" args 0 <;> simp [spellWith, simpleType?, first] <;> rfl

theorem spellWith_map (args : List (Except GenerateError String)) :
    target.spellWith typeParams "map" args = do
      let key ← requireArg "map" args 0
      let value ← requireArg "map" args 1
      return "std::unordered_map<" ++ key ++ ", " ++ value ++ ">" := rfl

/-- A builtin type is a template, or it has one spelling. -/
theorem builtin_cases : ∀ name ∈ TypeRef.builtins,
    (name = "list" ∨ name = "set" ∨ name = "optional") ∨ name = "map" ∨
      (simpleType? name).isSome = true := by
  decide

/-- All builtin types but the templates, and type parameters, are spelled without arguments. -/
theorem spellWith_plain {name : String}
    (unary : ¬ (name = "list" ∨ name = "set" ∨ name = "optional")) (binary : name ≠ "map")
    (plain : TypeRef.isBuiltin name = true ∨ name ∈ typeParams) :
    ∃ spelled, ∀ args, target.spellWith typeParams name args = .ok spelled := by
  cases builtin : TypeRef.isBuiltin name with
  | true =>
      have simple : (simpleType? name).isSome = true := by
        rcases builtin_cases name (List.contains_iff_mem.1 builtin) with template | map | simple
        · exact absurd template unary
        · exact absurd map binary
        · exact simple
      obtain ⟨spelled, simple⟩ := Option.isSome_iff_exists.1 simple
      refine ⟨spelled, fun args => ?_⟩
      unfold spellWith
      rw [simple]
  | false =>
      have param : name ∈ typeParams := by simpa [builtin] using plain
      refine ⟨target.config.identStyle.spell .typeParam name, fun args => ?_⟩
      unfold spellWith
      rw [simpleType?_of_declared builtin]
      dsimp only
      split
      case h_5 => exact if_pos (List.contains_iff_mem.2 param)
      all_goals cases builtin

/-- A declared name is qualified, and followed by its arguments. -/
theorem spellWith_declared {name : String} (declared : TypeRef.isBuiltin name = false)
    (free : name ∉ typeParams) (args : List (Except GenerateError String)) :
    target.spellWith typeParams name args =
      (args.mapM id).map fun spelled =>
        let kind := target.decls.kind? name
        let role := if kind = some .enum then .enumType else .ty
        let qualified := Render.qualify (some target.config.ns)
          (target.config.identStyle.spell role name) ++ argumentList spelled
        if kind = some .interface then "std::shared_ptr<" ++ qualified ++ ">" else qualified := by
  unfold spellWith
  rw [simpleType?_of_declared declared]
  dsimp only
  split
  case h_5 =>
    rw [if_neg (by simpa using free)]
    cases args.mapM id <;> rfl
  all_goals cases declared

theorem typeNames_eq_map (refs : List TypeRef) :
    typeNames target typeParams refs = refs.map (typeName target typeParams) := by
  induction refs with
  | nil => rfl
  | cons ref refs ih => rw [typeNames, ih, List.map_cons]

theorem typeName_mk (name : String) (args : List TypeRef) :
    typeName target typeParams (.mk name args) =
      target.spellWith typeParams name (args.map (typeName target typeParams)) := by
  rw [typeName, typeNames_eq_map]

/-! ## What is spelled -/

/-- The arguments that the spelling of a type is made of. -/
def spelledArgs (typeParams : List String) : TypeRef → List TypeRef
  | .mk name args =>
    if name = "list" ∨ name = "set" ∨ name = "optional" then args.take 1
    else if name = "map" then args.take 2
    else if TypeRef.isBuiltin name = true ∨ name ∈ typeParams then []
    else args

/-- The spelling of the second type is made into that of the first. -/
inductive Spells (typeParams : List String) : TypeRef → TypeRef → Prop
  | whole (ref : TypeRef) : Spells typeParams ref ref
  | part {ref arg inner : TypeRef} (spelled : arg ∈ spelledArgs typeParams ref)
      (within : Spells typeParams arg inner) : Spells typeParams ref inner

theorem spelledArgs_subset {name : String} {args : List TypeRef} {arg : TypeRef}
    (spelled : arg ∈ spelledArgs typeParams (.mk name args)) : arg ∈ args := by
  rw [spelledArgs] at spelled
  split at spelled
  · exact List.mem_of_mem_take spelled
  split at spelled
  · exact List.mem_of_mem_take spelled
  split at spelled
  · cases spelled
  · exact spelled

theorem Spells.occurs {ref inner : TypeRef} (spells : Spells typeParams ref inner) :
    ref.Occurs inner.name := by
  induction spells with
  | whole ref =>
      obtain ⟨name, args⟩ := ref
      exact .head args
  | @part ref arg inner spelled _ ih =>
      obtain ⟨name, args⟩ := ref
      exact .arg (spelledArgs_subset spelled) ih

/-- Arguments that are not spelled leave no trace in the spelling, also where it fails. -/
theorem typeName_spelledArgs (name : String) (args : List TypeRef) :
    typeName target typeParams (.mk name (spelledArgs typeParams (.mk name args))) =
      typeName target typeParams (.mk name args) := by
  rw [typeName_mk, typeName_mk, spelledArgs]
  split
  · next unary =>
      obtain ⟨opening, spells⟩ := @spellWith_unary target typeParams name unary
      rw [spells, spells]
      cases args <;> rfl
  next notUnary =>
    split
    · next map =>
        subst map
        rw [spellWith_map, spellWith_map]
        rcases args with - | ⟨key, - | ⟨value, rest⟩⟩ <;> rfl
    next notMap =>
      split
      · next plain =>
          obtain ⟨spelled, spells⟩ := @spellWith_plain target typeParams name notUnary notMap plain
          rw [spells, spells]
      · rfl

/-- Each text of a list is found in the list that is written with commas. -/
theorem infix_intercalate {text : String} {texts : List String} (member : text ∈ texts)
    (separator : String) : text.toList <:+: (separator.intercalate texts).toList := by
  induction texts with
  | nil => cases member
  | cons first rest ih =>
      cases rest with
      | nil =>
          obtain rfl := List.mem_singleton.1 member
          exact ⟨[], [], by simp [String.intercalate_singleton]⟩
      | cons next rest =>
          rw [String.intercalate_cons_cons, String.toList_append, String.toList_append]
          rcases List.mem_cons.1 member with rfl | later
          · exact ⟨[], _, by rw [List.nil_append, List.append_assoc]⟩
          · exact (ih later).trans (List.suffix_append _ _).isInfix

/-- A declared type is spelled with all its arguments. -/
theorem piece_of_declared {name text : String} {args : List TypeRef} {arg : TypeRef}
    (declared : TypeRef.isBuiltin name = false) (free : name ∉ typeParams) (member : arg ∈ args)
    (spells : typeName target typeParams (.mk name args) = .ok text) :
    ∃ piece, typeName target typeParams arg = .ok piece ∧ piece.toList <:+: text.toList := by
  rw [typeName_mk, spellWith_declared declared free] at spells
  obtain ⟨pieces, ran, rfl⟩ := exists_ok_of_map spells
  obtain ⟨piece, among, ranArg⟩ :=
    ok_of_mem_mapM ran (List.mem_map_of_mem (f := typeName target typeParams) member)
  refine ⟨piece, ranArg, ?_⟩
  have listed : piece.toList <:+: (argumentList pieces).toList := by
    have nonempty : pieces.isEmpty = false :=
      List.isEmpty_eq_false_iff.2 (List.ne_nil_of_mem among)
    rw [argumentList, if_neg (by simp [nonempty])]
    refine (infix_intercalate among ", ").trans ?_
    exact ⟨"<".toList, ">".toList, by simp⟩
  refine listed.trans ?_
  dsimp only
  generalize Render.qualify _ _ = qualified
  split
  · exact ⟨("std::shared_ptr<" ++ qualified).toList, ">".toList, by simp⟩
  · rw [String.toList_append]
    exact (List.suffix_append _ _).isInfix

/-- A map is spelled with its first two arguments. -/
theorem piece_of_map {text : String} {args : List TypeRef} {arg : TypeRef}
    (member : arg ∈ args.take 2) (spells : typeName target typeParams (.mk "map" args) = .ok text) :
    ∃ piece, typeName target typeParams arg = .ok piece ∧ piece.toList <:+: text.toList := by
  rw [typeName_mk, spellWith_map] at spells
  obtain ⟨key, ranKey, spells⟩ := exists_ok_of_bind spells
  obtain ⟨value, ranValue, spells⟩ := exists_ok_of_bind spells
  cases spells
  rcases args with - | ⟨first, - | ⟨second, rest⟩⟩
  · cases member
  · cases ranValue
  · rcases List.mem_cons.1 member with rfl | later
    · exact ⟨key, ranKey, "std::unordered_map<".toList, (", " ++ value ++ ">").toList, by simp⟩
    · obtain rfl := List.mem_singleton.1 later
      exact ⟨value, ranValue, ("std::unordered_map<" ++ key ++ ", ").toList, ">".toList, by simp⟩

/-- The spelling of an argument that is spelled is found in that of the type. -/
theorem piece_of_arg {ref arg : TypeRef} {text : String}
    (spelled : arg ∈ spelledArgs typeParams ref)
    (spells : typeName target typeParams ref = .ok text) :
    ∃ piece, typeName target typeParams arg = .ok piece ∧ piece.toList <:+: text.toList := by
  obtain ⟨name, args⟩ := ref
  rw [spelledArgs] at spelled
  split at spelled
  · next unary =>
      obtain ⟨opening, spellsAs⟩ := @spellWith_unary target typeParams name unary
      rw [typeName_mk, spellsAs] at spells
      cases args with
      | nil => cases spelled
      | cons first rest =>
          obtain rfl := List.mem_singleton.1 spelled
          obtain ⟨piece, ran, rfl⟩ := exists_ok_of_map spells
          exact ⟨piece, ran, opening.toList, ">".toList, by simp⟩
  split at spelled
  · next map =>
      subst map
      exact piece_of_map spelled spells
  split at spelled
  · cases spelled
  · next declared =>
      obtain ⟨builtin, free⟩ := not_or.1 declared
      exact piece_of_declared (Bool.eq_false_iff.2 builtin) free spelled spells

/-- The spelling of every part is found in that of the whole. -/
theorem Spells.piece {ref inner : TypeRef} (within : Spells typeParams ref inner) {text : String}
    (spells : typeName target typeParams ref = .ok text) :
    ∃ piece, typeName target typeParams inner = .ok piece ∧ piece.toList <:+: text.toList := by
  induction within generalizing text with
  | whole ref => exact ⟨text, spells, List.infix_refl _⟩
  | part spelled _ ih =>
      obtain ⟨middle, ran, outer⟩ := piece_of_arg spelled spells
      obtain ⟨piece, ranInner, inner⟩ := ih ran
      exact ⟨piece, ranInner, inner.trans outer⟩

end CppTarget

end BridgeCode
