import BridgeCode.Proofs.Render.Lines
import BridgeCode.Proofs.Target.Descriptor

/-!
Objective-C types in declarations and in collections.

A type has two spellings: one in a declaration and one inside a collection, where only pointers may
stand. Scalars and enums differ in the two, and they alone have no nullability.

* `ObjcTarget.Spelled`: what a type is spelled as, by the kind of its name.
* `ObjcTarget.isPointer_boxed`: inside a collection every type is a pointer.
* `ObjcTarget.GenericArg`: a type stands between angle brackets in the spelling of another one, at
  any depth. It stands there as it is spelled in collections (`GenericArg.bracketed`).
* `ObjcTarget.writesLines_property`: the lines of a property.
-/

namespace BridgeCode

/-! ## Types and their arguments -/

namespace TypeRef

mutual

/-- What holds of every type whose arguments it holds of, holds of all types. -/
theorem args_induction {motive : TypeRef → Prop}
    (step : ∀ name args, (∀ arg ∈ args, motive arg) → motive (.mk name args)) :
    ∀ ref : TypeRef, motive ref
  | .mk name args => step name args (args_induction_list step args)

theorem args_induction_list {motive : TypeRef → Prop}
    (step : ∀ name args, (∀ arg ∈ args, motive arg) → motive (.mk name args)) :
    ∀ refs : List TypeRef, ∀ ref ∈ refs, motive ref
  | [] => nofun
  | ref :: refs => List.forall_mem_cons.2 ⟨args_induction step ref, args_induction_list step refs⟩

end

/-- The builtin types that are passed by value. -/
def scalars : List String := ["bool", "i8", "i16", "i32", "i64", "f32", "f64"]

/-- How many arguments a builtin type needs. -/
def neededArgs : String → Nat
  | "list" | "set" | "optional" => 1
  | "map" => 2
  | _ => 0

theorem neededArgs_of_declared {name : String} (declared : isBuiltin name = false) :
    neededArgs name = 0 := by
  unfold neededArgs
  split
  case h_5 => rfl
  all_goals cases declared

end TypeRef

section

variable {α : Type} {name : String} {args : List TypeRef}
  {result : TypeRef → Except GenerateError α} {index : Nat}

theorem requireArg_map_ok {value : α} (ran : requireArg name (args.map result) index = .ok value) :
    ∃ arg, args[index]? = some arg ∧ result arg = .ok value := by
  unfold requireArg at ran
  rw [List.getElem?_map] at ran
  cases found : args[index]? with
  | none =>
      rw [found] at ran
      cases ran
  | some arg =>
      rw [found] at ran
      exact ⟨arg, rfl, ran⟩

end

namespace ObjcType

/-- The text is that of a pointer. -/
def IsPointer (text : String) : Prop := text.toList.getLast? = some '*'

instance (text : String) : Decidable (IsPointer text) :=
  inferInstanceAs (Decidable (text.toList.getLast? = some '*'))

theorem isPointer_append {text more : String} (pointer : IsPointer more) :
    IsPointer (text ++ more) := by
  unfold IsPointer at pointer ⊢
  rw [String.toList_append, List.getLast?_append, pointer]
  rfl

end ObjcType

namespace ObjcTarget

open Render ObjcType

variable {target : ObjcTarget}

/-! ## How types are spelled -/

/-- The builtin classes that are no collections. -/
def objects : List (String × String) :=
  [("string", "NSString *"), ("binary", "NSData *"), ("date", "NSDate *")]

/-- The builtin collections, each with its class and the number of its arguments. -/
def generics : List (String × String × Nat) :=
  [("list", "NSArray", 1), ("set", "NSSet", 1), ("map", "NSDictionary", 2)]

/-- A pointer to a collection of types. -/
def genericText (head : String) (inners : List ObjcType) : String :=
  head ++ "<" ++ ", ".intercalate (inners.map (·.boxed)) ++ "> *"

/-- What a type with this name and these arguments is spelled as. -/
inductive Spelled (target : ObjcTarget) (name : String) (args : List TypeRef) : ObjcType → Prop
  | scalar {text : String} (found : scalar? name = some text) :
      Spelled target name args (.scalar text)
  | object {text : String} (found : (name, text) ∈ objects) :
      Spelled target name args (.object text)
  | generic {head : String} {arity : Nat} {inners : List ObjcType}
      (found : (name, head, arity) ∈ generics) (count : inners.length = arity)
      (each : (args.take arity).map target.typeOf = inners.map .ok) :
      Spelled target name args (.object (genericText head inners))
  | optional {first : TypeRef} {inner : ObjcType} (isOptional : name = "optional")
      (held : args[0]? = some first) (ran : target.typeOf first = .ok inner) :
      Spelled target name args ⟨inner.boxed, inner.boxed, some .nullable⟩
  | enum (declared : TypeRef.isBuiltin name = false)
      (kind : target.decls.kind? name = some .enum) :
      Spelled target name args (.scalar (target.config.identStyle.spell .ty name))
  | pointer (declared : TypeRef.isBuiltin name = false)
      (kind : target.decls.kind? name ≠ some .enum) :
      Spelled target name args (.object (target.config.identStyle.spell .ty name ++ " *"))

theorem typesOf_eq_map (refs : List TypeRef) : target.typesOf refs = refs.map target.typeOf := by
  induction refs with
  | nil => rfl
  | cons ref refs ih => rw [typesOf, ih, List.map_cons]

theorem typeOf_mk (name : String) (args : List TypeRef) :
    target.typeOf (.mk name args) = target.typeWith name (args.map target.typeOf) := by
  rw [typeOf, typesOf_eq_map]

theorem genericText_one (head : String) (inner : ObjcType) :
    genericText head [inner] = head ++ "<" ++ inner.boxed ++ "> *" := by
  rw [genericText, List.map_singleton, String.intercalate_singleton]

theorem genericText_two (head : String) (key value : ObjcType) :
    genericText head [key, value] =
      head ++ "<" ++ key.boxed ++ ", " ++ value.boxed ++ "> *" := by
  rw [genericText, List.map_cons, List.map_singleton, String.intercalate_cons_cons,
    String.intercalate_singleton]
  simp only [String.append_assoc]

theorem typeWith_scalar {name text : String} (found : scalar? name = some text)
    (args : List (Except GenerateError ObjcType)) :
    target.typeWith name args = .ok (.scalar text) := by
  unfold typeWith
  rw [found]

theorem typeWith_object {name text : String} (found : (name, text) ∈ objects)
    (args : List (Except GenerateError ObjcType)) :
    target.typeWith name args = .ok (.object text) := by
  simp only [objects, List.mem_cons, Prod.mk.injEq, List.not_mem_nil, or_false] at found
  rcases found with ⟨rfl, rfl⟩ | ⟨rfl, rfl⟩ | ⟨rfl, rfl⟩ <;> rfl

/-- Collections with one argument. -/
theorem typeWith_unary {name head : String} (found : (name, head, 1) ∈ generics)
    (args : List (Except GenerateError ObjcType)) :
    target.typeWith name args =
      (requireArg name args 0).map fun inner => .object (genericText head [inner]) := by
  simp only [genericText_one]
  simp only [generics, List.mem_cons, Prod.mk.injEq, List.not_mem_nil, or_false] at found
  rcases found with ⟨rfl, rfl, -⟩ | ⟨rfl, rfl, -⟩ | ⟨-, -, two⟩
  · cases first : requireArg "list" args 0 <;> simp [typeWith, scalar?, first] <;> rfl
  · cases first : requireArg "set" args 0 <;> simp [typeWith, scalar?, first] <;> rfl
  · cases two

theorem typeWith_map (args : List (Except GenerateError ObjcType)) :
    target.typeWith "map" args = do
      let key ← requireArg "map" args 0
      let value ← requireArg "map" args 1
      return .object (genericText "NSDictionary" [key, value]) := by
  simp only [genericText_two]
  rfl

theorem typeWith_optional (args : List (Except GenerateError ObjcType)) :
    target.typeWith "optional" args =
      (requireArg "optional" args 0).map fun inner =>
        ⟨inner.boxed, inner.boxed, some .nullable⟩ := by
  cases first : requireArg "optional" args 0 <;> simp [typeWith, scalar?, first] <;> rfl

/-- A builtin type is a scalar, a class, a collection or an optional. -/
theorem builtin_cases : ∀ name ∈ TypeRef.builtins,
    (scalar? name).isSome = true ∨ name ∈ objects.map (·.1) ∨ (name = "list" ∨ name = "set") ∨
      name = "map" ∨ name = "optional" := by
  decide

theorem Spelled.of_unary {name head : String} {args : List TypeRef} {type : ObjcType}
    (found : (name, head, 1) ∈ generics)
    (ran : target.typeWith name (args.map target.typeOf) = .ok type) :
    Spelled target name args type := by
  rw [typeWith_unary found] at ran
  obtain ⟨inner, required, rfl⟩ := exists_ok_of_map ran
  obtain ⟨first, held, spelled⟩ := requireArg_map_ok required
  cases args with
  | nil => cases held
  | cons other rest =>
      cases held
      exact .generic found rfl (congrArg (fun result => [result]) spelled)

theorem Spelled.of_map {args : List TypeRef} {type : ObjcType}
    (ran : target.typeWith "map" (args.map target.typeOf) = .ok type) :
    Spelled target "map" args type := by
  rw [typeWith_map] at ran
  obtain ⟨key, requiredKey, ran⟩ := exists_ok_of_bind ran
  obtain ⟨value, requiredValue, made⟩ := exists_ok_of_bind ran
  cases made
  obtain ⟨first, held, spelledKey⟩ := requireArg_map_ok requiredKey
  obtain ⟨second, held', spelledValue⟩ := requireArg_map_ok requiredValue
  rcases args with - | ⟨other, - | ⟨next, rest⟩⟩
  · cases held
  · cases held'
  · cases held
    cases held'
    have each : [target.typeOf first, target.typeOf second] = [key, value].map .ok := by
      rw [spelledKey, spelledValue]
      rfl
    exact .generic (by simp [generics]) rfl each

theorem Spelled.of_optional {args : List TypeRef} {type : ObjcType}
    (ran : target.typeWith "optional" (args.map target.typeOf) = .ok type) :
    Spelled target "optional" args type := by
  rw [typeWith_optional] at ran
  obtain ⟨inner, required, rfl⟩ := exists_ok_of_map ran
  obtain ⟨first, held, spelled⟩ := requireArg_map_ok required
  exact .optional rfl held spelled

theorem spelled_of_typeOf {name : String} {args : List TypeRef} {type : ObjcType}
    (ran : target.typeOf (.mk name args) = .ok type) : Spelled target name args type := by
  rw [typeOf_mk] at ran
  cases builtin : TypeRef.isBuiltin name with
  | false =>
      rw [typeWith_of_declared builtin] at ran
      cases ran
      split
      · next kind => exact .enum builtin kind
      · next kind => exact .pointer builtin kind
  | true =>
      rcases builtin_cases name (List.contains_iff_mem.1 builtin) with
        scalar | object | (rfl | rfl) | rfl | rfl
      · obtain ⟨text, found⟩ := Option.isSome_iff_exists.1 scalar
        rw [typeWith_scalar found] at ran
        cases ran
        exact .scalar found
      · obtain ⟨⟨_, text⟩, found, rfl⟩ := List.mem_map.1 object
        rw [typeWith_object found] at ran
        cases ran
        exact .object found
      · exact .of_unary (List.mem_cons_self) ran
      · exact .of_unary (List.mem_cons_of_mem _ List.mem_cons_self) ran
      · exact .of_map ran
      · exact .of_optional ran

/-! ## Nullability -/

/-- The type is passed by value: a scalar, or an enum among the declarations. -/
def IsValue (target : ObjcTarget) (name : String) : Prop :=
  name ∈ TypeRef.scalars ∨
    TypeRef.isBuiltin name = false ∧ target.decls.kind? name = some .enum

theorem isBuiltin_of_mem_scalars : ∀ name ∈ TypeRef.scalars,
    TypeRef.isBuiltin name = true ∧ name ≠ "optional" ∧ TypeRef.neededArgs name = 0 := by
  decide

theorem isBuiltin_of_mem_objects : ∀ entry ∈ objects, TypeRef.isBuiltin entry.1 = true ∧
    entry.1 ≠ "optional" ∧ entry.1 ∉ TypeRef.scalars ∧ TypeRef.neededArgs entry.1 = 0 ∧
    IsPointer entry.2 := by
  decide

theorem isBuiltin_of_mem_generics : ∀ entry ∈ generics, TypeRef.isBuiltin entry.1 = true ∧
    entry.1 ≠ "optional" ∧ entry.1 ∉ TypeRef.scalars ∧
    TypeRef.neededArgs entry.1 = entry.2.2 ∧ entry.2.2 ≠ 0 := by
  decide

/-- A collection has one entry in the table. -/
theorem eq_of_mem_generics : ∀ entry ∈ generics, ∀ other ∈ generics,
    entry.1 = other.1 → entry = other := by
  decide

theorem mem_scalars_of_scalar? {name text : String} (found : scalar? name = some text) :
    name ∈ TypeRef.scalars := by
  unfold scalar? at found
  split at found
  case h_8 => cases found
  all_goals simp [TypeRef.scalars]

theorem ne_of_declared {name builtin : String} (declared : TypeRef.isBuiltin name = false)
    (isBuiltin : TypeRef.isBuiltin builtin = true) : name ≠ builtin := by
  rintro rfl
  rw [isBuiltin] at declared
  cases declared

/-- A builtin type that is no scalar is no value. -/
theorem not_isValue_of_builtin {name : String} (builtin : TypeRef.isBuiltin name = true)
    (other : name ∉ TypeRef.scalars) : ¬ target.IsValue name := by
  rintro (scalar | ⟨declared, -⟩)
  · exact other scalar
  · exact ne_of_declared declared builtin rfl

/-- Optionals may be null, values have no nullability, and nothing else may be null. -/
theorem Spelled.nullability_cases {name : String} {args : List TypeRef} {type : ObjcType}
    (spelled : Spelled target name args type) :
    type.nullability = some .nullable ∧ name = "optional" ∧ ¬ target.IsValue name ∨
    type.nullability = none ∧ name ≠ "optional" ∧ target.IsValue name ∨
    type.nullability = some .nonnull ∧ name ≠ "optional" ∧ ¬ target.IsValue name := by
  cases spelled with
  | scalar found =>
      have scalar := mem_scalars_of_scalar? found
      exact .inr (.inl ⟨rfl, (isBuiltin_of_mem_scalars name scalar).2.1, .inl scalar⟩)
  | object found =>
      obtain ⟨builtin, apart, other, -⟩ := isBuiltin_of_mem_objects _ found
      exact .inr (.inr ⟨rfl, apart, not_isValue_of_builtin builtin other⟩)
  | generic found =>
      obtain ⟨builtin, apart, other, -⟩ := isBuiltin_of_mem_generics _ found
      exact .inr (.inr ⟨rfl, apart, not_isValue_of_builtin builtin other⟩)
  | optional isOptional =>
      subst isOptional
      exact .inl ⟨rfl, rfl, not_isValue_of_builtin rfl (by decide)⟩
  | enum declared kind =>
      exact .inr (.inl ⟨rfl, ne_of_declared declared rfl, .inr ⟨declared, kind⟩⟩)
  | pointer declared kind =>
      refine .inr (.inr ⟨rfl, ne_of_declared declared rfl, not_or.2 ⟨fun scalar => ?_, ?_⟩⟩)
      · exact ne_of_declared declared (isBuiltin_of_mem_scalars name scalar).1 rfl
      · exact fun enum => kind enum.2

/-! ## Pointers -/

/-- A value is boxed as a number. -/
theorem Spelled.boxed_of_isValue {name : String} {args : List TypeRef} {type : ObjcType}
    (spelled : Spelled target name args type) (value : target.IsValue name) :
    type.boxed = number := by
  rcases spelled.nullability_cases with ⟨-, -, other⟩ | ⟨none, -⟩ | ⟨-, -, other⟩
  · exact absurd value other
  · cases spelled with
    | scalar | enum => rfl
    | object | generic | optional | pointer => cases none
  · exact absurd value other

/-- A type that is a pointer in a declaration is the same pointer in a collection. -/
theorem Spelled.name_eq_boxed {name : String} {args : List TypeRef} {type : ObjcType}
    (spelled : Spelled target name args type) (pointer : type.nullability ≠ none) :
    type.name = type.boxed := by
  cases spelled with
  | scalar | enum => exact absurd rfl pointer
  | object | generic | optional | pointer => rfl

/-- Inside a collection every type is a pointer. -/
theorem isPointer_boxed {ref : TypeRef} : ∀ {type : ObjcType},
    target.typeOf ref = .ok type → IsPointer type.boxed := by
  induction ref using TypeRef.args_induction with
  | step name args ih =>
      intro type ran
      cases spelled_of_typeOf ran with
      | scalar | enum => exact (by decide : IsPointer number)
      | object found => exact (isBuiltin_of_mem_objects _ found).2.2.2.2
      | generic => exact isPointer_append (by decide)
      | optional _ held spelled =>
          have inner := ih _ (List.mem_of_getElem? held) spelled
          exact inner
      | pointer => exact isPointer_append (by decide)

/-! ## Arguments of collections -/

/-- The piece stands in the text as one of several between angle brackets. -/
def Bracketed (piece text : String) : Prop :=
  ∃ front back, text = front ++ piece ++ back ∧
    ((∃ rest, front = rest ++ "<") ∨ ∃ rest, front = rest ++ ", ") ∧
    ((∃ rest, back = ">" ++ rest) ∨ ∃ rest, back = ", " ++ rest)

theorem Bracketed.trans {piece middle text : String} (inner : Bracketed piece middle)
    (outer : Bracketed middle text) : Bracketed piece text := by
  obtain ⟨front, back, rfl, opened, closed⟩ := inner
  obtain ⟨before, behind, rfl, -, -⟩ := outer
  refine ⟨before ++ front, back ++ behind, by simp only [String.append_assoc], ?_, ?_⟩
  · rcases opened with ⟨rest, rfl⟩ | ⟨rest, rfl⟩
    · exact .inl ⟨before ++ rest, String.append_assoc.symm⟩
    · exact .inr ⟨before ++ rest, String.append_assoc.symm⟩
  · rcases closed with ⟨rest, rfl⟩ | ⟨rest, rfl⟩
    · exact .inl ⟨rest ++ behind, String.append_assoc⟩
    · exact .inr ⟨rest ++ behind, String.append_assoc⟩

/-- A text of a list stands in the joined list, between separators unless at an end. -/
theorem exists_intercalate_eq (separator : String) {text : String} {texts : List String}
    (member : text ∈ texts) :
    ∃ front back, separator.intercalate texts = front ++ text ++ back ∧
      (front = "" ∨ ∃ rest, front = rest ++ separator) ∧
      (back = "" ∨ ∃ rest, back = separator ++ rest) := by
  induction texts with
  | nil => cases member
  | cons first texts ih =>
      cases texts with
      | nil =>
          obtain rfl := List.mem_singleton.1 member
          refine ⟨"", "", ?_, .inl rfl, .inl rfl⟩
          rw [String.intercalate_singleton, String.empty_append, String.append_empty]
      | cons next texts =>
          rw [String.intercalate_cons_cons]
          rcases List.mem_cons.1 member with rfl | later
          · refine ⟨"", separator ++ separator.intercalate (next :: texts), ?_, .inl rfl,
              .inr ⟨_, rfl⟩⟩
            rw [String.empty_append, String.append_assoc]
          · obtain ⟨front, back, split, opened, closed⟩ := ih later
            refine ⟨first ++ separator ++ front, back, ?_, .inr ?_, closed⟩
            · rw [split]
              simp only [String.append_assoc]
            · rcases opened with rfl | ⟨rest, rfl⟩
              · exact ⟨first, String.append_empty⟩
              · exact ⟨first ++ separator ++ rest, String.append_assoc.symm⟩

theorem bracketed_genericText {head : String} {inners : List ObjcType} {inner : ObjcType}
    (member : inner ∈ inners) : Bracketed inner.boxed (genericText head inners) := by
  obtain ⟨front, back, split, opened, closed⟩ :=
    exists_intercalate_eq ", " (List.mem_map_of_mem (f := (·.boxed)) member)
  refine ⟨head ++ "<" ++ front, back ++ "> *", ?_, ?_, ?_⟩
  · rw [genericText, split]
    simp only [String.append_assoc]
  · rcases opened with rfl | ⟨rest, rfl⟩
    · exact .inl ⟨head, String.append_empty⟩
    · exact .inr ⟨head ++ "<" ++ rest, String.append_assoc.symm⟩
  · rcases closed with rfl | ⟨rest, rfl⟩
    · exact .inl ⟨" *", by decide⟩
    · exact .inr ⟨rest ++ "> *", String.append_assoc⟩

/-- The arguments that are spelled: those of a collection and what an optional holds. -/
def heldArgs : TypeRef → List TypeRef
  | .mk name args => args.take (TypeRef.neededArgs name)

/-- A collection is spelled with its arguments. -/
theorem Spelled.of_mem_generics {name head : String} {arity : Nat} {args : List TypeRef}
    {type : ObjcType} (spelled : Spelled target name args type)
    (found : (name, head, arity) ∈ generics) :
    ∃ inners : List ObjcType, inners.length = arity ∧
      (args.take arity).map target.typeOf = inners.map .ok ∧
      type = .object (genericText head inners) := by
  obtain ⟨builtin, apart, other, needed, some⟩ := isBuiltin_of_mem_generics _ found
  cases spelled with
  | scalar scalar => exact absurd (mem_scalars_of_scalar? scalar) other
  | object object =>
      exact absurd (needed.symm.trans (isBuiltin_of_mem_objects _ object).2.2.2.1) some
  | @generic _ _ inners found' count each =>
      cases eq_of_mem_generics _ found _ found' rfl
      exact ⟨inners, count, each, rfl⟩
  | optional isOptional => exact absurd isOptional apart
  | enum declared | pointer declared => exact absurd rfl (ne_of_declared declared builtin)

/-- What a type holds is spelled in it as in a collection, and between brackets unless the type is
an optional. -/
theorem Spelled.held {name : String} {args : List TypeRef} {type : ObjcType}
    (spelled : Spelled target name args type) {arg : TypeRef}
    (held : arg ∈ heldArgs (.mk name args)) :
    type.name = type.boxed ∧ ∃ inner, target.typeOf arg = .ok inner ∧
      (name = "optional" ∧ type.boxed = inner.boxed ∨
        name ≠ "optional" ∧ Bracketed inner.boxed type.boxed) := by
  have empty : TypeRef.neededArgs name ≠ 0 := by
    intro none
    rw [heldArgs, none, List.take_zero] at held
    cases held
  cases spelled with
  | scalar found =>
      exact absurd (isBuiltin_of_mem_scalars _ (mem_scalars_of_scalar? found)).2.2 empty
  | object found => exact absurd (isBuiltin_of_mem_objects _ found).2.2.2.1 empty
  | enum declared | pointer declared =>
      exact absurd (TypeRef.neededArgs_of_declared declared) empty
  | generic found count each =>
      obtain ⟨-, apart, -, arity, -⟩ := isBuiltin_of_mem_generics _ found
      rw [heldArgs, arity] at held
      have ran := List.mem_map_of_mem (f := target.typeOf) held
      rw [each] at ran
      obtain ⟨inner, member, ran⟩ := List.mem_map.1 ran
      exact ⟨rfl, inner, ran.symm, .inr ⟨apart, bracketed_genericText member⟩⟩
  | @optional first inner isOptional found ran =>
      subst isOptional
      have first : arg ∈ args.take 1 := held
      cases args with
      | nil => cases found
      | cons other rest =>
          cases found
          obtain rfl := List.mem_singleton.1 first
          exact ⟨rfl, inner, ran, .inl ⟨rfl, rfl⟩⟩

/-- The second type stands between angle brackets in the spelling of the first one, at any depth. An
optional is spelled as what it holds. -/
inductive GenericArg : TypeRef → TypeRef → Prop
  | own {ref arg : TypeRef} (collection : ref.name ∈ ["list", "set", "map"])
      (held : arg ∈ heldArgs ref) : GenericArg ref arg
  | within {ref arg inner : TypeRef} (held : arg ∈ heldArgs ref) (deeper : GenericArg arg inner) :
      GenericArg ref inner

/-- Between angle brackets a type stands as it is spelled in collections. -/
theorem GenericArg.bracketed {ref arg : TypeRef} (generic : GenericArg ref arg) {type : ObjcType}
    (ran : target.typeOf ref = .ok type) :
    type.name = type.boxed ∧ ∃ inner, target.typeOf arg = .ok inner ∧
      Bracketed inner.boxed type.boxed := by
  induction generic generalizing type with
  | @own ref arg collection held =>
      obtain ⟨name, args⟩ := ref
      obtain ⟨same, inner, ran, ⟨rfl, -⟩ | ⟨-, bracketed⟩⟩ := (spelled_of_typeOf ran).held held
      · exact absurd collection (by decide : "optional" ∉ ["list", "set", "map"])
      · exact ⟨same, inner, ran, bracketed⟩
  | @within ref arg inner held _ ih =>
      obtain ⟨name, args⟩ := ref
      obtain ⟨same, middle, ran, outer⟩ := (spelled_of_typeOf ran).held held
      obtain ⟨-, found, ranInner, bracketed⟩ := ih ran
      refine ⟨same, found, ranInner, ?_⟩
      rcases outer with ⟨-, outer⟩ | ⟨-, outer⟩
      · rw [outer]
        exact bracketed
      · exact bracketed.trans outer

/-! ## Properties -/

/-- The attributes of a property of a type. -/
def attributes (type : ObjcType) : List String :=
  ["nonatomic", "readonly"] ++ (type.nullability.map (·.keyword)).toList

/-- The line that declares a property. -/
def propertyLine (target : ObjcTarget) (type : ObjcType) (name : String) : String :=
  "@property " ++ parens (", ".intercalate (attributes type)) ++ " " ++
    type.declare (target.config.identStyle.spell .field name) ++ ";"

/-- A property is an empty line, its doc and its declaration. -/
theorem writesLines_property {field : Field} {type : ObjcType}
    (ran : target.typeOf field.type = .ok type) :
    (target.property field).WritesLines
      ([""] ++ (docLines field.doc ++ [target.propertyLine type field.name])) := by
  have unfolded : target.property field =
      .newline >>= fun _ => docComment field.doc >>= fun _ =>
        .line (target.propertyLine type field.name) := by
    unfold property
    rw [ran]
    exact pure_bind type _
  rw [unfolded]
  exact .bind (.line "") (.bind (writesLines_docComment field.doc) (.line _))

/-- What the two spellings of a type have to do with each other. -/
structure WellBoxed (target : ObjcTarget) (ref : TypeRef) (type : ObjcType) : Prop where
  /-- Inside a collection the type is a pointer. -/
  pointer : IsPointer type.boxed
  nullable_iff : type.nullability = some .nullable ↔ ref.name = "optional"
  absent_iff : type.nullability = none ↔ target.IsValue ref.name
  nonnull_iff :
    type.nullability = some .nonnull ↔ ref.name ≠ "optional" ∧ ¬ target.IsValue ref.name
  /-- A type with a nullability is spelled in the same way in declarations and in collections. -/
  same : type.nullability ≠ none → type.name = type.boxed
  /-- A collection has exactly its arguments between angle brackets, spelled as in collections. -/
  generic : ∀ head arity, (ref.name, head, arity) ∈ generics →
    ∃ inners : List ObjcType, inners.length = arity ∧
      (ref.args.take arity).map target.typeOf = inners.map .ok ∧
      type.name = head ++ "<" ++ ", ".intercalate (inners.map (·.boxed)) ++ "> *"
  /-- At any depth only pointers stand between angle brackets, and values stand there as numbers. -/
  argument : ∀ arg, GenericArg ref arg → ∃ inner, target.typeOf arg = .ok inner ∧
    Bracketed inner.boxed type.name ∧ IsPointer inner.boxed ∧
    (target.IsValue arg.name → inner.boxed = "NSNumber *")
  /-- The declaration of a property has a nullability only if it declares a pointer. -/
  property : ∀ field : Field, field.type = ref →
    (target.property field).WritesLines
      ([""] ++ (docLines field.doc ++ [target.propertyLine type field.name])) ∧
    (type.nullability ≠ none → IsPointer type.name)

/-- Every type that can be spelled is well boxed. -/
theorem objc_types_well_boxed {target : ObjcTarget} {ref : TypeRef} {type : ObjcType}
    (ran : target.typeOf ref = .ok type) : WellBoxed target ref type := by
  obtain ⟨name, args⟩ := ref
  have spelled := spelled_of_typeOf ran
  have pointer := isPointer_boxed ran
  have kind := spelled.nullability_cases
  refine ⟨pointer, ?_, ?_, ?_, spelled.name_eq_boxed, ?_, ?_, ?_⟩
  · rcases kind with ⟨same, optional, -⟩ | ⟨same, other, -⟩ | ⟨same, other, -⟩
    · exact iff_of_true same optional
    · exact iff_of_false (by rw [same]; nofun) other
    · exact iff_of_false (by rw [same]; nofun) other
  · rcases kind with ⟨same, -, other⟩ | ⟨same, -, value⟩ | ⟨same, -, other⟩
    · exact iff_of_false (by rw [same]; nofun) other
    · exact iff_of_true same value
    · exact iff_of_false (by rw [same]; nofun) other
  · rcases kind with ⟨same, optional, -⟩ | ⟨same, -, value⟩ | ⟨same, apart⟩
    · exact iff_of_false (by rw [same]; nofun) fun other => other.1 optional
    · exact iff_of_false (by rw [same]; nofun) fun other => other.2 value
    · exact iff_of_true same apart
  · intro head arity found
    obtain ⟨inners, count, each, rfl⟩ := spelled.of_mem_generics found
    exact ⟨inners, count, each, rfl⟩
  · intro arg generic
    obtain ⟨same, inner, spelledArg, bracketed⟩ := generic.bracketed ran
    rw [same]
    refine ⟨inner, spelledArg, bracketed, isPointer_boxed spelledArg, ?_⟩
    obtain ⟨name, args⟩ := arg
    exact (spelled_of_typeOf spelledArg).boxed_of_isValue
  · intro field typed
    rw [← typed] at ran
    refine ⟨writesLines_property ran, fun some => ?_⟩
    rw [spelled.name_eq_boxed some]
    exact pointer

/-- A target with one enum. -/
def paletteTarget : ObjcTarget where
  config :=
    { outFolder := none
      headerOutFolder := none
      identStyle := .objc
      fileIdentStyle := .ofStyle .camelUpper
      includePrefix := ""
      headerExt := "h"
      swiftBridgingHeaderName := none
      closedEnums := false }
  decls := [("color", .enum)]

/-- A map to lists of optional enums: the enum stands in it as a number. -/
theorem palette_well_boxed :
    let ref := TypeRef.mk "map"
      [.mk "string" [], .mk "list" [.mk "optional" [.mk "color" []]]]
    let text := "NSDictionary<NSString *, NSArray<NSNumber *> *> *"
    paletteTarget.typeOf ref = .ok ⟨text, text, some .nonnull⟩ ∧
      WellBoxed paletteTarget ref ⟨text, text, some .nonnull⟩ := by
  have ran : paletteTarget.typeOf (.mk "map"
      [.mk "string" [], .mk "list" [.mk "optional" [.mk "color" []]]]) =
      .ok ⟨"NSDictionary<NSString *, NSArray<NSNumber *> *> *",
        "NSDictionary<NSString *, NSArray<NSNumber *> *> *", some .nonnull⟩ := by
    rfl
  exact ⟨ran, objc_types_well_boxed ran⟩

end ObjcTarget

end BridgeCode
