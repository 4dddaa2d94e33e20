/-!
Type references and their text form, such as `map<string, list<i32>>`.
-/

namespace BridgeCode

/-- A reference to a builtin or declared type, with its type arguments. -/
inductive TypeRef where
  | mk (name : String) (args : List TypeRef)
deriving Repr, Inhabited

namespace TypeRef

/-- The name of the referenced type. -/
def name : TypeRef → String
  | .mk name _ => name

/-- The type arguments. -/
def args : TypeRef → List TypeRef
  | .mk _ args => args

mutual

/-- Equality test of references. -/
def beq : TypeRef → TypeRef → Bool
  | .mk a as, .mk b bs => a == b && beqList as bs

/-- Equality test of lists of references. -/
def beqList : List TypeRef → List TypeRef → Bool
  | [], [] => true
  | a :: as, b :: bs => beq a b && beqList as bs
  | _, _ => false

end

instance : BEq TypeRef := ⟨beq⟩

mutual

/-- The text of a reference. -/
def format : TypeRef → String
  | .mk name [] => name
  | .mk name (arg :: rest) => name ++ "<" ++ format arg ++ formatRest rest ++ ">"

/-- The text of further arguments, each after a comma. -/
def formatRest : List TypeRef → String
  | [] => ""
  | arg :: rest => ", " ++ format arg ++ formatRest rest

end

mutual

/-- The names in a reference, its own first, depth first. -/
def referenced : TypeRef → List String
  | .mk name args => name :: referencedList args

/-- The names in a list of references. -/
def referencedList : List TypeRef → List String
  | [] => []
  | arg :: rest => referenced arg ++ referencedList rest

end

/-- The names of the builtin types; every other name refers to a declaration. -/
def builtins : List String :=
  ["bool", "i8", "i16", "i32", "i64", "f32", "f64", "string", "binary", "date", "list", "set",
    "map", "optional"]

/-- Whether a name is builtin. -/
def isBuiltin (name : String) : Bool := builtins.contains name

/-- An argument by its index; a negative index counts from the end. -/
def arg? (ref : TypeRef) (index : Int) : Option TypeRef :=
  let place := if index < 0 then index + ref.args.length else index
  if place < 0 then none else ref.args[place.toNat]?

end TypeRef

end BridgeCode
