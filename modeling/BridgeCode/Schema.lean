import BridgeCode.Value.Basic

/-!
Checking a document value against the shape it should have.

A check gives a value of the wanted type or a list of issues, each with the path to the place it is
about. Checks of several fields collect the issues of all of them, in the order of the fields.

The tool leaves this to a package. The checks here are those that its documents need: texts, truth
values, lists and maps, with fields that may be left out, have a default or are not known. Their
issues are worded like those of the package.
-/

namespace BridgeCode

/-- A place in a document where it does not have the wanted shape. -/
structure Issue where
  path : List String
  message : String
deriving Repr, DecidableEq

/-- An issue after its path. -/
def Issue.text (issue : Issue) : String :=
  if issue.path.isEmpty then issue.message
  else ".".intercalate issue.path ++ ": " ++ issue.message

/-- The issues of a document on one line. -/
def Issue.summary (issues : List Issue) : String :=
  "; ".intercalate (issues.map Issue.text)

/-- The result of a check. -/
inductive Checked (α : Type) where
  | ok (value : α)
  | bad (issues : List Issue)

namespace Checked

/-- The issues of a result. -/
def issues {α : Type} : Checked α → List Issue
  | .ok _ => []
  | .bad issues => issues

/-- Both results, or the issues of the first and then of the second. -/
def combine {α β γ : Type} (f : α → β → γ) : Checked α → Checked β → Checked γ
  | .ok a, .ok b => .ok (f a b)
  | a, b => .bad (a.issues ++ b.issues)

instance : Applicative Checked where
  pure := .ok
  seq f x := combine (fun g a => g a) f (x ())

/-- All results of a list. -/
def all {α : Type} : List (Checked α) → Checked (List α)
  | [] => .ok []
  | x :: rest => combine List.cons x (all rest)

/-- A result with further issues. -/
def addIssues {α : Type} (more : List Issue) : Checked α → Checked α
  | .ok value => if more.isEmpty then .ok value else .bad more
  | .bad issues => .bad (issues ++ more)

end Checked

namespace Schema

/-- A path from the root of the document. -/
abbrev Path := List String

/-- The name of a value's type, and of an absent value. -/
def typeName : Option Value → String
  | none => "undefined"
  | some .null => "null"
  | some (.bool _) => "boolean"
  | some (.num .nan) => "NaN"
  | some (.num _) => "number"
  | some (.str _) => "string"
  | some (.list _) => "array"
  | some (.map _) => "object"

/-- The issue of a value that is not of the wanted type. -/
def mismatch {α : Type} (wanted : String) (path : Path) (value : Option Value) : Checked α :=
  .bad [⟨path, "Invalid input: expected " ++ wanted ++ ", received " ++ typeName value⟩]

/-- A check of a value that may be absent. -/
abbrev Check (α : Type) := Path → Option Value → Checked α

/-- A text. -/
def text : Check String
  | _, some (.str s) => .ok s
  | path, value => mismatch "string" path value

/-- The issue of a text or list that should have a member. -/
def tooSmall (path : Path) (kind unit : String) : Issue :=
  ⟨path, "Too small: expected " ++ kind ++ " to have >=1 " ++ unit⟩

/-- A text with at least one character. An empty list fails in both ways. -/
def someText : Check String
  | path, some (.str s) =>
    if s.isEmpty then .bad [tooSmall path "string" "characters"] else .ok s
  | path, some (.list []) =>
    (mismatch "string" path (some (.list []))).addIssues [tooSmall path "array" "items"]
  | path, value => mismatch "string" path value

/-- A truth value. -/
def truth : Check Bool
  | _, some (.bool b) => .ok b
  | path, value => mismatch "boolean" path value

/-- A value that may be left out. -/
def optional {α : Type} (check : Check α) : Check (Option α)
  | _, none => .ok none
  | path, value => some <$> check path value

/-- A value with a default. -/
def withDefault {α : Type} (default : α) (check : Check α) : Check α
  | _, none => .ok default
  | path, value => check path value

/-- A list. -/
def listOf {α : Type} (check : Check α) : Check (List α)
  | path, some (.list items) =>
    .all (items.mapIdx fun i item => check (path ++ [toString i]) (some item))
  | path, value => mismatch "array" path value

/-- The fields of a map, handed to the checks of its parts. -/
def object {α : Type} (check : Path → List (String × Value) → Checked α) : Check α
  | path, some (.map fields) => check path fields
  | path, value => mismatch "object" path value

/-- The check of one field. -/
def field {α : Type} (path : Path) (fields : List (String × Value)) (key : String)
    (check : Check α) : Checked α :=
  check (path ++ [key]) (Value.field? fields key)

/-- The issue of the fields that a map should not have. -/
def unrecognized (path : Path) (known : List String) (fields : List (String × Value)) :
    List Issue :=
  let unknown := (fields.map (·.1)).filter (!known.contains ·)
  let quoted := ", ".intercalate (unknown.map fun key => "\"" ++ key ++ "\"")
  match unknown with
  | [] => []
  | [_] => [⟨path, "Unrecognized key: " ++ quoted⟩]
  | _ => [⟨path, "Unrecognized keys: " ++ quoted⟩]

/-- A map whose section may be left out like an empty one. -/
def sectionOf {α : Type} (check : Path → List (String × Value) → Checked α) : Check α
  | path, none => check path []
  | path, value => object check path value

end Schema

end BridgeCode
