import BridgeCode.Ident.Style

/-!
Bundles of converters, one for each role that an identifier can have in a target family, and their
replacement by examples.
-/

namespace BridgeCode.Ident

/-- What an identifier names. -/
inductive Role where
  | ty
  | enumType
  | className
  | typeParam
  | property
  | method
  | field
  | localName
  | enumOption
  | constant
  | file
deriving Repr, DecidableEq

/-- The name of a role in a configuration. -/
def Role.name : Role → String
  | .ty => "ty"
  | .enumType => "enumType"
  | .className => "className"
  | .typeParam => "typeParam"
  | .property => "property"
  | .method => "method"
  | .field => "field"
  | .localName => "local"
  | .enumOption => "enum"
  | .constant => "const"
  | .file => "file"

/-- The converters of a target family. Only those of `roles` are ever used. -/
structure Bundle where
  roles : List Role
  converter : Role → Converter

namespace Bundle

/-- The spelling of a token in a role. -/
def spell (bundle : Bundle) (role : Role) (token : String) : String :=
  (bundle.converter role).apply token

/-- The role of a bundle with a given name. -/
def role? (bundle : Bundle) (name : String) : Option Role :=
  bundle.roles.find? (·.name == name)

/-- The bundle with one converter replaced. -/
def set (bundle : Bundle) (role : Role) (converter : Converter) : Bundle :=
  { bundle with converter := fun r => if r = role then converter else bundle.converter r }

/-- C++ spellings. -/
def cpp : Bundle where
  roles := [.ty, .enumType, .typeParam, .method, .field, .localName, .enumOption, .constant]
  converter
    | .method | .field | .localName => .ofStyle .identity
    | .enumOption | .constant => .ofStyle .allCaps
    | _ => .ofStyle .camelUpper

/-- Java spellings. -/
def java : Bundle where
  roles := [.ty, .typeParam, .method, .field, .localName, .enumOption, .constant]
  converter
    | .method | .field | .localName => .ofStyle .camelLower
    | .enumOption | .constant => .ofStyle .allCaps
    | _ => .ofStyle .camelUpper

/-- Objective-C spellings. -/
def objc : Bundle where
  roles := [.ty, .typeParam, .method, .field, .localName, .enumOption, .constant]
  converter
    | .method | .field | .localName => .ofStyle .camelLower
    | _ => .ofStyle .camelUpper

/-- Python spellings. -/
def python : Bundle where
  roles := [.ty, .className, .typeParam, .method, .field, .localName, .enumOption, .constant]
  converter
    | .className => .ofStyle .camelUpper
    | .enumOption => .ofStyle .underscoreCap
    | .constant => .ofStyle .allCaps
    | _ => .ofStyle .identity

/-- C++/CLI spellings. -/
def cppCli : Bundle where
  roles := [.ty, .typeParam, .property, .method, .field, .localName, .enumOption, .constant, .file]
  converter
    | .field => ⟨"_", .camelLower⟩
    | .localName => .ofStyle .camelLower
    | _ => .ofStyle .camelUpper

end Bundle

/-- Why an example cannot replace a converter. -/
inductive StyleError where
  | unknownRole (option : String)
  | badExample (option sample : String)
deriving Repr, DecidableEq

/-- The converter of an example given for `option`. -/
def resolveExample (option sample : String) : Except StyleError Converter :=
  match infer sample with
  | some converter => .ok converter
  | none => .error (.badExample option sample)

/-- Names that every bundle takes for roles although no bundle has them. An example given for one is
checked and its converter kept beside the bundle, except for the last, which is then dropped. -/
def reservedNames : List String :=
  ["constructor", "hasOwnProperty", "isPrototypeOf", "propertyIsEnumerable", "toLocaleString",
    "toString", "valueOf", "__defineGetter__", "__defineSetter__", "__lookupGetter__",
    "__lookupSetter__", "__proto__"]

/-- A bundle with some converters replaced, and those given for reserved names. -/
structure Restyled where
  bundle : Bundle
  reserved : List (String × Converter) := []

/-- Replaces the converter of every role that has an example. The examples are looked at in their
order, and the first that cannot be used is reported; `scope` names the bundle there. -/
def Bundle.restyle (scope : String) (bundle : Bundle) (samples : List (String × Option String)) :
    Except StyleError Restyled :=
  samples.foldlM (fun (acc : Restyled) (name, sample?) =>
    match sample? with
    | none => .ok acc
    | some sample =>
      let option := scope ++ "." ++ name
      match bundle.role? name with
      | some role => do
        let converter ← resolveExample option sample
        return { acc with bundle := acc.bundle.set role converter }
      | none =>
        if reservedNames.contains name then do
          let converter ← resolveExample option sample
          if name = "__proto__" then return acc
          return { acc with reserved := acc.reserved ++ [(name, converter)] }
        else
          .error (.unknownRole option))
    { bundle }

end BridgeCode.Ident
