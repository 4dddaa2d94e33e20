import BridgeCode.Proofs.Render.Brackets
import BridgeCode.Proofs.Target.Kinds

/-!
Declarations and configurations without brackets.

`TypeDecl.Plain`: no name, no line of a doc and not the origin of a declaration has a brace or a
parenthesis. `CppConfig.Plain`, `ObjcConfig.Plain`: neither has a text of the settings, nor a
literal in front of a spelling.
-/

namespace BridgeCode

open Writing (Even)

/-! ## Declarations -/

/-- No text of a field or of a parameter has a bracket. -/
structure Field.Plain (field : Field) : Prop where
  name : Text.Plain field.name
  doc : ∀ line ∈ field.doc, Text.Plain line
  /-- The names in its type, at any depth. -/
  type : ∀ name ∈ field.type.referenced, Text.Plain name

/-- No text of a method has a bracket. -/
structure Method.Plain (method : Method) : Prop where
  name : Text.Plain method.name
  doc : ∀ line ∈ method.doc, Text.Plain line
  params : ∀ param ∈ method.params, param.Plain
  ret : ∀ ref ∈ method.ret, ∀ name ∈ ref.referenced, Text.Plain name

/-- No text of an option has a bracket. -/
structure EnumOption.Plain (option : EnumOption) : Prop where
  name : Text.Plain option.name
  doc : ∀ line ∈ option.doc, Text.Plain line

/-- No text of a body has a bracket. -/
def DeclBody.Plain : DeclBody → Prop
  | .enum body => ∀ option ∈ body.options, option.Plain
  | .record fields => ∀ field ∈ fields, field.Plain
  | .interface methods => ∀ method ∈ methods, method.Plain
  | .unsupported .. => True

/-- No text of a declaration has a bracket. -/
structure TypeDecl.Plain (decl : TypeDecl) : Prop where
  name : Text.Plain decl.name
  params : ∀ param ∈ decl.params, Text.Plain param
  doc : ∀ line ∈ decl.doc, Text.Plain line
  origin : Text.Plain decl.origin
  body : decl.body.Plain

/-- The names in the types of a declaration have no bracket. -/
theorem TypeDecl.Plain.mentions {decl : TypeDecl} (plain : decl.Plain) :
    ∀ name ∈ decl.mentions, Text.Plain name := by
  have members := plain.body
  intro name member
  obtain ⟨ref, among, named⟩ := List.mem_flatMap.1 member
  unfold TypeDecl.references at among
  cases body : decl.body with
  | enum _ => simp [body] at among
  | record fields =>
      rw [body] at among members
      obtain ⟨field, member, rfl⟩ := List.mem_map.1 among
      exact (members field member).type name named
  | interface methods =>
      rw [body] at among members
      obtain ⟨method, member, mentioned⟩ := List.mem_flatMap.1 among
      rcases List.mem_append.1 mentioned with typed | returned
      · obtain ⟨param, member', rfl⟩ := List.mem_map.1 typed
        exact ((members method member).params param member').type name named
      · exact (members method member).ret ref (Option.mem_toList.1 returned) name named
  | unsupported _ _ => simp [body] at among

/-- The doc of a method, its parameters in their spellings. -/
theorem Render.even_methodDoc {complete : Prop} {spell : String → String} {method : Method}
    (plain : method.Plain) (spelled : ∀ name, Text.Plain name → Text.Plain (spell name)) :
    Even complete (methodDoc spell method) := by
  refine even_docComment (plain_renameParams ?_ plain.doc)
  intro name member
  obtain ⟨param, among, rfl⟩ := List.mem_map.1 member
  exact spelled _ (plain.params param among).name

/-! ## Configurations -/

/-- All roles of identifiers. -/
def Ident.Role.all : List Ident.Role :=
  [.ty, .enumType, .className, .typeParam, .property, .method, .field, .localName, .enumOption,
    .constant, .file]

theorem Ident.Role.mem_all (role : Ident.Role) : role ∈ all := by
  cases role <;> decide

/-- No text of the C++ settings has a bracket. -/
structure CppConfig.Plain (config : CppConfig) : Prop where
  ns : Text.Plain config.ns
  includePrefix : Text.Plain config.includePrefix
  headerExt : Text.Plain config.headerExt
  optionalTemplate : Text.Plain config.optionalTemplate
  optionalHeader : Text.Plain config.optionalHeader
  leads : ∀ role, Text.Plain (config.identStyle.converter role).lead
  fileLead : Text.Plain config.fileIdentStyle.lead

instance (config : CppConfig) : Decidable config.Plain :=
  decidable_of_iff
    (Text.Plain config.ns ∧ Text.Plain config.includePrefix ∧ Text.Plain config.headerExt ∧
      Text.Plain config.optionalTemplate ∧ Text.Plain config.optionalHeader ∧
      (∀ role ∈ Ident.Role.all, Text.Plain (config.identStyle.converter role).lead) ∧
      Text.Plain config.fileIdentStyle.lead)
    ⟨fun ⟨ns, pre, ext, template, header, leads, file⟩ =>
        ⟨ns, pre, ext, template, header, fun role => leads role role.mem_all, file⟩,
      fun ⟨ns, pre, ext, template, header, leads, file⟩ =>
        ⟨ns, pre, ext, template, header, fun role _ => leads role, file⟩⟩

/-- No text of the Objective-C settings has a bracket. -/
structure ObjcConfig.Plain (config : ObjcConfig) : Prop where
  includePrefix : Text.Plain config.includePrefix
  headerExt : Text.Plain config.headerExt
  leads : ∀ role, Text.Plain (config.identStyle.converter role).lead
  fileLead : Text.Plain config.fileIdentStyle.lead

instance (config : ObjcConfig) : Decidable config.Plain :=
  decidable_of_iff
    (Text.Plain config.includePrefix ∧ Text.Plain config.headerExt ∧
      (∀ role ∈ Ident.Role.all, Text.Plain (config.identStyle.converter role).lead) ∧
      Text.Plain config.fileIdentStyle.lead)
    ⟨fun ⟨pre, ext, leads, file⟩ => ⟨pre, ext, fun role => leads role role.mem_all, file⟩,
      fun ⟨pre, ext, leads, file⟩ => ⟨pre, ext, fun role _ => leads role, file⟩⟩

end BridgeCode
