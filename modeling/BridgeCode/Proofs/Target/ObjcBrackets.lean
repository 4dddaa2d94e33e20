import BridgeCode.Proofs.Declaration.Plain
import BridgeCode.Proofs.Text.Order

/-!
Brackets in Objective-C headers.

A declaration and a configuration without brackets lead to spellings and imports that leave none
open (`even_typeOf`, `even_importLines`). The parentheses around the types of parameters and results
are closed where they are opened, and the braces of an enum are the only ones, so a header leaves
nothing open (`even_headerOf`).
-/

namespace BridgeCode

open Text (brackets)
open Writing (Nests Even)
open Ident.Bundle (brackets_spell)

/-! ## Types -/

/-- The spelling of a type leaves no bracket open, in a declaration and in a collection. -/
structure ObjcType.Even (type : ObjcType) : Prop where
  name : brackets type.name = 1
  boxed : brackets type.boxed = 1

namespace ObjcType

theorem even_scalar {name : String} (even : brackets name = 1) : (scalar name).Even :=
  ⟨even, show brackets number = 1 by decide⟩

theorem even_object {name : String} (even : brackets name = 1) : (object name).Even := ⟨even, even⟩

theorem Even.asParam {type : ObjcType} (even : type.Even) : brackets type.asParam = 1 := by
  unfold ObjcType.asParam
  split
  · next nullability _ =>
      rw [Text.brackets_append, Text.brackets_append, even.name]
      cases nullability <;> decide
  · exact even.name

theorem Even.declare {type : ObjcType} (even : type.Even) {name : String}
    (named : brackets name = 1) : brackets (type.declare name) = 1 := by
  unfold ObjcType.declare
  split
  · rw [Text.brackets_append, even.name, named]
    rfl
  · rw [Text.brackets_append, Text.brackets_append, even.name, named]
    decide

end ObjcType

namespace ObjcTarget

open Render

variable {complete : Prop} {target : ObjcTarget}

theorem brackets_scalar {name scalar : String} (found : scalar? name = some scalar) :
    brackets scalar = 1 := by
  unfold scalar? at found
  split at found <;> cases found <;> decide

/-- A collection of types. -/
theorem brackets_collection {opening inner : String} (front : brackets opening = 1)
    (even : brackets inner = 1) : brackets (opening ++ inner ++ "> *") = 1 := by
  rw [Text.brackets_append, Text.brackets_append, front, even]
  decide

theorem even_typeWith (config : target.config.Plain) {name : String} (plain : Text.Plain name)
    {args : List (Except GenerateError ObjcType)}
    (each : ∀ arg ∈ args, Delivers False ObjcType.Even arg) :
    Delivers False ObjcType.Even (target.typeWith name args) := by
  unfold typeWith
  split
  · next scalar found => exact .pure (ObjcType.even_scalar (brackets_scalar found))
  · split
    · exact .pure (ObjcType.even_object (by decide))
    · exact .pure (ObjcType.even_object (by decide))
    · exact .pure (ObjcType.even_object (by decide))
    · refine .bind (.requireArg each 0) fun inner even => .pure ?_
      exact ObjcType.even_object (brackets_collection (by decide) even.boxed)
    · refine .bind (.requireArg each 0) fun inner even => .pure ?_
      exact ObjcType.even_object (brackets_collection (by decide) even.boxed)
    · refine .bind (.requireArg each 0) fun key evenKey => ?_
      refine .bind (.requireArg each 1) fun value evenValue => .pure ?_
      refine ObjcType.even_object (brackets_collection ?_ evenValue.boxed)
      rw [Text.brackets_append, Text.brackets_append, evenKey.boxed]
      decide
    · exact .bind (.requireArg each 0) fun inner even => .pure ⟨even.boxed, even.boxed⟩
    · have spelled := brackets_spell config.leads .ty plain
      refine .pure ?_
      split
      · exact ObjcType.even_scalar spelled
      · refine ObjcType.even_object ?_
        rw [Text.brackets_append, spelled]
        decide

mutual

/-- A type in which no name has a bracket is spelled without leaving one open. -/
theorem even_typeOf (config : target.config.Plain) : ∀ ref : TypeRef,
    (∀ name ∈ ref.referenced, Text.Plain name) → Delivers False ObjcType.Even (target.typeOf ref)
  | .mk name args, plain => by
      rw [TypeRef.referenced, List.forall_mem_cons] at plain
      rw [typeOf]
      exact even_typeWith config plain.1 (even_typesOf config args plain.2)

theorem even_typesOf (config : target.config.Plain) : ∀ refs : List TypeRef,
    (∀ name ∈ TypeRef.referencedList refs, Text.Plain name) →
      ∀ result ∈ target.typesOf refs, Delivers False ObjcType.Even result
  | [], _ => by
      rw [typesOf]
      nofun
  | ref :: refs, plain => by
      rw [TypeRef.referencedList, List.forall_mem_append] at plain
      rw [typesOf, List.forall_mem_cons]
      exact ⟨even_typeOf config ref plain.1, even_typesOf config refs plain.2⟩

end

/-- The spelling of a type that can be spelled if all is complete. -/
theorem delivers_typeOf (config : target.config.Plain) {ref : TypeRef}
    (plain : ∀ name ∈ ref.referenced, Text.Plain name)
    (found : complete → ∃ type, target.typeOf ref = .ok type) :
    Delivers complete ObjcType.Even (target.typeOf ref) :=
  .of_found (even_typeOf config ref plain) found

theorem delivers_paramType (config : target.config.Plain) {ref : TypeRef}
    (plain : ∀ name ∈ ref.referenced, Text.Plain name)
    (found : complete → ∃ type, target.typeOf ref = .ok type) :
    Delivers complete (brackets · = 1) (target.paramType ref) := by
  have spelled := delivers_typeOf config plain found
  unfold paramType
  cases result : target.typeOf ref with
  | error error =>
      rw [result] at spelled
      exact spelled
  | ok type =>
      rw [result] at spelled
      exact ObjcType.Even.asParam spelled

/-! ## Bodies -/

theorem even_enumBody (config : target.config.Plain) {name : String} {doc : Doc} {body : EnumBody}
    (plainName : Text.Plain name) (docs : ∀ line ∈ doc, Text.Plain line)
    (options : ∀ option ∈ body.options, option.Plain) :
    Even complete (target.enumBody name doc body) := by
  have self := brackets_spell config.leads .ty plainName
  have entries : Even complete (enumOptions (fun option =>
      target.config.identStyle.spell .ty name ++
        target.config.identStyle.spell .enumOption option) body) := by
    refine even_enumOptions (fun option member => ?_) fun option member =>
      (options option member).doc
    rw [Text.brackets_append, self, brackets_spell config.leads _ (options option member).name]
    rfl
  have form : brackets (enumMacro target.config body) = 1 := by
    unfold enumMacro
    split
    · decide
    · split <;> decide
  have type : brackets (if body.flags then "NSUInteger" else "NSInteger") = 1 := by
    split <;> decide
  refine Nests.seq (even_docComment docs) fun _ _ => Nests.seq (Even.line ?_) fun _ _ => ?_
  · simp only [Text.brackets_append, form, type, self]
    decide
  · exact Even.enclosed entries (Nests.line _) (by decide)

theorem nests_keywordParam (config : target.config.Plain) {param : Field} (plain : param.Plain)
    (found : complete → ∃ type, target.typeOf param.type = .ok type) :
    Nests complete (target.keywordParam param) 1
      fun pair => brackets pair.1 = 1 ∧ brackets pair.2 = 1 := by
  have spelled := brackets_spell config.leads .localName plain.name
  refine (Nests.ofExcept (delivers_paramType config plain.type found)).seq fun type even => ?_
  refine .pure ⟨spelled, ?_⟩
  rw [Text.brackets_append, brackets_parens even, spelled]
  rfl

/-- A declaration with keywords, one for each parameter. -/
theorem even_keywordCall (config : target.config.Plain) {call : String} {params : List Field}
    (even : brackets call = 1) (plain : ∀ param ∈ params, param.Plain)
    (found : complete → ∀ param ∈ params, ∃ type, target.typeOf param.type = .ok type) :
    Even complete (do
      alignedKeywordCall call params ";" target.keywordParam
      .newline) := by
  have written := @nests_alignedKeywordCall _ complete call ";" params target.keywordParam
    fun param member =>
      nests_keywordParam config (plain param member) fun whole => found whole param member
  refine Nests.seq (written.of_eq ?_) fun _ _ => .newline
  rw [even]
  decide

theorem even_initializer (config : target.config.Plain) {lead : String} {fields : List Field}
    (even : brackets lead = 1) (plain : ∀ field ∈ fields, field.Plain)
    (found : complete → ∀ field ∈ fields, ∃ type, target.typeOf field.type = .ok type) :
    Even complete (target.initializer lead fields) := by
  cases fields with
  | nil =>
      refine Even.line ?_
      rw [Text.brackets_append, even]
      decide
  | cons first rest =>
      refine even_keywordCall config ?_ plain found
      have keyword := Text.plain_firstUpper (Ident.Bundle.plain_spell config.leads .localName
        (plain first List.mem_cons_self).name)
      rw [Text.brackets_append, Text.brackets_append, even, Text.brackets_of_plain keyword]
      decide

theorem even_property (config : target.config.Plain) {field : Field} (plain : field.Plain)
    (found : complete → ∃ type, target.typeOf field.type = .ok type) :
    Even complete (target.property field) := by
  refine (Nests.ofExcept (delivers_typeOf config plain.type found)).seq fun type even => ?_
  refine Nests.seq .newline fun _ _ => Nests.seq (even_docComment plain.doc) fun _ _ => ?_
  have attributes : brackets (", ".intercalate
      (["nonatomic", "readonly"] ++ (type.nullability.map (·.keyword)).toList)) = 1 := by
    rcases type.nullability with _ | _ | _ <;> decide
  have declared := even.declare (brackets_spell config.leads .field plain.name)
  refine Even.line ?_
  simp only [Text.brackets_append, brackets_parens attributes, declared]
  decide

theorem even_recordBody (config : target.config.Plain) {name : String} {doc : Doc}
    {fields : List Field} (plainName : Text.Plain name) (docs : ∀ line ∈ doc, Text.Plain line)
    (plain : ∀ field ∈ fields, field.Plain)
    (found : complete → ∀ field ∈ fields, ∃ type, target.typeOf field.type = .ok type) :
    Even complete (target.recordBody name doc fields) := by
  have opening : brackets ("@interface " ++ target.config.identStyle.spell .ty name ++
      " : NSObject") = 1 := by
    rw [Text.brackets_append, Text.brackets_append, brackets_spell config.leads .ty plainName]
    decide
  have factory : brackets ("+ (nonnull instancetype)" ++
      target.config.identStyle.spell .localName name) = 1 := by
    rw [Text.brackets_append, brackets_spell config.leads .localName plainName]
    decide
  refine Nests.seq (even_docComment docs) fun _ _ => Nests.seq (Even.line opening) fun _ _ => ?_
  refine Nests.seq (even_initializer config (by decide) plain found) fun _ _ => ?_
  refine Nests.seq (even_initializer config factory plain found) fun _ _ => ?_
  refine Nests.seq (Nests.forM fun field member => ?_) fun _ _ => ?_
  · exact even_property config (plain field member) fun whole => found whole field member
  · exact Nests.seq .newline fun _ _ => Even.line (by decide)

theorem even_method (config : target.config.Plain) {method : Method} (plain : method.Plain)
    (found : complete → ∀ ref ∈ method.types, ∃ type, target.typeOf ref = .ok type) :
    Even complete (target.method method) := by
  have signature : ∀ ret, brackets ret = 1 → Even complete (do
      alignedKeywordCall ((if method.isStatic then "+ " else "- ") ++ parens ret ++
        target.config.identStyle.spell .method method.name) method.params ";" target.keywordParam
      .newline) := by
    intro ret even
    have mark : brackets (if method.isStatic then "+ " else "- ") = 1 := by split <;> decide
    refine even_keywordCall config ?_ plain.params fun whole param member => ?_
    · rw [Text.brackets_append, Text.brackets_append, mark, brackets_parens even,
        brackets_spell config.leads _ plain.name]
      rfl
    · exact found whole _ (List.mem_append_left _ (List.mem_map_of_mem member))
  unfold ObjcTarget.method
  cases isRet : method.ret with
  | none =>
      have nothing : brackets "void" = 1 := by decide
      exact Nests.seq (.pure nothing) signature
  | some ref =>
      refine Nests.seq (.ofExcept (delivers_paramType config (plain.ret ref isRet)
        fun whole => ?_)) signature
      exact found whole ref (List.mem_append_right _ (Option.mem_toList.2 isRet))

theorem even_interfaceBody (config : target.config.Plain) {name : String} {doc : Doc}
    {methods : List Method} (plainName : Text.Plain name) (docs : ∀ line ∈ doc, Text.Plain line)
    (plain : ∀ method ∈ methods, method.Plain)
    (found : complete → ∀ method ∈ methods, ∀ ref ∈ method.types,
      ∃ type, target.typeOf ref = .ok type) :
    Even complete (target.interfaceBody name doc methods) := by
  refine Nests.seq (even_docComment docs) fun _ _ => Nests.seq (Even.line ?_) fun _ _ => ?_
  · rw [Text.brackets_append, Text.brackets_append, brackets_spell config.leads .ty plainName]
    decide
  · refine Nests.seq (Nests.forM fun method member => ?_) fun _ _ => ?_
    · have plain := plain method member
      refine Nests.seq .newline fun _ _ => ?_
      refine Nests.seq (even_methodDoc plain fun _ => Ident.Bundle.plain_spell config.leads _)
        fun _ _ => ?_
      exact even_method config plain fun whole => found whole method member
    · exact Nests.seq .newline fun _ _ => Even.line (by decide)

/-! ## Headers -/

theorem even_importLines (config : target.config.Plain) {refs : List TypeRef}
    (plain : ∀ name ∈ refs.flatMap (·.referenced), Text.Plain name) (self : String) :
    ∀ line ∈ target.importLines self refs, brackets line = 1 := by
  intro line member
  rw [importLines, Text.mem_sortByUnits, List.mem_eraseDups] at member
  obtain ⟨name, among, rfl⟩ := List.mem_map.1 member
  have fileName := Ident.Converter.plain_apply config.fileLead
    (plain name (List.mem_of_mem_filter among))
  simp only [importLine, headerName, Text.brackets_append,
    Text.brackets_of_plain fileName, Text.brackets_of_plain config.includePrefix,
    Text.brackets_of_plain config.headerExt]
  decide

theorem even_headerText (config : target.config.Plain) {origin name : String}
    {refs : List TypeRef} {body : Writing Unit} (plainOrigin : Text.Plain origin)
    (plain : ∀ name ∈ refs.flatMap (·.referenced), Text.Plain name) (even : Even complete body) :
    Even complete (target.headerText origin name refs body) := by
  refine Nests.seq (even_banner (Text.brackets_of_plain plainOrigin)) fun _ _ => ?_
  refine Nests.seq .newline fun _ _ => Nests.seq (Even.line (by decide)) fun _ _ => ?_
  refine Nests.seq (.lines (even_importLines config plain name)) fun _ _ => ?_
  exact Nests.seq .newline fun _ _ => even

/-- The body of the header of a declaration. -/
def bodyOf (target : ObjcTarget) (decl : TypeDecl) : Writing Unit :=
  match decl.body with
  | .enum body => target.enumBody decl.name decl.doc body
  | .record fields => target.recordBody decl.name decl.doc fields
  | .interface methods => target.interfaceBody decl.name decl.doc methods
  | .unsupported .. => pure ()

/-- The text of the header of a declaration. -/
def headerOf (target : ObjcTarget) (decl : TypeDecl) : Writing Unit :=
  target.headerText decl.origin decl.name decl.references (target.bodyOf decl)

/-- The header of a declaration leaves no bracket open. It is written whole if every type in it can
be spelled. -/
theorem even_headerOf (config : target.config.Plain) {decl : TypeDecl} (plain : decl.Plain)
    (found : complete → ∀ ref ∈ decl.references, ∃ type, target.typeOf ref = .ok type) :
    Even complete (target.headerOf decl) := by
  have members := plain.body
  refine even_headerText config plain.origin plain.mentions ?_
  unfold TypeDecl.references at found
  unfold bodyOf
  cases body : decl.body with
  | enum enum =>
      rw [body] at members
      exact even_enumBody config plain.name plain.doc members
  | record fields =>
      rw [body] at members found
      refine even_recordBody config plain.name plain.doc members fun whole field member => ?_
      exact found whole _ (List.mem_map_of_mem member)
  | interface methods =>
      rw [body] at members found
      refine even_interfaceBody config plain.name plain.doc members ?_
      exact fun whole method member ref mentioned =>
        found whole ref (List.mem_flatMap.2 ⟨method, member, mentioned⟩)
  | unsupported _ _ => exact .pure trivial

end ObjcTarget

end BridgeCode
