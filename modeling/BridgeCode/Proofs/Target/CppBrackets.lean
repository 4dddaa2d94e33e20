import BridgeCode.Proofs.Declaration.Plain
import BridgeCode.Proofs.Text.Order

/-!
Brackets in C++ headers.

A declaration and a configuration without brackets lead to spellings and includes that leave none
open (`even_typeName`, `even_includeLines`), and so do the bodies that are written from them, each
through its own lines: what the lines of an enum, a record, an interface or a hash function object
open, they close. So a header leaves nothing open (`even_headerOf`).
-/

namespace BridgeCode

open Text (brackets)
open Writing (Nests Even)
open Ident.Bundle (brackets_spell)

namespace CppTarget

open Render

variable {complete : Prop} {target : CppTarget} {typeParams : List String}

/-! ## Types -/

theorem brackets_qualify {ns name : String} (plain : Text.Plain ns) (even : brackets name = 1) :
    brackets (qualify (some ns) name) = 1 := by
  unfold qualify
  dsimp only
  split
  · rw [Text.brackets_append, even]
    decide
  · simp only [Text.brackets_append, even, Text.brackets_of_plain plain]
    decide

theorem brackets_simpleType {name simple : String} (found : simpleType? name = some simple) :
    brackets simple = 1 := by
  unfold simpleType? at found
  split at found <;> cases found <;> decide

theorem brackets_template {opening inner : String} (front : brackets opening = 1)
    (even : brackets inner = 1) : brackets (opening ++ inner ++ ">") = 1 := by
  rw [Text.brackets_append, Text.brackets_append, front, even]
  decide

theorem even_spellWith (config : target.config.Plain) {name : String} (plain : Text.Plain name)
    {args : List (Except GenerateError String)}
    (each : ∀ arg ∈ args, Delivers False (brackets · = 1) arg) :
    Delivers False (brackets · = 1) (target.spellWith typeParams name args) := by
  unfold spellWith
  split
  · next simple found => exact brackets_simpleType found
  · split
    · refine .bind (.requireArg each 0) fun inner even => .pure ?_
      exact brackets_template (by decide) even
    · refine .bind (.requireArg each 0) fun inner even => .pure ?_
      exact brackets_template (by decide) even
    · refine .bind (.requireArg each 0) fun key evenKey => ?_
      refine .bind (.requireArg each 1) fun value evenValue => .pure ?_
      refine brackets_template ?_ evenValue
      rw [Text.brackets_append, Text.brackets_append, evenKey]
      decide
    · refine .bind (.requireArg each 0) fun inner even => .pure (brackets_template ?_ even)
      rw [Text.brackets_append, Text.brackets_of_plain config.optionalTemplate]
      decide
    · split
      · exact brackets_spell config.leads _ plain
      · refine .bind (.mapM each) fun spelled even => .pure ?_
        have suffix : brackets (if spelled.isEmpty then "" else
            "<" ++ ", ".intercalate spelled ++ ">") = 1 := by
          split
          · rfl
          · exact brackets_template (by decide) (brackets_commas even)
        have qualified : ∀ role, brackets (qualify (some target.config.ns)
            (target.config.identStyle.spell role name) ++ if spelled.isEmpty then "" else
              "<" ++ ", ".intercalate spelled ++ ">") = 1 := by
          intro role
          rw [Text.brackets_append, suffix,
            brackets_qualify config.ns (brackets_spell config.leads _ plain)]
          rfl
        split
        · exact brackets_template (by decide) (qualified _)
        · exact qualified _

mutual

/-- A type in which no name has a bracket is spelled without leaving one open. -/
theorem even_typeName (config : target.config.Plain) : ∀ ref : TypeRef,
    (∀ name ∈ ref.referenced, Text.Plain name) →
      Delivers False (brackets · = 1) (target.typeName typeParams ref)
  | .mk name args, plain => by
      rw [TypeRef.referenced, List.forall_mem_cons] at plain
      rw [typeName]
      exact even_spellWith config plain.1 (even_typeNames config args plain.2)

theorem even_typeNames (config : target.config.Plain) : ∀ refs : List TypeRef,
    (∀ name ∈ TypeRef.referencedList refs, Text.Plain name) →
      ∀ result ∈ target.typeNames typeParams refs, Delivers False (brackets · = 1) result
  | [], _ => by
      rw [typeNames]
      nofun
  | ref :: refs, plain => by
      rw [TypeRef.referencedList, List.forall_mem_append] at plain
      rw [typeNames, List.forall_mem_cons]
      exact ⟨even_typeName config ref plain.1, even_typeNames config refs plain.2⟩

end

/-- The spelling of a type that can be spelled if all is complete. -/
theorem delivers_typeName (config : target.config.Plain) {ref : TypeRef}
    (plain : ∀ name ∈ ref.referenced, Text.Plain name)
    (found : complete → ∃ text, target.typeName typeParams ref = .ok text) :
    Delivers complete (brackets · = 1) (target.typeName typeParams ref) :=
  .of_found (even_typeName config ref plain) found

theorem delivers_paramType (config : target.config.Plain) {ref : TypeRef}
    (plain : ∀ name ∈ ref.referenced, Text.Plain name)
    (found : complete → ∃ text, target.typeName typeParams ref = .ok text) :
    Delivers complete (brackets · = 1) (target.paramType typeParams ref) := by
  refine .bind (delivers_typeName config plain found) fun name even => .pure ?_
  split
  · exact even
  · rw [Text.brackets_append, Text.brackets_append, even]
    decide

/-- A parameter of a method, its type first. -/
theorem delivers_typedParam (config : target.config.Plain) {param : Field} (plain : param.Plain)
    (found : complete → ∃ text, target.typeName typeParams param.type = .ok text) :
    Delivers complete (brackets · = 1) (do
      return (← target.paramType typeParams param.type) ++ " " ++
        target.config.identStyle.spell .localName param.name) := by
  refine .bind (delivers_paramType config plain.type found) fun type even => .pure ?_
  rw [Text.brackets_append, Text.brackets_append, even, brackets_spell config.leads _ plain.name]
  decide

theorem delivers_methodSignature (config : target.config.Plain) {method : Method}
    (plain : method.Plain)
    (found : complete → ∀ ref ∈ method.types, ∃ text, target.typeName typeParams ref = .ok text) :
    Delivers complete (brackets · = 1) (target.methodSignature typeParams method) := by
  have params : Delivers complete (fun params => ∀ param ∈ params, brackets param = 1)
      (method.params.mapM fun param => do
        return (← target.paramType typeParams param.type) ++ " " ++
          target.config.identStyle.spell .localName param.name) := by
    refine .mapM fun param member => delivers_typedParam config (plain.params param member) ?_
    exact fun whole => found whole _ (List.mem_append_left _ (List.mem_map_of_mem member))
  have signature : ∀ ret params, brackets ret = 1 → (∀ param ∈ params, brackets param = 1) →
      let call := target.config.identStyle.spell .method method.name ++
        parens (", ".intercalate params)
      brackets (if method.isStatic then "static " ++ ret ++ " " ++ call ++ ";"
        else "virtual " ++ ret ++ " " ++ call ++ (if method.isConst then " const" else "") ++
          " = 0;") = 1 := by
    intro ret params evenRet even call
    have evenCall : brackets call = 1 := by
      rw [Text.brackets_append, brackets_spell config.leads _ plain.name,
        brackets_parens (brackets_commas even)]
      rfl
    cases method.isStatic <;> cases method.isConst <;>
      simp only [Bool.false_eq_true, if_true, if_false, Text.brackets_append, evenCall, evenRet] <;>
      decide
  unfold methodSignature
  cases isRet : method.ret with
  | none =>
      have nothing : brackets "void" = 1 := by decide
      exact .bind (.pure nothing) fun ret even =>
        .bind params fun params all => .pure (signature _ _ even all)
  | some ref =>
      refine .bind (delivers_typeName config (plain.ret ref isRet) fun whole => ?_) fun ret even =>
        .bind params fun params all => .pure (signature _ _ even all)
      exact found whole ref (List.mem_append_right _ (Option.mem_toList.2 isRet))

/-! ## Includes -/

theorem plain_ownInclude (config : target.config.Plain) {name : String}
    (plain : Text.Plain name) :
    Text.Plain ("\"" ++ target.config.includePrefix ++ headerName target.config name ++ "\"") := by
  have fileName : Text.Plain (headerName target.config name) :=
    Text.plain_append (Text.plain_append (Ident.Converter.plain_apply config.fileLead plain)
      (by decide)) config.headerExt
  exact Text.plain_append (Text.plain_append (Text.plain_append (by decide) config.includePrefix)
    fileName) (by decide)

theorem plain_includesOfName (config : target.config.Plain) {name : String}
    (plain : Text.Plain name) (self : String) :
    ∀ header ∈ target.includesOfName self typeParams name, Text.Plain header := by
  unfold includesOfName
  split
  all_goals try decide
  · exact List.forall_mem_singleton.2 config.optionalHeader
  · split
    · nofun
    · rw [List.forall_mem_append]
      refine ⟨?_, List.forall_mem_singleton.2 (plain_ownInclude config plain)⟩
      split <;> decide

mutual

theorem plain_includesOf (config : target.config.Plain) (self : String) : ∀ ref : TypeRef,
    (∀ name ∈ ref.referenced, Text.Plain name) →
      ∀ header ∈ target.includesOf self typeParams ref, Text.Plain header
  | .mk name args, plain => by
      rw [TypeRef.referenced, List.forall_mem_cons] at plain
      rw [includesOf, List.forall_mem_append]
      exact ⟨plain_includesOfAll config self args plain.2,
        plain_includesOfName config plain.1 self⟩

theorem plain_includesOfAll (config : target.config.Plain) (self : String) :
    ∀ refs : List TypeRef, (∀ name ∈ TypeRef.referencedList refs, Text.Plain name) →
      ∀ header ∈ target.includesOfAll self typeParams refs, Text.Plain header
  | [], _ => by
      rw [includesOfAll]
      nofun
  | ref :: refs, plain => by
      rw [TypeRef.referencedList, List.forall_mem_append] at plain
      rw [includesOfAll, List.forall_mem_append]
      exact ⟨plain_includesOf config self ref plain.1, plain_includesOfAll config self refs plain.2⟩

end

theorem even_includeLines {targets : List String} (plain : ∀ header ∈ targets, Text.Plain header) :
    ∀ line ∈ includeLines targets, brackets line = 1 := by
  intro line member
  obtain ⟨header, among, rfl⟩ := List.mem_map.1 member
  rw [Text.brackets_append, Text.brackets_of_plain (plain header (mem_sortIncludes.1 among))]
  decide

/-! ## Bodies -/

theorem even_templateHeader (config : target.config.Plain) {params : List String}
    (plain : ∀ param ∈ params, Text.Plain param) :
    Even complete (templateHeader target.config params) := by
  unfold templateHeader
  split
  · exact .pure trivial
  · refine Even.line (brackets_template (by decide) (brackets_commas fun name member => ?_))
    obtain ⟨param, among, rfl⟩ := List.mem_map.1 member
    rw [Text.brackets_append, brackets_spell config.leads _ (plain param among)]
    decide

theorem even_flagOperator {self underlying op : String} (name : brackets self = 1)
    (type : brackets underlying = 1) (symbol : brackets op = 1) :
    Even complete (flagOperator self underlying op) := by
  refine Nests.seq .newline fun _ _ => ?_
  refine Even.enclosed (Even.line ?_) (Nests.line _) ?_
  · simp only [Text.brackets_append, name, type, symbol]
    decide
  · simp only [Text.brackets_append, name, symbol]
    decide

theorem brackets_underlyingType (body : EnumBody) : brackets (underlyingType body) = 1 := by
  unfold underlyingType
  split <;> decide

theorem even_enumBody (config : target.config.Plain) {self : String} {doc : Doc} {body : EnumBody}
    (name : brackets self = 1) (docs : ∀ line ∈ doc, Text.Plain line)
    (options : ∀ option ∈ body.options, option.Plain) :
    Even complete (enumBody target.config self doc body) := by
  have type := brackets_underlyingType body
  have entries : Even complete (enumOptions (target.config.identStyle.spell .enumOption) body) :=
    even_enumOptions
      (fun option member => brackets_spell config.leads _ (options option member).name)
      fun option member => (options option member).doc
  have operators : Even complete (if body.flags then
      ["|", "&", "^"].forM (flagOperator self (underlyingType body)) else pure ()) := by
    split
    · refine Nests.forM fun op member => even_flagOperator name type ?_
      revert op
      decide
    · exact .pure trivial
  refine Nests.seq (even_docComment docs) fun _ _ => ?_
  refine Even.enclosed entries ((Nests.line _).bind fun _ _ => operators) ?_
  simp only [Text.brackets_append, name, type]
  decide

theorem even_enumHash (config : target.config.Plain) {self underlying : String}
    (name : brackets self = 1) (type : brackets underlying = 1) :
    Even complete (enumHash target.config self underlying) := by
  have qualified := brackets_qualify config.ns name
  have call : Even complete (do
      .line ("size_t operator()(" ++ qualify (some target.config.ns) self ++ " type) const \x7b")
      .nested (.line ("return std::hash<" ++ underlying ++ ">()(static_cast<" ++ underlying ++
        ">(type));"))
      .line "\x7d") := by
    refine Even.enclosed (Even.line ?_) (Nests.line _) ?_
    · simp only [Text.brackets_append, type]
      decide
    · simp only [Text.brackets_append, qualified]
      decide
  have object : Nests complete (do
      .line ("struct hash<" ++ qualify (some target.config.ns) self ++ "> \x7b")
      .nested (do
        .line ("size_t operator()(" ++ qualify (some target.config.ns) self ++ " type) const \x7b")
        .nested (.line ("return std::hash<" ++ underlying ++ ">()(static_cast<" ++ underlying ++
          ">(type));"))
        .line "\x7d")
      .line "\x7d;"
      .newline
      .line "\x7d  // namespace std") (brackets "\x7d") fun _ => True := by
    refine .of_eq (.bind (Nests.line _) fun _ _ => call.nested.seq fun _ _ =>
      .bind (Nests.line _) fun _ _ => Nests.seq .newline fun _ _ => Nests.line _) ?_
    simp only [Text.brackets_append, qualified]
    decide
  refine Nests.seq .newline fun _ _ => .of_eq (.bind (Nests.line _) fun _ _ =>
    Nests.seq .newline fun _ _ => Nests.seq (Even.line ?_) fun _ _ => object) ?_
  · decide
  · decide

theorem nests_typed (config : target.config.Plain) {params : List String} {field : Field}
    (plain : field.Plain)
    (found : complete → ∃ text, target.typeName params field.type = .ok text) {name : String}
    (even : brackets name = 1) :
    Nests complete (target.typed params field name) 1 (brackets · = 1) := by
  refine (Nests.ofExcept (delivers_typeName config plain.type found)).seq fun type spelled => ?_
  refine .pure ?_
  rw [Text.brackets_append, Text.brackets_append, spelled, even]
  decide

theorem even_constructorOf (config : target.config.Plain) {self : String} {params : List String}
    {fields : List Field} (name : brackets self = 1) (plain : ∀ field ∈ fields, field.Plain)
    (found : complete → ∀ field ∈ fields, ∃ text, target.typeName params field.type = .ok text) :
    Even complete (target.constructorOf self params fields) := by
  have argument : ∀ field ∈ fields,
      brackets (target.config.identStyle.spell .localName field.name ++ "_") = 1 := by
    intro field member
    rw [Text.brackets_append, brackets_spell config.leads _ (plain field member).name]
    decide
  have call := @nests_alignedCall _ complete (self ++ "(") ")" "," fields _ (by decide)
    fun field member => nests_typed config (plain field member)
      (fun whole => found whole field member) (argument field member)
  refine Nests.seq (call.of_eq ?_) fun _ _ => Nests.seq .newline fun _ _ => ?_
  · rw [Text.brackets_append, name]
    decide
  · refine Nests.seq (Nests.forM fun entry member => ?_) fun _ _ => Even.line (by decide)
    obtain ⟨field, i⟩ := entry
    have among : field ∈ fields := List.fst_mem_of_mem_zipIdx member
    have lead : brackets (if i = 0 then ":" else ",") = 1 := by split <;> decide
    refine Even.line ?_
    simp only [Text.brackets_append _ "))", Text.brackets_append _ (_ ++ "_"), argument field among,
      Text.brackets_append, lead, brackets_spell config.leads _ (plain field among).name]
    decide

theorem even_recordBody (config : target.config.Plain) {name : String} {doc : Doc}
    {params : List String} {fields : List Field} (plainName : Text.Plain name)
    (docs : ∀ line ∈ doc, Text.Plain line) (plainParams : ∀ param ∈ params, Text.Plain param)
    (plain : ∀ field ∈ fields, field.Plain)
    (found : complete → ∀ field ∈ fields, ∃ text, target.typeName params field.type = .ok text) :
    Even complete (target.recordBody name doc params fields) := by
  have self := brackets_spell config.leads .ty plainName
  have members : Even complete (fields.forM fun field => do
      docComment field.doc
      .line ((← target.typed params field (target.config.identStyle.spell .field field.name)) ++
        ";")) := by
    refine Nests.forM fun field member => ?_
    have plain := plain field member
    refine Nests.seq (even_docComment plain.doc) fun _ _ => ?_
    refine (nests_typed config plain (fun whole => found whole field member)
      (brackets_spell config.leads _ plain.name)).seq fun text even => Even.line ?_
    rw [Text.brackets_append, even]
    decide
  have construct : Even complete (if fields.isEmpty then pure () else do
      .newline
      target.constructorOf (target.config.identStyle.spell .ty name) params fields) := by
    split
    · exact .pure trivial
    · exact Nests.seq .newline fun _ _ => even_constructorOf config self plain found
  refine Nests.seq (even_docComment docs) fun _ _ => ?_
  refine Nests.seq (even_templateHeader config plainParams) fun _ _ => ?_
  refine Even.enclosed (members.seq fun _ _ => construct) (Nests.line _) ?_
  rw [Text.brackets_append, Text.brackets_append, self]
  decide

theorem even_interfaceBody (config : target.config.Plain) {name : String} {doc : Doc}
    {params : List String} {methods : List Method} (plainName : Text.Plain name)
    (docs : ∀ line ∈ doc, Text.Plain line) (plainParams : ∀ param ∈ params, Text.Plain param)
    (plain : ∀ method ∈ methods, method.Plain)
    (found : complete → ∀ method ∈ methods, ∀ ref ∈ method.types,
      ∃ text, target.typeName params ref = .ok text) :
    Even complete (target.interfaceBody name doc params methods) := by
  have self := brackets_spell config.leads .ty plainName
  have members : Even complete (do
      .line ("virtual ~" ++ target.config.identStyle.spell .ty name ++ "() = default;")
      methods.forM fun method => do
        .newline
        methodDoc (target.config.identStyle.spell .localName) method
        .line (← .ofExcept (target.methodSignature params method))) := by
    refine Nests.seq (Even.line ?_) fun _ _ => Nests.forM fun method member => ?_
    · rw [Text.brackets_append, Text.brackets_append, self]
      decide
    · have plain := plain method member
      refine Nests.seq .newline fun _ _ => ?_
      refine Nests.seq (even_methodDoc plain fun _ => Ident.Bundle.plain_spell config.leads _)
        fun _ _ => ?_
      refine (Nests.ofExcept (delivers_methodSignature config plain
        fun whole => found whole method member)).seq fun text even => Even.line even
  refine Nests.seq (even_docComment docs) fun _ _ => ?_
  refine Nests.seq (even_templateHeader config plainParams) fun _ _ => ?_
  refine .of_eq (.bind (Nests.line _) fun _ _ => Nests.seq (Even.line (by decide))
    fun _ _ => members.nested.seq fun _ _ => Nests.line _) ?_
  rw [Text.brackets_append, Text.brackets_append, self]
  decide

/-! ## Headers -/

theorem even_enumHeader (config : target.config.Plain) {origin name : String} {doc : Doc}
    {body : EnumBody} (folder : String) (plainOrigin : Text.Plain origin)
    (plainName : Text.Plain name) (docs : ∀ line ∈ doc, Text.Plain line)
    (options : ∀ option ∈ body.options, option.Plain) :
    Even complete (target.enumHeader folder origin name doc body).text := by
  have self := brackets_spell config.leads .enumType plainName
  have includes : ∀ line ∈ (if target.config.enumHashWorkaround then ["#include <functional>"]
      else []), brackets line = 1 := by
    split <;> decide
  refine HeaderFile.even_text (Text.brackets_of_plain plainOrigin) includes config.ns rfl
    (even_enumBody config self docs options) ?_
  show Even complete (if _ then _ else _)
  split
  · exact even_enumHash config self (brackets_underlyingType body)
  · exact .pure trivial

/-- The text of the header of a declaration. -/
def headerOf (target : CppTarget) (folder : String) (decl : TypeDecl) : Writing Unit :=
  match decl.body with
  | .enum body => (target.enumHeader folder decl.origin decl.name decl.doc body).text
  | .record fields =>
    (target.recordHeader folder decl.origin decl.name decl.doc decl.params fields).text
  | .interface methods =>
    (target.interfaceHeader folder decl.origin decl.name decl.doc decl.params methods).text
  | .unsupported .. => pure ()

theorem plain_includesOfDecl (config : target.config.Plain) {decl : TypeDecl} (plain : decl.Plain) :
    ∀ header ∈ target.includesOfDecl decl, Text.Plain header := by
  have mentions := plain.mentions
  unfold TypeDecl.mentions TypeDecl.references at mentions
  unfold includesOfDecl
  cases body : decl.body with
  | enum _ => nofun
  | record fields =>
      rw [body, ← TypeRef.referencedList_eq] at mentions
      refine List.forall_mem_append.2 ⟨plain_includesOfAll config _ _ mentions, ?_⟩
      split <;> decide
  | interface methods =>
      rw [body, ← TypeRef.referencedList_eq] at mentions
      refine List.forall_mem_append.2 ⟨plain_includesOfAll config _ _ mentions, ?_⟩
      split <;> decide
  | unsupported _ _ => nofun

/-- The header of a declaration leaves no bracket open. It is written whole if every type in it can
be spelled. -/
theorem even_headerOf (config : target.config.Plain) {decl : TypeDecl} (plain : decl.Plain)
    (folder : String)
    (found : complete → ∀ ref ∈ decl.references,
      ∃ text, target.typeName decl.params ref = .ok text) :
    Even complete (target.headerOf folder decl) := by
  have includes := even_includeLines (plain_includesOfDecl config plain)
  have members := plain.body
  unfold includesOfDecl at includes
  unfold TypeDecl.references at found
  unfold headerOf
  cases body : decl.body with
  | enum enum =>
      rw [body] at members
      exact even_enumHeader config folder plain.origin plain.name plain.doc members
  | record fields =>
      rw [body] at includes members found
      refine HeaderFile.even_text (Text.brackets_of_plain plain.origin) includes config.ns rfl
        (even_recordBody config plain.name plain.doc plain.params members ?_) (.pure trivial)
      exact fun whole field member => found whole _ (List.mem_map_of_mem member)
  | interface methods =>
      rw [body] at includes members found
      refine HeaderFile.even_text (Text.brackets_of_plain plain.origin) includes config.ns rfl
        (even_interfaceBody config plain.name plain.doc plain.params members ?_) (.pure trivial)
      exact fun whole method member ref mentioned =>
        found whole ref (List.mem_flatMap.2 ⟨method, member, mentioned⟩)
  | unsupported _ _ => exact .pure trivial

end CppTarget

end BridgeCode
