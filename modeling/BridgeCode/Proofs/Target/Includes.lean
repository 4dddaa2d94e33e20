import BridgeCode.Config.Build
import BridgeCode.Proofs.Target.HeaderText
import BridgeCode.Proofs.Target.Kinds
import BridgeCode.Proofs.Target.Spelling
import BridgeCode.Proofs.Text.Order

/-!
Headers include what they spell.

The spelling of a type and the list of headers that it needs come from two walks over the type. The
walk that spells skips the arguments that have no place; the walk that collects headers skips
nothing (`mem_includesOf_iff`), so whatever a part of the spelling needs is there.

* `CppTarget.Needs`: the spelling of a name needs a header.
* `CppTarget.Needs.mem_includesOfDecl`: what a name in the types of a declaration needs is included.
* `headers_include_what_they_spell`: the whole, for C++ and Objective-C.
-/

namespace BridgeCode

namespace CppTarget

variable {target : CppTarget} {self : String} {typeParams : List String}

/-! ## What is collected -/

mutual

theorem mem_includesOf_iff {header : String} : ∀ ref : TypeRef,
    header ∈ target.includesOf self typeParams ref ↔
      ∃ name, ref.Occurs name ∧ header ∈ target.includesOfName self typeParams name
  | .mk name args => by
      rw [includesOf, List.mem_append, mem_includesOfAll_iff args]
      simp only [TypeRef.occurs_mk_iff]
      constructor
      · rintro (⟨arg, member, inner, occurs, asked⟩ | asked)
        · exact ⟨inner, .inr ⟨arg, member, occurs⟩, asked⟩
        · exact ⟨name, .inl rfl, asked⟩
      · rintro ⟨inner, rfl | ⟨arg, member, occurs⟩, asked⟩
        · exact .inr asked
        · exact .inl ⟨arg, member, inner, occurs, asked⟩

theorem mem_includesOfAll_iff {header : String} : ∀ refs : List TypeRef,
    header ∈ target.includesOfAll self typeParams refs ↔
      ∃ ref ∈ refs, ∃ name, ref.Occurs name ∧
        header ∈ target.includesOfName self typeParams name
  | [] => by simp [includesOfAll]
  | ref :: refs => by
      rw [includesOfAll, List.mem_append, mem_includesOf_iff ref, mem_includesOfAll_iff refs]
      simp only [List.mem_cons, exists_eq_or_imp]

end

/-- A name that is not builtin asks for its own header, and for shared pointers if it is that of an
interface, unless it is a type parameter or the declaration itself. -/
theorem includesOfName_of_declared {name : String} (declared : TypeRef.isBuiltin name = false) :
    target.includesOfName self typeParams name =
      if typeParams.contains name || name = self then []
      else
        (if target.decls.kind? name = some .interface then ["<memory>"] else []) ++
          [headerTarget target.config name] := by
  have quoted : "\"" ++ target.config.includePrefix ++ headerName target.config name ++ "\"" =
      headerTarget target.config name := by
    simp only [headerTarget, Render.quote, String.append_assoc]
  unfold includesOfName
  split
  case h_15 => rw [quoted]
  all_goals cases declared

/-- The header of a declaration with types includes what any of its types asks for. -/
theorem mem_includesOfDecl {decl : TypeDecl} {ref : TypeRef} {name header : String}
    (mentioned : ref ∈ decl.references) (occurs : ref.Occurs name)
    (asked : header ∈ target.includesOfName decl.name decl.params name) :
    header ∈ target.includesOfDecl decl := by
  unfold TypeDecl.references at mentioned
  unfold includesOfDecl
  cases body : decl.body with
  | enum _ => simp [body] at mentioned
  | unsupported _ _ => simp [body] at mentioned
  | record fields =>
      rw [body] at mentioned
      refine List.mem_append_left _ ?_
      exact (mem_includesOfAll_iff _).2 ⟨ref, mentioned, name, occurs, asked⟩
  | interface methods =>
      rw [body] at mentioned
      refine List.mem_append_left _ ?_
      exact (mem_includesOfAll_iff _).2 ⟨ref, mentioned, name, occurs, asked⟩

/-- The header of an interface that mentions itself includes shared pointers. -/
theorem memory_mem_includesOfDecl {decl : TypeDecl} {ref : TypeRef}
    (interface : decl.body.kind = .interface) (mentioned : ref ∈ decl.references)
    (occurs : ref.Occurs decl.name) : "<memory>" ∈ target.includesOfDecl decl := by
  unfold TypeDecl.references at mentioned
  unfold includesOfDecl
  cases body : decl.body with
  | interface methods =>
      rw [body] at mentioned
      have itself : (methods.flatMap (·.types)).any
          (fun ref => ref.referenced.contains decl.name) = true := by
        refine List.any_eq_true.2 ⟨ref, mentioned, ?_⟩
        rw [List.contains_iff_mem]
        exact (TypeRef.mem_referenced_iff ref).2 occurs
      refine List.mem_append_right _ ?_
      rw [if_pos itself]
      exact List.mem_singleton_self _
  | enum _ => simp [body, DeclBody.kind] at interface
  | record _ => simp [body, DeclBody.kind] at interface
  | unsupported _ _ => simp [body, DeclBody.kind] at interface

/-! ## What spellings need -/

/-- In the header of the declaration `self`, the spelling of a name needs a header. -/
inductive Needs (config : CppConfig) (decls : List TypeDecl) (self : String)
    (typeParams : List String) (name : String) : String → Prop
  | integers (among : name ∈ ["i8", "i16", "i32", "i64", "binary"]) :
      Needs config decls self typeParams name "<cstdint>"
  | string (is : name = "string") : Needs config decls self typeParams name "<string>"
  | vector (among : name ∈ ["list", "binary"]) : Needs config decls self typeParams name "<vector>"
  | clock (is : name = "date") : Needs config decls self typeParams name "<chrono>"
  | set (is : name = "set") : Needs config decls self typeParams name "<unordered_set>"
  | map (is : name = "map") : Needs config decls self typeParams name "<unordered_map>"
  | optional (is : name = "optional") :
      Needs config decls self typeParams name config.optionalHeader
  /-- Interfaces are passed around in shared pointers, the declaration itself too. -/
  | shared (declared : TypeRef.isBuiltin name = false) (free : name ∉ typeParams)
      (interface : ∃ decl ∈ decls, decl.name = name ∧ decl.body.kind = .interface) :
      Needs config decls self typeParams name "<memory>"
  | header (declared : TypeRef.isBuiltin name = false) (free : name ∉ typeParams)
      (other : name ≠ self) :
      Needs config decls self typeParams name
        (Render.quote (config.includePrefix ++ headerName config name))

section

variable {config : CppConfig} {decls : List TypeDecl} {decl : TypeDecl}

/-- The headers that a name needs are those it asks for, shared pointers to itself aside. -/
theorem Needs.asked (nodup : (decls.map (·.name)).Nodup) {name header : String}
    (needs : Needs config decls self typeParams name header) :
    header ∈ includesOfName ⟨config, .ofDecls decls⟩ self typeParams name ∨
      name = self ∧ header = "<memory>" ∧
        ∃ decl ∈ decls, decl.name = self ∧ decl.body.kind = .interface := by
  cases needs with
  | integers among =>
      simp only [List.mem_cons, List.not_mem_nil, or_false] at among
      rcases among with rfl | rfl | rfl | rfl | rfl <;> exact .inl (by simp [includesOfName])
  | string is => exact .inl (by simp [is, includesOfName])
  | vector among =>
      simp only [List.mem_cons, List.not_mem_nil, or_false] at among
      rcases among with rfl | rfl <;> exact .inl (by simp [includesOfName])
  | clock is => exact .inl (by simp [is, includesOfName])
  | set is => exact .inl (by simp [is, includesOfName])
  | map is => exact .inl (by simp [is, includesOfName])
  | optional is => exact .inl (by simp [is, includesOfName])
  | shared declared free interface =>
      by_cases same : name = self
      · exact .inr ⟨same, rfl, same ▸ interface⟩
      · have kind := (DeclIndex.kind?_ofDecls nodup name .interface).2 interface
        refine .inl ?_
        rw [includesOfName_of_declared declared, if_neg (by simp [same, free]), kind]
        simp
  | header declared free other =>
      refine .inl ?_
      rw [includesOfName_of_declared declared, if_neg (by simp [other, free])]
      exact List.mem_append_right _ (List.mem_singleton_self _)

/-- The header of a declaration includes what any name that occurs in its types needs. -/
theorem Needs.mem_includesOfDecl (nodup : (decls.map (·.name)).Nodup) (member : decl ∈ decls)
    {ref : TypeRef} {name header : String} (mentioned : ref ∈ decl.references)
    (occurs : ref.Occurs name) (needs : Needs config decls decl.name decl.params name header) :
    header ∈ includesOfDecl ⟨config, .ofDecls decls⟩ decl := by
  rcases needs.asked nodup with asked | ⟨rfl, rfl, interface⟩
  · exact CppTarget.mem_includesOfDecl mentioned occurs asked
  · -- The interface of that name is the declaration itself.
    have kind := (DeclIndex.kind?_ofDecls nodup decl.name .interface).2 interface
    have own := (DeclIndex.kind?_ofDecls nodup decl.name decl.body.kind).2 ⟨decl, member, rfl, rfl⟩
    have interface : decl.body.kind = .interface := Option.some.inj (own.symm.trans kind)
    exact memory_mem_includesOfDecl interface mentioned occurs

theorem utility_mem_includesOfDecl {target : CppTarget} {fields : List Field}
    (body : decl.body = .record fields) (some : fields ≠ []) :
    "<utility>" ∈ target.includesOfDecl decl := by
  rw [includesOfDecl, body]
  refine List.mem_append_right _ ?_
  rw [if_neg (by simpa using some)]
  exact List.mem_singleton_self _

end

end CppTarget

/-! ## Imports -/

/-- The imports of an Objective-C header: the headers of the declared names that occur in its types,
its own aside. -/
theorem ObjcTarget.mem_importLines_iff {config : ObjcConfig} {decls : List TypeDecl}
    (nodup : (decls.map (·.name)).Nodup) {self line : String} {refs : List TypeRef} :
    line ∈ importLines ⟨config, .ofDecls decls⟩ self refs ↔
      ∃ decl ∈ decls, decl.name ≠ self ∧ (∃ ref ∈ refs, ref.Occurs decl.name) ∧
        line = "#import " ++ headerTarget config decl.name := by
  unfold importLines
  simp only [importLine_eq, Text.mem_sortByUnits, List.mem_eraseDups, List.mem_map, List.mem_filter,
    List.mem_flatMap, TypeRef.mem_referenced_iff, Bool.and_eq_true, bne_iff_ne]
  constructor
  · rintro ⟨name, ⟨⟨ref, mentioned, occurs⟩, other, declared⟩, rfl⟩
    obtain ⟨kind, found⟩ := Option.isSome_iff_exists.1 declared
    obtain ⟨decl, member, rfl, -⟩ := (DeclIndex.kind?_ofDecls nodup name kind).1 found
    exact ⟨decl, member, other, ⟨ref, mentioned, occurs⟩, rfl⟩
  · rintro ⟨decl, member, other, ⟨ref, mentioned, occurs⟩, rfl⟩
    have found :=
      (DeclIndex.kind?_ofDecls nodup decl.name decl.body.kind).2 ⟨decl, member, rfl, rfl⟩
    exact ⟨decl.name, ⟨⟨ref, mentioned, occurs⟩, other, by rw [found]; rfl⟩, rfl⟩

theorem ObjcTarget.importLines_sorted (target : ObjcTarget) (self : String) (refs : List TypeRef) :
    (target.importLines self refs).Nodup ∧
      (target.importLines self refs).Pairwise Text.Precedes :=
  ⟨Text.nodup_sortByUnits (Text.nodup_eraseDups _),
    Text.pairwise_sortByUnits (Text.nodup_eraseDups _)⟩

/-! ## Whole headers -/

/-- The header of a record or an interface, in C++ and in Objective-C. What is no part of a type
leaves no trace in its spelling. The C++ includes have every header that is needed for a part that
is spelled in one of the types, and what the constructor needs; no target stands twice, those of the
system come first, and each group is in order. The Objective-C imports are the headers of the other
declared names in the types, once and in order. -/
theorem headers_include_what_they_spell {config : Config} {decls : List TypeDecl}
    (nodup : (decls.map (·.name)).Nodup) {decl : TypeDecl} (member : decl ∈ decls)
    (isLocal : decl.isLocal = true)
    (kind : decl.body.kind = .record ∨ decl.body.kind = .interface) (emitter : Emitter) :
    (∀ name args,
      CppTarget.typeName ⟨config.cpp, .ofDecls decls⟩ decl.params
          (.mk name (CppTarget.spelledArgs decl.params (.mk name args))) =
        CppTarget.typeName ⟨config.cpp, .ofDecls decls⟩ decl.params (.mk name args)) ∧
    (∀ folder, config.cpp.headerOutFolder = some folder →
      ∃ targets, CppTarget.CreatesIncluding ⟨config, emitter⟩ decls decl folder targets ∧
        (∀ ref ∈ decl.references, ∀ text,
          CppTarget.typeName ⟨config.cpp, .ofDecls decls⟩ decl.params ref = .ok text →
            ∀ part, CppTarget.Spells decl.params ref part →
              (∃ piece, CppTarget.typeName ⟨config.cpp, .ofDecls decls⟩ decl.params part =
                  .ok piece ∧ piece.toList <:+: text.toList) ∧
              ∀ header, CppTarget.Needs config.cpp decls decl.name decl.params part.name header →
                header ∈ targets) ∧
        (∀ fields, decl.body = .record fields → fields ≠ [] → "<utility>" ∈ targets) ∧
        Render.Ranked targets) ∧
    (∀ folder, config.objc.headerOutFolder = some folder →
      ∃ imports, ObjcTarget.CreatesImporting ⟨config, emitter⟩ decls decl folder imports ∧
        imports.Nodup ∧ imports.Pairwise Text.Precedes ∧
        ∀ line, line ∈ imports ↔ ∃ other ∈ decls, other.name ≠ decl.name ∧
          (∃ ref ∈ decl.references, ref.Occurs other.name) ∧
          line = "#import " ++ Render.quote
            (config.objc.includePrefix ++ ObjcTarget.headerName config.objc other.name)) := by
  have notEnum : decl.body.kind ≠ .enum := by rcases kind with kind | kind <;> simp [kind]
  have taken : decl.Taken := by
    refine ⟨isLocal, fun isEnum => absurd isEnum notEnum, fun other => ?_⟩
    rcases kind with kind | kind <;> simp [kind]
  refine ⟨CppTarget.typeName_spelledArgs, ?_, ?_⟩
  · intro folder setting
    refine ⟨_, CppTarget.createsIncluding taken notEnum setting emitter decls, ?_, ?_,
      Render.sortIncludes_ranked _⟩
    · intro ref mentioned text spells part within
      refine ⟨within.piece spells, fun header needs => ?_⟩
      rw [Render.mem_sortIncludes]
      exact needs.mem_includesOfDecl nodup member mentioned within.occurs
    · intro fields isRecord some
      rw [Render.mem_sortIncludes]
      exact CppTarget.utility_mem_includesOfDecl isRecord some
  · intro folder setting
    obtain ⟨unique, sorted⟩ := ObjcTarget.importLines_sorted ⟨config.objc, .ofDecls decls⟩
      decl.name decl.references
    exact ⟨_, ObjcTarget.createsImporting taken notEnum setting emitter decls, unique, sorted,
      fun line => ObjcTarget.mem_importLines_iff nodup⟩

/-- An interface whose method takes optional colors by name and leads back to the interface. -/
def canvasDecl : TypeDecl where
  name := "canvas"
  params := []
  doc := []
  origin := "canvas.yaml"
  scope := .defined
  body := .interface [{
    name := "blend"
    params := [⟨"layers", .mk "map" [.mk "string" [], .mk "optional" [.mk "color" []]], []⟩]
    ret := some (.mk "canvas" []) }]

/-- Settings with the C++ target and the Objective-C target. -/
def headerTargets : Value :=
  .map [("cpp", .map [("out_folder", .str "cpp")]), ("objc", .map [("out_folder", .str "objc")])]

theorem canvas_includes :
    ∃ config, buildConfig ⟨"/", "/"⟩ headerTargets = .ok config ∧
      ([colorDecl, canvasDecl].map (·.name)).Nodup ∧ canvasDecl ∈ [colorDecl, canvasDecl] ∧
      canvasDecl.isLocal = true ∧ canvasDecl.body.kind = .interface ∧
      ∃ targets,
        CppTarget.CreatesIncluding ⟨config, {}⟩ [colorDecl, canvasDecl] canvasDecl "/cpp" targets ∧
        "<unordered_map>" ∈ targets ∧ "<memory>" ∈ targets ∧ "\"color.hpp\"" ∈ targets := by
  have evaluated : ((buildConfig ⟨"/", "/"⟩ headerTargets).toOption.any fun config =>
      config.cpp.headerOutFolder == some "/cpp" &&
        Render.quote (config.cpp.includePrefix ++ CppTarget.headerName config.cpp "color") ==
          "\"color.hpp\"" &&
        canvasDecl.references.all fun ref =>
          (CppTarget.typeName ⟨config.cpp, .ofDecls [colorDecl, canvasDecl]⟩ [] ref).isOk) =
        true := by
    decide +kernel
  cases built : buildConfig ⟨"/", "/"⟩ headerTargets with
  | error error =>
      rw [built] at evaluated
      cases evaluated
  | ok config =>
      rw [built] at evaluated
      simp only [Except.toOption, Option.any_some, Bool.and_eq_true, beq_iff_eq] at evaluated
      obtain ⟨⟨setting, quoted⟩, spelled⟩ := evaluated
      have headers := @headers_include_what_they_spell config [colorDecl, canvasDecl] (by decide)
        canvasDecl (by simp) rfl (.inr rfl) {}
      obtain ⟨targets, creates, covers, -⟩ := headers.2.1 "/cpp" setting
      have spells : ∀ ref ∈ canvasDecl.references, ∃ text, CppTarget.typeName
          ⟨config.cpp, .ofDecls [colorDecl, canvasDecl]⟩ canvasDecl.params ref = .ok text := by
        intro ref mentioned
        have ran := List.all_eq_true.1 spelled ref mentioned
        cases result : CppTarget.typeName ⟨config.cpp, .ofDecls [colorDecl, canvasDecl]⟩ [] ref with
        | error error =>
            rw [result] at ran
            cases ran
        | ok text => exact ⟨text, result⟩
      obtain ⟨layers, ranLayers⟩ := spells _ List.mem_cons_self
      obtain ⟨result, ranResult⟩ := spells _ (List.mem_cons_of_mem _ List.mem_cons_self)
      refine ⟨config, rfl, by decide, by simp, rfl, rfl, targets, creates, ?_, ?_, ?_⟩
      · exact (covers _ List.mem_cons_self layers ranLayers _ (.whole _)).2 _ (.map rfl)
      · refine (covers _ (List.mem_cons_of_mem _ List.mem_cons_self) result ranResult _
          (.whole _)).2 _ (.shared rfl (by decide) ⟨canvasDecl, by simp, rfl, rfl⟩)
      · rw [← quoted]
        refine (covers _ List.mem_cons_self layers ranLayers (.mk "color" []) ?_).2 _
          (.header rfl (by decide) (by decide))
        have optional : CppTarget.Spells canvasDecl.params (.mk "optional" [.mk "color" []])
            (.mk "color" []) := .part (by simp [CppTarget.spelledArgs]) (.whole _)
        exact .part (by simp [CppTarget.spelledArgs]) optional

end BridgeCode
