import BridgeCode.Proofs.Target.Includes
import BridgeCode.Target.Descriptor

/-!
Descriptors tell what the other targets do.

A descriptor names the type and the header of a declaration for each target. The targets come to
these names on their own: in the spelling of a reference, in the includes and imports of other
headers, and in the files that they create. `descriptor_tells_target_names` says that all of them
agree.
-/

namespace BridgeCode

namespace ObjcTarget

variable {target : ObjcTarget}

/-- A declared name is spelled by itself if it is that of an enum, and else as a pointer. -/
theorem typeWith_of_declared {name : String} (declared : TypeRef.isBuiltin name = false)
    (args : List (Except GenerateError ObjcType)) :
    target.typeWith name args =
      let spelled := target.config.identStyle.spell .ty name
      .ok (if target.decls.kind? name = some .enum then .scalar spelled
        else .object (spelled ++ " *")) := by
  have noScalar : scalar? name = none := by
    unfold scalar?
    split
    case h_8 => rfl
    all_goals cases declared
  unfold typeWith
  rw [noScalar]
  dsimp only
  split
  case h_8 => rfl
  all_goals cases declared

end ObjcTarget

section

variable {config : Config} {decls : List TypeDecl} {decl : TypeDecl}

/-- The C++ spelling of a declaration without arguments. -/
theorem Descriptor.typeName_eq (nodup : (decls.map (·.name)).Nodup) (member : decl ∈ decls)
    (declared : TypeRef.isBuiltin decl.name = false) {typeParams : List String}
    (free : decl.name ∉ typeParams) :
    CppTarget.typeName ⟨config.cpp, .ofDecls decls⟩ typeParams (.mk decl.name []) =
      .ok (if decl.body.kind = .interface
        then "std::shared_ptr<" ++ (cppName config.cpp decl.name decl.body.kind).typename ++ ">"
        else (cppName config.cpp decl.name decl.body.kind).typename) := by
  have kind := (DeclIndex.kind?_ofDecls nodup decl.name decl.body.kind).2 ⟨decl, member, rfl, rfl⟩
  have noArguments : CppTarget.argumentList [].reverse = "" := rfl
  rw [CppTarget.typeName_mk, CppTarget.spellWith_declared declared free, kind]
  refine congrArg Except.ok ?_
  simp only [Option.some.injEq, noArguments, String.append_empty]
  rfl

/-- The Objective-C spelling of a declaration. -/
theorem Descriptor.typeOf_eq (nodup : (decls.map (·.name)).Nodup) (member : decl ∈ decls)
    (declared : TypeRef.isBuiltin decl.name = false) :
    (ObjcTarget.typeOf ⟨config.objc, .ofDecls decls⟩ (.mk decl.name [])).map (·.name) =
      .ok (if decl.body.kind = .enum then (objcName config.objc decl.name).typename
        else (objcName config.objc decl.name).typename ++ " *") := by
  have kind := (DeclIndex.kind?_ofDecls nodup decl.name decl.body.kind).2 ⟨decl, member, rfl, rfl⟩
  rw [ObjcTarget.typeOf, ObjcTarget.typeWith_of_declared declared]
  refine congrArg Except.ok ?_
  dsimp only
  rw [kind]
  by_cases isEnum : decl.body.kind = .enum
  · rw [isEnum]
    rfl
  · rw [if_neg isEnum, if_neg fun same => isEnum (Option.some.inj same)]
    rfl

/-- What a reference to a declaration asks to include, in the header of another one. -/
theorem Descriptor.includesOf_eq (nodup : (decls.map (·.name)).Nodup) (member : decl ∈ decls)
    (declared : TypeRef.isBuiltin decl.name = false) {self : String} {typeParams : List String}
    (other : self ≠ decl.name) (free : decl.name ∉ typeParams) :
    CppTarget.includesOf ⟨config.cpp, .ofDecls decls⟩ self typeParams (.mk decl.name []) =
      (if decl.body.kind = .interface then ["<memory>"] else []) ++
        [(cppName config.cpp decl.name decl.body.kind).header] := by
  have kind := (DeclIndex.kind?_ofDecls nodup decl.name decl.body.kind).2 ⟨decl, member, rfl, rfl⟩
  rw [CppTarget.includesOf, CppTarget.includesOfAll, List.nil_append,
    CppTarget.includesOfName_of_declared declared, if_neg (by simp [other.symm, free]), kind,
    header_cppName]
  simp only [Option.some.injEq]

/-- What a reference to a declaration asks to import, in the header of another one. -/
theorem Descriptor.importLines_eq (nodup : (decls.map (·.name)).Nodup) (member : decl ∈ decls)
    {self : String} (other : self ≠ decl.name) :
    ObjcTarget.importLines ⟨config.objc, .ofDecls decls⟩ self [.mk decl.name []] =
      ["#import " ++ (objcName config.objc decl.name).header] := by
  have kind := (DeclIndex.kind?_ofDecls nodup decl.name decl.body.kind).2 ⟨decl, member, rfl, rfl⟩
  have names : ([TypeRef.mk decl.name []].flatMap (·.referenced)).filter (fun name =>
      name != self && ((DeclIndex.ofDecls decls).kind? name).isSome) = [decl.name] := by
    simp [TypeRef.referenced, TypeRef.referencedList, other.symm, kind]
  unfold ObjcTarget.importLines Text.sortByUnits
  rw [names]
  simp only [List.map_cons, List.map_nil, List.eraseDups_cons, List.filter_nil, List.eraseDups_nil,
    List.mergeSort_singleton]
  rw [ObjcTarget.importLine_eq, header_objcName]

end

/-- The descriptor of a declaration and the other targets, in a run over declarations with different
names. The C++ and the Objective-C spelling of the declaration are the type names of the descriptor,
in a shared pointer for an interface and followed by a star for all but enums. A reference to the
declaration asks other headers for exactly the headers of the descriptor, wherever it occurs in
their types, and these are the files that the targets create for the declaration, with the prefix of
the target and in quotes. -/
theorem descriptor_tells_target_names {config : Config} {decls : List TypeDecl}
    (nodup : (decls.map (·.name)).Nodup) {decl : TypeDecl} (member : decl ∈ decls)
    (declared : TypeRef.isBuiltin decl.name = false) {typeParams : List String}
    (free : decl.name ∉ typeParams) (emitter : Emitter) :
    let described := Descriptor.describe config decl.name decl.params decl.body
    let cpp : CppTarget := ⟨config.cpp, .ofDecls decls⟩
    let objc : ObjcTarget := ⟨config.objc, .ofDecls decls⟩
    cpp.typeName typeParams (.mk decl.name []) =
      .ok (if decl.body.kind = .interface
        then "std::shared_ptr<" ++ described.cpp.typename ++ ">" else described.cpp.typename) ∧
    (objc.typeOf (.mk decl.name [])).map (·.name) =
      .ok (if decl.body.kind = .enum
        then described.objc.typename else described.objc.typename ++ " *") ∧
    (∀ self, self ≠ decl.name →
      cpp.includesOf self typeParams (.mk decl.name []) =
        (if decl.body.kind = .interface then ["<memory>"] else []) ++ [described.cpp.header] ∧
      objc.importLines self [.mk decl.name []] = ["#import " ++ described.objc.header]) ∧
    (∀ other ∈ decls, other.isLocal = true → other.name ≠ decl.name →
      (∃ ref ∈ other.references, ref.Occurs decl.name) →
      (∀ folder, config.cpp.headerOutFolder = some folder → decl.name ∉ other.params →
        ∃ targets, CppTarget.CreatesIncluding ⟨config, emitter⟩ decls other folder targets ∧
          described.cpp.header ∈ targets) ∧
      (∀ folder, config.objc.headerOutFolder = some folder →
        ∃ imports, ObjcTarget.CreatesImporting ⟨config, emitter⟩ decls other folder imports ∧
          "#import " ++ described.objc.header ∈ imports)) ∧
    (decl.Taken →
      (∀ folder, config.cpp.headerOutFolder = some folder →
        ∃ file body, CppTarget.backend.Creates ⟨config, emitter⟩ decls decl folder file body ∧
          described.cpp.header = Render.quote (config.cpp.includePrefix ++ file)) ∧
      (∀ folder, config.objc.headerOutFolder = some folder →
        ∃ file body, ObjcTarget.backend.Creates ⟨config, emitter⟩ decls decl folder file body ∧
          described.objc.header = Render.quote (config.objc.includePrefix ++ file))) := by
  refine ⟨Descriptor.typeName_eq nodup member declared free,
    Descriptor.typeOf_eq nodup member declared, fun self differs => ⟨?_, ?_⟩, ?_, ?_⟩
  · exact Descriptor.includesOf_eq nodup member declared differs free
  · exact Descriptor.importLines_eq nodup member differs
  · rintro other otherMember isLocal differs ⟨ref, mentioned, occurs⟩
    obtain ⟨taken, notEnum⟩ := TypeDecl.taken_of_references isLocal mentioned
    refine ⟨fun folder setting unshadowed => ?_, fun folder setting => ?_⟩
    · refine ⟨_, CppTarget.createsIncluding taken notEnum setting emitter decls, ?_⟩
      rw [Render.mem_sortIncludes]
      have needs : CppTarget.Needs config.cpp decls other.name other.params decl.name
          (CppTarget.headerTarget config.cpp decl.name) :=
        .header declared unshadowed differs.symm
      rw [← Descriptor.header_cppName config.cpp decl.name decl.body.kind] at needs
      exact needs.mem_includesOfDecl nodup otherMember mentioned occurs
    · refine ⟨_, ObjcTarget.createsImporting taken notEnum setting emitter decls, ?_⟩
      rw [ObjcTarget.mem_importLines_iff nodup]
      refine ⟨decl, member, differs.symm, ⟨ref, mentioned, occurs⟩, ?_⟩
      exact congrArg ("#import " ++ ·) (Descriptor.header_objcName config.objc decl.name)
  · intro taken
    refine ⟨fun folder setting => ?_, fun folder setting => ?_⟩
    · obtain ⟨body, creates, -⟩ := CppTarget.creates taken setting emitter decls
      exact ⟨_, body, creates, Descriptor.header_cppName config.cpp decl.name decl.body.kind⟩
    · obtain ⟨body, creates, -⟩ := ObjcTarget.creates taken setting emitter decls
      exact ⟨_, body, creates, Descriptor.header_objcName config.objc decl.name⟩

theorem canvas_descriptor :
    ∃ config, buildConfig ⟨"/", "/"⟩ headerTargets = .ok config ∧
      ([colorDecl, canvasDecl].map (·.name)).Nodup ∧ canvasDecl ∈ [colorDecl, canvasDecl] ∧
      TypeRef.isBuiltin "canvas" = false ∧ "canvas" ∉ ["t"] ∧
      let described := Descriptor.describe config "canvas" [] canvasDecl.body
      CppTarget.typeName ⟨config.cpp, .ofDecls [colorDecl, canvasDecl]⟩ ["t"] (.mk "canvas" []) =
        .ok ("std::shared_ptr<" ++ described.cpp.typename ++ ">") ∧
      ∃ file body, CppTarget.backend.Creates ⟨config, {}⟩ [colorDecl, canvasDecl] canvasDecl "/cpp"
          file body ∧
        described.cpp.header = Render.quote (config.cpp.includePrefix ++ file) := by
  have evaluated : ((buildConfig ⟨"/", "/"⟩ headerTargets).toOption.any fun config =>
      config.cpp.headerOutFolder == some "/cpp") = true := by
    decide +kernel
  cases built : buildConfig ⟨"/", "/"⟩ headerTargets with
  | error error =>
      rw [built] at evaluated
      cases evaluated
  | ok config =>
      rw [built] at evaluated
      have setting : config.cpp.headerOutFolder = some "/cpp" := beq_iff_eq.1 evaluated
      have taken : canvasDecl.Taken := ⟨rfl, nofun, nofun⟩
      have free : canvasDecl.name ∉ ["t"] := by decide
      obtain ⟨spelled, -, -, -, files⟩ := @descriptor_tells_target_names config
        [colorDecl, canvasDecl] (by decide) canvasDecl (by simp) rfl ["t"] free {}
      exact ⟨config, rfl, by decide, by simp, rfl, free, spelled, (files taken).1 "/cpp" setting⟩

end BridgeCode
