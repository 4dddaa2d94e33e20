import BridgeCode.Proofs.Run.Plan
import BridgeCode.Proofs.Target.Bodies

/-!
Headers as texts, and which header a generator creates for a declaration.

* Bodies of headers only add text, also where a type in them cannot be spelled
  (`Writing.Built.adds`); so the text of a header starts with its banner and its includes or
  imports, whatever comes of its body (`HeaderFile.opens_text`, `ObjcTarget.opens_headerText`).
* `CppTarget.headerTarget`, `ObjcTarget.headerTarget`: how others refer to the header of a
  declaration. Includes, imports, the bridging header and descriptors each put this text together
  on their own, and the lemmas here say that they agree.
* `BackendFactory.Creates`: what a generator does with a declaration is to create one file.
-/

namespace BridgeCode

open Writing (Prints)

/-! ## How others refer to a header -/

/-- What a file includes to use the header of a declaration. -/
def CppTarget.headerTarget (config : CppConfig) (name : String) : String :=
  Render.quote (config.includePrefix ++ headerName config name)

/-- What a file imports to use the header of a declaration. -/
def ObjcTarget.headerTarget (config : ObjcConfig) (name : String) : String :=
  Render.quote (config.includePrefix ++ headerName config name)

theorem Descriptor.header_cppName (config : CppConfig) (name : String) (kind : DeclKind) :
    (cppName config name kind).header = CppTarget.headerTarget config name := by
  simp only [cppName, CppTarget.headerTarget, CppTarget.headerName, Render.quote,
    String.append_assoc]

theorem Descriptor.header_objcName (config : ObjcConfig) (name : String) :
    (objcName config name).header = ObjcTarget.headerTarget config name := by
  simp only [objcName, ObjcTarget.headerTarget, Render.quote, String.append_assoc]

theorem ObjcTarget.importLine_eq (config : ObjcConfig) (name : String) :
    importLine config name = "#import " ++ headerTarget config name := by
  have mark : "#import \"" = "#import " ++ "\"" := by decide
  rw [importLine, headerTarget, Render.quote, mark]
  simp only [String.append_assoc]

theorem SwiftBridging.importLine_eq (config : ObjcConfig) (name : String) :
    importLine config name = "#import " ++ ObjcTarget.headerTarget config name := by
  have mark : "#import \"" = "#import " ++ "\"" := by decide
  rw [importLine, ObjcTarget.headerTarget, Render.quote, mark]
  simp only [String.append_assoc]

/-! ## The front of a header -/

namespace Render.HeaderFile

/-- The lines of a header in front of its body. -/
def front (origin : String) (includes : List String) : List String :=
  bannerLines origin "//" ++ "" :: "#pragma once" ::
    ((if includes.isEmpty then [] else "" :: includes) ++ [""])

/-- Whatever comes of its body, a header starts with its banner and its includes. -/
theorem opens_text (header : HeaderFile) (body : header.body.Built) (after : header.after.Built) :
    header.text.Opens (front header.origin header.includes) := by
  have banner := prints_banner header.origin "//"
  have pragma := Prints.line "#pragma once"
  unfold text front
  have rest := (built_rest body after).adds.opens
  cases header.includes.isEmpty with
  | true => exact banner.opens (Prints.newline.opens (pragma.opens (Prints.newline.opens rest)))
  | false =>
      exact banner.opens (Prints.newline.opens (pragma.opens
        (Prints.newline.opens ((Prints.lines header.includes).opens (Prints.newline.opens rest)))))

end Render.HeaderFile

namespace ObjcTarget

/-- The lines of a header in front of its body. -/
def front (origin : String) (imports : List String) : List String :=
  Render.bannerLines origin "//" ++ "" :: foundationImport :: (imports ++ [""])

/-- Whatever comes of its body, a header starts with its banner and its imports. -/
theorem opens_headerText (target : ObjcTarget) (origin name : String) (refs : List TypeRef)
    {body : Writing Unit} (built : body.Built) :
    (target.headerText origin name refs body).Opens
      (front origin (target.importLines name refs)) := by
  have banner := Render.prints_banner origin "//"
  have foundation := Prints.line foundationImport
  have imports := Prints.lines (target.importLines name refs)
  exact banner.opens (Prints.newline.opens (foundation.opens
    (imports.opens (Prints.newline.opens built.adds.opens))))

end ObjcTarget

/-! ## The file of a declaration -/

/-- What the generator does with a declaration is to create a file. -/
def BackendFactory.Creates (factory : BackendFactory) (context : Context) (decls : List TypeDecl)
    (decl : TypeDecl) (folder fileName : String) (body : Writing Unit) : Prop :=
  (factory context decls >>= fun backend => backend.generateOne decl) =
    discard (context.emitter.createFile folder fileName body)

/-- A declaration that generators take: it is defined here, and its kind is supported. -/
structure TypeDecl.Taken (decl : TypeDecl) : Prop where
  isLocal : decl.isLocal = true
  plainEnum : decl.body.kind = .enum → decl.params = []
  supported : ∀ kind, decl.body.kind ≠ .other kind

/-- The types that a declaration mentions. -/
def TypeDecl.references (decl : TypeDecl) : List TypeRef :=
  match decl.body with
  | .enum _ => []
  | .record fields => fields.map (·.type)
  | .interface methods => methods.flatMap (·.types)
  | .unsupported .. => []

/-- The steps for a declaration that generators take are those for its kind. -/
theorem Script.decl_of_taken (script : Script) {decl : TypeDecl} (taken : decl.Taken) :
    script.decl decl =
      match decl.body with
      | .enum body => script.enum decl.origin decl.name decl.doc body
      | .record fields => script.record decl.origin decl.name decl.doc decl.params fields
      | .interface methods => script.interface decl.origin decl.name decl.doc decl.params methods
      | .unsupported .. => [] := by
  obtain ⟨isLocal, plain, supported⟩ := taken
  unfold Script.decl
  rw [if_pos isLocal]
  cases body : decl.body with
  | enum _ =>
      rw [body] at plain
      exact if_pos (List.isEmpty_iff.2 (plain rfl))
  | record fields => rfl
  | interface methods => rfl
  | unsupported kind raw =>
      rw [body] at supported
      exact absurd rfl (supported kind)

/-- A generator that keeps to a script creates the file that the script asks for. -/
theorem BackendFactory.creates_of_script {factory : BackendFactory} {context : Context}
    {decls : List TypeDecl} {backend : Backend} {script : Script} {decl : TypeDecl}
    {folder fileName : String} {body : Writing Unit} (made : factory context decls = pure backend)
    (governs : script.Governs context.emitter backend)
    (asked : script.decl decl = Step.create folder fileName body) :
    factory.Creates context decls decl folder fileName body := by
  rw [Creates, made, pure_bind, governs.generateOne, asked, Step.performAll_create]

section

variable {config : Config} {decls : List TypeDecl} {decl : TypeDecl} {folder : String}

/-- What the header of a declaration includes, as far as its types ask for it. -/
def CppTarget.includesOfDecl (target : CppTarget) (decl : TypeDecl) : List String :=
  match decl.body with
  | .enum _ => []
  | .record fields => target.recordIncludes decl.name decl.params fields
  | .interface methods => target.interfaceIncludes decl.name decl.params methods
  | .unsupported .. => []

/-- The C++ generator creates one header for a declaration, and a header that mentions types starts
with what these ask to include. -/
theorem CppTarget.creates (taken : decl.Taken)
    (setting : config.cpp.headerOutFolder = some folder) (emitter : Emitter)
    (decls : List TypeDecl) :
    ∃ body, CppTarget.backend.Creates ⟨config, emitter⟩ decls decl folder
        (headerName config.cpp decl.name) body ∧
      (decl.body.kind ≠ .enum → body.Opens (Render.HeaderFile.front decl.origin
        (includeLines (includesOfDecl ⟨config.cpp, .ofDecls decls⟩ decl)))) := by
  obtain ⟨backend, made, governs⟩ := CppTarget.governed setting emitter decls
  have asked := Script.decl_of_taken (script ⟨config.cpp, .ofDecls decls⟩ folder) taken
  have creates : ∀ body, (script ⟨config.cpp, .ofDecls decls⟩ folder).decl decl =
      Step.create folder (headerName config.cpp decl.name) body →
        CppTarget.backend.Creates ⟨config, emitter⟩ decls decl folder
          (headerName config.cpp decl.name) body :=
    fun _ => BackendFactory.creates_of_script made governs
  unfold includesOfDecl
  cases body : decl.body with
  | enum _ =>
      rw [body] at asked
      exact ⟨_, creates _ asked, fun other => absurd rfl other⟩
  | record fields =>
      rw [body] at asked
      exact ⟨_, creates _ asked, fun _ =>
        Render.HeaderFile.opens_text _ (built_recordBody _ _ _ _ _) (.pure _)⟩
  | interface methods =>
      rw [body] at asked
      exact ⟨_, creates _ asked, fun _ =>
        Render.HeaderFile.opens_text _ (built_interfaceBody _ _ _ _ _) (.pure _)⟩
  | unsupported kind raw => exact absurd (by rw [body]; rfl) (taken.supported kind)

/-- The Objective-C generator creates one header for a declaration, and a header that mentions types
starts with the imports of their headers. -/
theorem ObjcTarget.creates (taken : decl.Taken)
    (setting : config.objc.headerOutFolder = some folder) (emitter : Emitter)
    (decls : List TypeDecl) :
    ∃ body, ObjcTarget.backend.Creates ⟨config, emitter⟩ decls decl folder
        (headerName config.objc decl.name) body ∧
      (decl.body.kind ≠ .enum → body.Opens (front decl.origin
        (importLines ⟨config.objc, .ofDecls decls⟩ decl.name decl.references))) := by
  obtain ⟨backend, made, governs⟩ := ObjcTarget.governed setting emitter decls
  have asked := Script.decl_of_taken (script ⟨config.objc, .ofDecls decls⟩ folder) taken
  have creates : ∀ body, (script ⟨config.objc, .ofDecls decls⟩ folder).decl decl =
      Step.create folder (headerName config.objc decl.name) body →
        ObjcTarget.backend.Creates ⟨config, emitter⟩ decls decl folder
          (headerName config.objc decl.name) body :=
    fun _ => BackendFactory.creates_of_script made governs
  unfold TypeDecl.references
  cases body : decl.body with
  | enum _ =>
      rw [body] at asked
      exact ⟨_, creates _ asked, fun other => absurd rfl other⟩
  | record fields =>
      rw [body] at asked
      exact ⟨_, creates _ asked, fun _ => opens_headerText _ _ _ _ (built_recordBody _ _ _ _)⟩
  | interface methods =>
      rw [body] at asked
      exact ⟨_, creates _ asked, fun _ => opens_headerText _ _ _ _ (built_interfaceBody _ _ _ _)⟩
  | unsupported kind raw => exact absurd (by rw [body]; rfl) (taken.supported kind)

/-! ## Headers of declarations that mention types -/

/-- The C++ generator creates a header for the declaration, and in front of its body the header
includes the given targets. -/
def CppTarget.CreatesIncluding (context : Context) (decls : List TypeDecl) (decl : TypeDecl)
    (folder : String) (targets : List String) : Prop :=
  ∃ body rest,
    CppTarget.backend.Creates context decls decl folder
      (headerName context.config.cpp decl.name) body ∧
    context.emitter.bodyText body = Text.ofLines (Render.HeaderFile.front decl.origin
      (targets.map ("#include " ++ ·))) ++ rest

/-- The Objective-C generator creates a header for the declaration, and in front of its body the
header has the given import lines. -/
def ObjcTarget.CreatesImporting (context : Context) (decls : List TypeDecl) (decl : TypeDecl)
    (folder : String) (imports : List String) : Prop :=
  ∃ body rest,
    ObjcTarget.backend.Creates context decls decl folder
      (headerName context.config.objc decl.name) body ∧
    context.emitter.bodyText body = Text.ofLines (front decl.origin imports) ++ rest

theorem CppTarget.createsIncluding (taken : decl.Taken) (notEnum : decl.body.kind ≠ .enum)
    (setting : config.cpp.headerOutFolder = some folder) (emitter : Emitter)
    (decls : List TypeDecl) :
    CreatesIncluding ⟨config, emitter⟩ decls decl folder
      (Render.sortIncludes (includesOfDecl ⟨config.cpp, .ofDecls decls⟩ decl)) := by
  obtain ⟨body, creates, opens⟩ := CppTarget.creates taken setting emitter decls
  obtain ⟨rest, text⟩ := emitter.bodyText_of_opens (opens notEnum)
  exact ⟨body, rest, creates, text⟩

theorem ObjcTarget.createsImporting (taken : decl.Taken) (notEnum : decl.body.kind ≠ .enum)
    (setting : config.objc.headerOutFolder = some folder) (emitter : Emitter)
    (decls : List TypeDecl) :
    CreatesImporting ⟨config, emitter⟩ decls decl folder
      (importLines ⟨config.objc, .ofDecls decls⟩ decl.name decl.references) := by
  obtain ⟨body, creates, opens⟩ := ObjcTarget.creates taken setting emitter decls
  obtain ⟨rest, text⟩ := emitter.bodyText_of_opens (opens notEnum)
  exact ⟨body, rest, creates, text⟩

/-- A declaration that mentions types is no enum, and generators take it if it is defined here. -/
theorem TypeDecl.taken_of_references {ref : TypeRef} (isLocal : decl.isLocal = true)
    (mentioned : ref ∈ decl.references) : decl.Taken ∧ decl.body.kind ≠ .enum := by
  unfold TypeDecl.references at mentioned
  cases body : decl.body with
  | enum _ => simp [body] at mentioned
  | unsupported _ _ => simp [body] at mentioned
  | record fields => exact ⟨⟨isLocal, by simp [body, DeclBody.kind], by simp [body, DeclBody.kind]⟩,
      by simp [DeclBody.kind]⟩
  | interface methods => exact ⟨⟨isLocal, by simp [body, DeclBody.kind],
      by simp [body, DeclBody.kind]⟩, by simp [DeclBody.kind]⟩

end

end BridgeCode
