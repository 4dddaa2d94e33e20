import BridgeCode.Proofs.Target.CppBrackets
import BridgeCode.Proofs.Target.Includes
import BridgeCode.Proofs.Target.ObjcBrackets

/-!
Headers are balanced.

* `Emitter.WritesClosed`: what comes of a body. The text of one that is written whole is balanced.
  One that stops has written the front of such a text, and it stops only at a type that lacks an
  argument.
* `headers_are_balanced`: the headers that the generators of C++ and of Objective-C create for a
  declaration without brackets are of this kind, and namespaces are closed as they were opened.
-/

namespace BridgeCode

open Text (brackets Balanced WellClosed)
open Writing (Even)

/-- A body that is written whole has balanced braces and parentheses. One that stops lacks an
argument of a type, which cannot be if `complete` holds, and closes no bracket that is not open. -/
def Emitter.WritesClosed (emitter : Emitter) (complete : Prop) (body : Writing Unit) : Prop :=
  let text := emitter.bodyText body
  match (body.runOn { unit := emitter.unit }).1 with
  | .ok _ => Balanced '\x7b' '\x7d' text ∧ Balanced '(' ')' text
  | .error fault =>
    ¬ complete ∧ fault.LacksArgument ∧
      WellClosed '\x7b' '\x7d' text ∧ WellClosed '(' ')' text

/-- A body that cannot stop is written whole. -/
theorem Emitter.WritesClosed.balanced {emitter : Emitter} {complete : Prop} {body : Writing Unit}
    (closed : emitter.WritesClosed complete body) (whole : complete) :
    (body.runOn { unit := emitter.unit }).1 = .ok () ∧
      Balanced '\x7b' '\x7d' (emitter.bodyText body) ∧
      Balanced '(' ')' (emitter.bodyText body) := by
  unfold WritesClosed at closed
  generalize (body.runOn { unit := emitter.unit }).1 = result at closed ⊢
  cases result with
  | ok _ => exact ⟨rfl, closed⟩
  | error fault => exact absurd whole closed.1

theorem Emitter.writesClosed_of_even {complete : Prop} {body : Writing Unit}
    (even : Even complete body) (built : body.Built) (skip : Bool) :
    Emitter.WritesClosed { skip } complete body := by
  have plain : ({ unit := "    " } : Writer).PlainIndent :=
    ⟨show Text.Plain "    " by decide, show Text.Plain "" by decide⟩
  have blank : brackets ({ unit := "    " } : Writer).text = 1 := by decide
  have done := (even _ plain).2
  rw [blank, one_mul] at done
  have stopped : ∀ fault, (body.runOn { unit := "    " }).1 = .error fault → fault.LacksArgument :=
    fun _ => built.lacksArgument
  unfold WritesClosed
  rw [bodyText_eq _ built.adds]
  dsimp only
  generalize body.runOn { unit := "    " } = outcome at done stopped ⊢
  rcases outcome with ⟨fault | _, after⟩
  · obtain ⟨incomplete, rest, text⟩ := done
    exact ⟨incomplete, stopped fault rfl, Text.wellClosed_of_brackets text⟩
  · exact Text.balanced_of_brackets done.2

/-! ## Which headers are created -/

section

variable {config : Config} {decl : TypeDecl} {folder : String}

theorem CppTarget.creates_headerOf (taken : decl.Taken)
    (setting : config.cpp.headerOutFolder = some folder) (emitter : Emitter)
    (decls : List TypeDecl) :
    CppTarget.backend.Creates ⟨config, emitter⟩ decls decl folder (headerName config.cpp decl.name)
      (headerOf ⟨config.cpp, .ofDecls decls⟩ folder decl) := by
  obtain ⟨backend, made, governs⟩ := CppTarget.governed setting emitter decls
  have asked := Script.decl_of_taken (script ⟨config.cpp, .ofDecls decls⟩ folder) taken
  refine BackendFactory.creates_of_script made governs (asked.trans ?_)
  unfold headerOf
  cases body : decl.body with
  | unsupported kind raw => exact absurd (by rw [body]; rfl) (taken.supported kind)
  | _ => rfl

theorem CppTarget.built_headerOf (target : CppTarget) (folder : String) (decl : TypeDecl) :
    (target.headerOf folder decl).Built := by
  unfold headerOf
  split
  · exact target.built_enumHeader _ _ _ _ _
  · exact target.built_recordHeader _ _ _ _ _ _
  · exact target.built_interfaceHeader _ _ _ _ _ _
  · exact .pure ()

theorem ObjcTarget.creates_headerOf (taken : decl.Taken)
    (setting : config.objc.headerOutFolder = some folder) (emitter : Emitter)
    (decls : List TypeDecl) :
    ObjcTarget.backend.Creates ⟨config, emitter⟩ decls decl folder
      (headerName config.objc decl.name) (headerOf ⟨config.objc, .ofDecls decls⟩ decl) := by
  obtain ⟨backend, made, governs⟩ := ObjcTarget.governed setting emitter decls
  have asked := Script.decl_of_taken (script ⟨config.objc, .ofDecls decls⟩ folder) taken
  refine BackendFactory.creates_of_script made governs (asked.trans ?_)
  unfold headerOf bodyOf TypeDecl.references
  cases body : decl.body with
  | unsupported kind raw => exact absurd (by rw [body]; rfl) (taken.supported kind)
  | _ => rfl

theorem ObjcTarget.built_headerOf (target : ObjcTarget) (decl : TypeDecl) :
    (target.headerOf decl).Built := by
  refine target.built_headerText _ _ _ ?_
  unfold bodyOf
  split
  · exact target.built_enumBody _ _ _
  · exact target.built_recordBody _ _ _
  · exact target.built_interfaceBody _ _ _
  · exact .pure ()

/-! ## Balance -/

/-- The headers of a declaration without brackets, under settings without brackets, in C++ and in
Objective-C. A header that is written whole is balanced, in its braces and in its parentheses, and
it is written whole if its types can be spelled. A header of which a part is missing closes nothing
that is not open. Around a body as many namespaces are closed as are opened, whatever they are
called, and they are those of the path that qualified names start with. -/
theorem headers_are_balanced (taken : decl.Taken) (plain : decl.Plain) (decls : List TypeDecl)
    (skip : Bool) :
    (∀ folder, config.cpp.headerOutFolder = some folder → config.cpp.Plain →
      ∃ body, CppTarget.backend.Creates ⟨config, { skip }⟩ decls decl folder
          (CppTarget.headerName config.cpp decl.name) body ∧
        Emitter.WritesClosed { skip } (∀ ref ∈ decl.references, ∃ text,
          CppTarget.typeName ⟨config.cpp, .ofDecls decls⟩ decl.params ref = .ok text) body) ∧
    (∀ folder, config.objc.headerOutFolder = some folder → config.objc.Plain →
      ∃ body, ObjcTarget.backend.Creates ⟨config, { skip }⟩ decls decl folder
          (ObjcTarget.headerName config.objc decl.name) body ∧
        Emitter.WritesClosed { skip } (∀ ref ∈ decl.references, ∃ type,
          ObjcTarget.typeOf ⟨config.objc, .ofDecls decls⟩ ref = .ok type) body) ∧
    (∀ ns, ∃ path : List String, (path = [] ↔ ns = "") ∧ "::".intercalate path = ns ∧
      (∀ part ∈ path, ¬ [':', ':'] <:+: part.toList) ∧
      (∀ name, Render.qualify (some ns) name =
        String.join (path.map ("::" ++ ·)) ++ "::" ++ name) ∧
      ∀ body lines, body.WritesLines lines →
        (Render.inNamespace ns body).WritesLines (Render.namespaceLines ns path lines)) := by
  refine ⟨?_, ?_, Render.opens_path⟩
  · intro folder setting settings
    refine ⟨_, CppTarget.creates_headerOf taken setting { skip } decls, ?_⟩
    exact Emitter.writesClosed_of_even (CppTarget.even_headerOf settings plain folder id)
      (CppTarget.built_headerOf _ _ _) skip
  · intro folder setting settings
    refine ⟨_, ObjcTarget.creates_headerOf taken setting { skip } decls, ?_⟩
    exact Emitter.writesClosed_of_even (ObjcTarget.even_headerOf settings plain id)
      (ObjcTarget.built_headerOf _ _) skip

end

/-- Settings with a nested namespace for the C++ target. -/
def namespacedTargets : Value :=
  .map [("cpp", .map [("out_folder", .str "cpp"), ("namespace", .str "paint::flat")]),
    ("objc", .map [("out_folder", .str "objc")])]

theorem canvasDecl_plain : canvasDecl.Plain := by
  refine ⟨by decide, by decide, by decide, by decide, List.forall_mem_singleton.2 ?_⟩
  refine ⟨by decide, by decide, List.forall_mem_singleton.2 ⟨by decide, by decide, by decide⟩, ?_⟩
  rintro _ ⟨⟩
  decide

theorem canvas_balanced :
    ∃ config, buildConfig ⟨"/", "/"⟩ namespacedTargets = .ok config ∧ canvasDecl.Taken ∧
      canvasDecl.Plain ∧ config.cpp.ns = "paint::flat" ∧ config.cpp.Plain ∧ config.objc.Plain ∧
      (∃ body, CppTarget.backend.Creates ⟨config, {}⟩ [colorDecl, canvasDecl] canvasDecl "/cpp"
          (CppTarget.headerName config.cpp "canvas") body ∧
        Balanced '\x7b' '\x7d' (Emitter.bodyText {} body) ∧
        Balanced '(' ')' (Emitter.bodyText {} body)) ∧
      ∃ body, ObjcTarget.backend.Creates ⟨config, {}⟩ [colorDecl, canvasDecl] canvasDecl "/objc"
          (ObjcTarget.headerName config.objc "canvas") body ∧
        Balanced '\x7b' '\x7d' (Emitter.bodyText {} body) ∧
        Balanced '(' ')' (Emitter.bodyText {} body) := by
  have evaluated : ((buildConfig ⟨"/", "/"⟩ namespacedTargets).toOption.any fun config =>
      config.cpp.headerOutFolder == some "/cpp" && config.objc.headerOutFolder == some "/objc" &&
        config.cpp.ns == "paint::flat" && decide config.cpp.Plain && decide config.objc.Plain &&
        (canvasDecl.references.all fun ref =>
          (CppTarget.typeName ⟨config.cpp, .ofDecls [colorDecl, canvasDecl]⟩ [] ref).isOk) &&
        canvasDecl.references.all fun ref =>
          (ObjcTarget.typeOf ⟨config.objc, .ofDecls [colorDecl, canvasDecl]⟩ ref).isOk) =
        true := by
    decide +kernel
  have taken : canvasDecl.Taken := ⟨rfl, nofun, nofun⟩
  have some_of_isOk : ∀ {α : Type} {result : Except GenerateError α}, result.isOk = true →
      ∃ value, result = .ok value := by
    intro α result isOk
    cases result with
    | ok value => exact ⟨value, rfl⟩
    | error error => cases isOk
  cases built : buildConfig ⟨"/", "/"⟩ namespacedTargets with
  | error error =>
      rw [built] at evaluated
      cases evaluated
  | ok config =>
      rw [built] at evaluated
      simp only [Except.toOption, Option.any_some, Bool.and_eq_true, beq_iff_eq,
        decide_eq_true_eq, List.all_eq_true] at evaluated
      obtain ⟨⟨⟨⟨⟨⟨cppFolder, objcFolder⟩, ns⟩, cpp⟩, objc⟩, names⟩, types⟩ := evaluated
      have headers := @headers_are_balanced config canvasDecl taken canvasDecl_plain
        [colorDecl, canvasDecl] false
      obtain ⟨cppBody, cppCreates, cppClosed⟩ := headers.1 "/cpp" cppFolder cpp
      obtain ⟨objcBody, objcCreates, objcClosed⟩ := headers.2.1 "/objc" objcFolder objc
      have cppWhole := cppClosed.balanced fun ref member => some_of_isOk (names ref member)
      have objcWhole := objcClosed.balanced fun ref member => some_of_isOk (types ref member)
      exact ⟨config, rfl, taken, canvasDecl_plain, ns, cpp, objc,
        ⟨cppBody, cppCreates, cppWhole.2⟩, objcBody, objcCreates, objcWhole.2⟩

end BridgeCode
