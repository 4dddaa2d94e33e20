import BridgeCode.Proofs.Target.Includes
import BridgeCode.Proofs.Target.Kinds

/-!
What is generated for a declaration goes by the declarations it mentions.

A generator is made for a run over a list of declarations, of which it keeps the kinds. What it does
with one declaration is an action (`BackendFactory.generateDecl`): the text it writes, the error it
raises where a type cannot be spelled, and all else that it does to the world. The action is the
same for two lists that give the names in the types of the declaration the same kinds, so that the
other declarations of a list can be added, removed and changed.
-/

namespace BridgeCode

namespace DeclIndex

/-- Declarations of other names do not go into the kind of a name. -/
theorem kind?_foldl_filter {keep : TypeDecl → Bool} {name : String} {decls : List TypeDecl}
    (kept : ∀ decl ∈ decls, decl.name = name → keep decl = true) {index index' : DeclIndex}
    (same : index'.kind? name = index.kind? name) :
    (decls.foldl (fun index decl => index.add decl.name decl.body.kind) index').kind? name =
      ((decls.filter keep).foldl (fun index decl => index.add decl.name decl.body.kind)
        index).kind? name := by
  induction decls generalizing index index' with
  | nil => exact same
  | cons decl decls ih =>
      rw [List.forall_mem_cons] at kept
      rw [List.foldl_cons, List.filter_cons]
      split
      · rw [List.foldl_cons]
        refine ih kept.2 ?_
        rw [kind?_add, kind?_add, same]
      · next dropped =>
          refine ih kept.2 ?_
          rw [kind?_add, if_neg fun here => dropped (kept.1 here.symm), same]

/-- Lists with the same declarations of the given names agree on the names. -/
theorem agreeOn_of_filter {names : List String} {decls decls' : List TypeDecl}
    (same : decls'.filter (fun decl => names.contains decl.name) =
      decls.filter (fun decl => names.contains decl.name)) :
    (ofDecls decls).AgreeOn (ofDecls decls') names := by
  intro name member
  have kept : ∀ decl : TypeDecl, decl.name = name → names.contains decl.name = true := by
    rintro decl rfl
    exact List.contains_iff_mem.2 member
  have reduced : ∀ decls : List TypeDecl, (ofDecls decls).kind? name =
      (ofDecls (decls.filter fun decl => names.contains decl.name)).kind? name :=
    fun decls => kind?_foldl_filter (fun decl _ => kept decl) rfl
  rw [reduced, reduced decls, same]

end DeclIndex

/-- Making a generator for a run over a list of declarations and handing it one declaration. -/
def BackendFactory.generateDecl (factory : BackendFactory) (context : Context)
    (decls : List TypeDecl) (decl : TypeDecl) : Emission Unit := do
  let backend ← factory context decls
  backend.generateOne decl

section

variable {context : Context} {decls decls' : List TypeDecl} {decl : TypeDecl}

namespace BackendFactory

variable {factory : BackendFactory}

/-- A generator that goes by scripts does the same with a declaration where the scripts are the
same for it. -/
theorem generateDecl_eq_of_script {script : List TypeDecl → Script}
    (governed : ∀ decls, ∃ backend, factory context decls = pure backend ∧
      (script decls).Governs context.emitter backend)
    (same : (script decls').decl decl = (script decls).decl decl) :
    factory.generateDecl context decls' decl = factory.generateDecl context decls decl := by
  have performed (decls : List TypeDecl) : factory.generateDecl context decls decl =
      Step.performAll context.emitter ((script decls).decl decl) := by
    obtain ⟨backend, made, governs⟩ := governed decls
    rw [generateDecl, made, pure_bind, governs.generateOne]
  rw [performed, performed, same]

theorem generateDecl_eq_of_refused (error : GenerateError)
    (refused : ∀ decls, factory context decls = .failWith error) :
    factory.generateDecl context decls' decl = factory.generateDecl context decls decl := by
  rw [generateDecl, generateDecl, refused, refused]

end BackendFactory

theorem CppTarget.generateDecl_eq
    (agree : (DeclIndex.ofDecls decls).AgreeOn (.ofDecls decls') decl.mentions) :
    CppTarget.backend.generateDecl context decls' decl =
      CppTarget.backend.generateDecl context decls decl := by
  obtain ⟨config, emitter⟩ := context
  cases setting : config.cpp.headerOutFolder with
  | none =>
      refine BackendFactory.generateDecl_eq_of_refused (.missingSetting "C++ header folder")
        fun decls => ?_
      unfold CppTarget.backend
      dsimp only
      rw [setting]
      rfl
  | some folder =>
      exact BackendFactory.generateDecl_eq_of_script (CppTarget.governed setting emitter)
        (CppTarget.script_decl_eq agree folder)

theorem ObjcTarget.generateDecl_eq
    (agree : (DeclIndex.ofDecls decls).AgreeOn (.ofDecls decls') decl.mentions) :
    ObjcTarget.backend.generateDecl context decls' decl =
      ObjcTarget.backend.generateDecl context decls decl := by
  obtain ⟨config, emitter⟩ := context
  cases setting : config.objc.headerOutFolder with
  | none =>
      refine BackendFactory.generateDecl_eq_of_refused (.missingSetting "Objective-C header folder")
        fun decls => ?_
      unfold ObjcTarget.backend
      dsimp only
      rw [setting]
      rfl
  | some folder =>
      exact BackendFactory.generateDecl_eq_of_script (ObjcTarget.governed setting emitter)
        (ObjcTarget.script_decl_eq agree folder)

variable [YamlPackage]

/-- The C++, the Objective-C and the descriptor generator do the same with the declaration in runs
over either list, whatever the world is in which they do it: they write the same text to the same
file, or raise the same error. -/
def TypeDecl.SameOutput (decl : TypeDecl) (context : Context) (decls decls' : List TypeDecl) :
    Prop :=
  ∀ factory ∈ [CppTarget.backend, ObjcTarget.backend, Descriptor.backend], ∀ world,
    (factory.generateDecl context decls' decl).runOn world =
      (factory.generateDecl context decls decl).runOn world

theorem DeclIndex.AgreeOn.sameOutput
    (agree : (DeclIndex.ofDecls decls).AgreeOn (.ofDecls decls') decl.mentions) :
    decl.SameOutput context decls decls' := by
  intro factory member world
  simp only [List.mem_cons, List.not_mem_nil, or_false] at member
  rcases member with rfl | rfl | rfl
  · rw [CppTarget.generateDecl_eq agree]
  · rw [ObjcTarget.generateDecl_eq agree]
  -- The descriptor generator does not look at the list at all.
  · rfl

end

/-- The output for a declaration is the same for two lists of declarations in which the names in its
types have the same kinds, or no kind; in particular for two lists with the same declarations of
these names, whatever else is in either of them. -/
theorem output_depends_on_mentions [YamlPackage] (context : Context) (decl : TypeDecl)
    (decls decls' : List TypeDecl) :
    ((∀ name ∈ decl.mentions,
        (DeclIndex.ofDecls decls').kind? name = (DeclIndex.ofDecls decls).kind? name) →
      decl.SameOutput context decls decls') ∧
    (decls'.filter (fun other => decl.mentions.contains other.name) =
        decls.filter (fun other => decl.mentions.contains other.name) →
      decl.SameOutput context decls decls') := by
  constructor
  · exact DeclIndex.AgreeOn.sameOutput
  · intro same
    exact (DeclIndex.agreeOn_of_filter same).sameOutput

/-- Another enum, which the canvas does not mention. -/
def textureDecl : TypeDecl := { colorDecl with name := "texture" }

/-- The color with other contents. -/
def flagsDecl : TypeDecl := { colorDecl with body := .enum ⟨[], true⟩ }

open scoped Yaml in
/-- The canvas is the same beside other declarations, and with another enum of colors. -/
theorem canvas_output_unchanged :
    ∃ config, buildConfig ⟨"/", "/"⟩ headerTargets = .ok config ∧
      [textureDecl, colorDecl, canvasDecl].filter
          (fun other => canvasDecl.mentions.contains other.name) = [colorDecl, canvasDecl] ∧
      canvasDecl.SameOutput ⟨config, {}⟩ [colorDecl, canvasDecl]
        [textureDecl, colorDecl, canvasDecl] ∧
      canvasDecl.SameOutput ⟨config, {}⟩ [colorDecl, canvasDecl] [canvasDecl, flagsDecl] := by
  have evaluated : (buildConfig ⟨"/", "/"⟩ headerTargets).isOk = true := by
    decide +kernel
  cases built : buildConfig ⟨"/", "/"⟩ headerTargets with
  | error error =>
      rw [built] at evaluated
      cases evaluated
  | ok config =>
      refine ⟨config, rfl, rfl, ?_, ?_⟩
      · exact (output_depends_on_mentions _ _ _ _).2 rfl
      · exact (output_depends_on_mentions _ _ _ _).1 (by decide)

end BridgeCode
