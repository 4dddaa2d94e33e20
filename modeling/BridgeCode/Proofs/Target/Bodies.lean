import BridgeCode.Proofs.Writing
import BridgeCode.Target.Cpp
import BridgeCode.Target.Descriptor
import BridgeCode.Target.Objc
import BridgeCode.Target.SwiftBridging

/-!
How the bodies of generated files are put together.

A body writes texts and lines, goes a level deeper, and spells types, which is the one thing in it
that can fail.

* `CppTarget.lacksOnly_typeName`, `ObjcTarget.lacksOnly_typeOf`: a type cannot be spelled only if it
  lacks an argument, at whatever depth.
* `Writing.Built`: an action is put together from these parts. The bodies of all generated files
  are, so what holds of the parts is said once for all bodies: they keep what was written before
  them (`Built.adds`) and fail only at a type that lacks an argument (`Built.lacksArgument`).
-/

namespace BridgeCode

/-! ## Types that cannot be spelled -/

/-- A type lacks an argument. -/
def Fault.LacksArgument (fault : Fault) : Prop :=
  ∃ type needed given, fault = .generate (.missingTypeArg type needed given)

/-- If there is no result, then because a type lacks an argument. -/
def LacksOnlyArguments {α : Type} (result : Except GenerateError α) : Prop :=
  ∀ error, result = .error error → Fault.LacksArgument (.generate error)

namespace LacksOnlyArguments

variable {α β : Type}

theorem ok (value : α) : LacksOnlyArguments (.ok value) := nofun

theorem bind {first : Except GenerateError α} {next : α → Except GenerateError β}
    (before : LacksOnlyArguments first) (behind : ∀ value, LacksOnlyArguments (next value)) :
    LacksOnlyArguments (first >>= next) := by
  cases first with
  | error stopped =>
      intro error failed
      cases failed
      exact before stopped rfl
  | ok value => exact behind value

theorem mapM {items : List α} {action : α → Except GenerateError β}
    (each : ∀ item ∈ items, LacksOnlyArguments (action item)) :
    LacksOnlyArguments (items.mapM action) := by
  induction items with
  | nil => exact .ok []
  | cons item items ih =>
      rw [List.mapM_cons]
      refine .bind (each item List.mem_cons_self) fun _ => .bind ?_ fun _ => .ok _
      exact ih fun other member => each other (List.mem_cons_of_mem _ member)

theorem requireArg {type : String} {args : List (Except GenerateError α)}
    (each : ∀ arg ∈ args, LacksOnlyArguments arg) (index : Nat) :
    LacksOnlyArguments (requireArg type args index) := by
  unfold BridgeCode.requireArg
  split
  · next arg found => exact each arg (List.mem_of_getElem? found)
  · intro error failed
    cases failed
    exact ⟨type, _, _, rfl⟩

end LacksOnlyArguments

namespace CppTarget

open Render

variable (target : CppTarget) (typeParams : List String)

theorem lacksOnly_spellWith (name : String) {args : List (Except GenerateError String)}
    (each : ∀ arg ∈ args, LacksOnlyArguments arg) :
    LacksOnlyArguments (target.spellWith typeParams name args) := by
  unfold spellWith
  split
  · exact .ok _
  · split
    · exact .bind (.requireArg each 0) fun _ => .ok _
    · exact .bind (.requireArg each 0) fun _ => .ok _
    · exact .bind (.requireArg each 0) fun _ => .bind (.requireArg each 1) fun _ => .ok _
    · exact .bind (.requireArg each 0) fun _ => .ok _
    · split
      · exact .ok _
      · exact .bind (.mapM each) fun _ => .ok _

mutual

/-- A type is spelled unless it lacks an argument somewhere. -/
theorem lacksOnly_typeName : ∀ ref : TypeRef, LacksOnlyArguments (target.typeName typeParams ref)
  | .mk name args => by
      rw [typeName]
      exact target.lacksOnly_spellWith typeParams name (lacksOnly_typeNames args)

theorem lacksOnly_typeNames : ∀ refs : List TypeRef,
    ∀ result ∈ target.typeNames typeParams refs, LacksOnlyArguments result
  | [] => by
      rw [typeNames]
      nofun
  | ref :: refs => by
      rw [typeNames]
      exact List.forall_mem_cons.2 ⟨lacksOnly_typeName ref, lacksOnly_typeNames refs⟩

end

theorem lacksOnly_methodSignature (method : Method) :
    LacksOnlyArguments (target.methodSignature typeParams method) := by
  have params : LacksOnlyArguments (method.params.mapM fun param => do
      return (← target.paramType typeParams param.type) ++ " " ++
        target.config.identStyle.spell .localName param.name) := by
    refine .mapM fun param _ => .bind ?_ fun _ => .ok _
    exact .bind (target.lacksOnly_typeName typeParams param.type) fun _ => .ok _
  unfold methodSignature
  cases method.ret with
  | none => exact .bind (.ok _) fun _ => .bind params fun _ => .ok _
  | some ref =>
      exact .bind (target.lacksOnly_typeName typeParams ref) fun _ => .bind params fun _ => .ok _

end CppTarget

namespace ObjcTarget

variable (target : ObjcTarget)

theorem lacksOnly_typeWith (name : String) {args : List (Except GenerateError ObjcType)}
    (each : ∀ arg ∈ args, LacksOnlyArguments arg) :
    LacksOnlyArguments (target.typeWith name args) := by
  unfold typeWith
  split
  · exact .ok _
  · split
    · exact .ok _
    · exact .ok _
    · exact .ok _
    · exact .bind (.requireArg each 0) fun _ => .ok _
    · exact .bind (.requireArg each 0) fun _ => .ok _
    · exact .bind (.requireArg each 0) fun _ => .bind (.requireArg each 1) fun _ => .ok _
    · exact .bind (.requireArg each 0) fun _ => .ok _
    · exact .ok _

mutual

/-- A type is spelled unless it lacks an argument somewhere. -/
theorem lacksOnly_typeOf : ∀ ref : TypeRef, LacksOnlyArguments (target.typeOf ref)
  | .mk name args => by
      rw [typeOf]
      exact target.lacksOnly_typeWith name (lacksOnly_typesOf args)

theorem lacksOnly_typesOf : ∀ refs : List TypeRef,
    ∀ result ∈ target.typesOf refs, LacksOnlyArguments result
  | [] => by
      rw [typesOf]
      nofun
  | ref :: refs => by
      rw [typesOf]
      exact List.forall_mem_cons.2 ⟨lacksOnly_typeOf ref, lacksOnly_typesOf refs⟩

end

theorem lacksOnly_paramType (ref : TypeRef) : LacksOnlyArguments (target.paramType ref) := by
  intro error failed
  refine target.lacksOnly_typeOf ref error ?_
  unfold paramType at failed
  cases spelled : target.typeOf ref with
  | error _ =>
      rw [spelled] at failed
      cases failed
      rfl
  | ok _ =>
      rw [spelled] at failed
      cases failed

end ObjcTarget

/-! ## Parts of bodies -/

/-- The action is put together from writing and from the spelling of types. -/
inductive Writing.Built : {α : Type} → Writing α → Prop
  | pure {α : Type} (value : α) : Built (Pure.pure value)
  | bind {α β : Type} {action : Writing α} {next : α → Writing β} (first : Built action)
      (second : ∀ value, Built (next value)) : Built (action >>= next)
  | write (text : String) : Built (.write text)
  | line (text : String) : Built (.line text)
  | nested {α : Type} {action : Writing α} (inner : Built action) : Built (.nested action)
  | spelled {α : Type} {result : Except GenerateError α} (lacks : LacksOnlyArguments result) :
      Built (.ofExcept result)

namespace Writing.Built

variable {α : Type}

theorem forM {items : List α} {action : α → Writing PUnit} (each : ∀ item, Built (action item)) :
    Built (items.forM action) := by
  induction items with
  | nil => exact .pure _
  | cons item items ih => exact .bind (each item) fun _ => ih

theorem newline : Built .newline := .line ""

theorem lines (texts : List String) : Built (.lines texts) := .forM .line

/-- What was written before stays in front of what a body writes. -/
theorem adds {action : Writing α} (built : Built action) : Adds action := by
  induction built with
  | pure value => exact .pure value
  | bind _ _ first second => exact .bind first second
  | write text => exact .write text
  | line text => exact .line text
  | nested _ inner => exact .nested inner
  | spelled _ => exact .ofExcept _

/-- A body fails only at a type that lacks an argument. -/
theorem lacksArgument {action : Writing α} (built : Built action) {writer : Writer} {fault : Fault}
    (failed : (action.runOn writer).1 = .error fault) : fault.LacksArgument := by
  induction built generalizing writer with
  | pure value => cases failed
  | @bind _ _ action next _ _ first second =>
      rw [runOn_bind] at failed
      rcases ran : action.runOn writer with ⟨stopped | value, middle⟩
      · rw [ran] at failed
        cases failed
        exact first (congrArg Prod.fst ran)
      · rw [ran] at failed
        exact second value failed
  | write text =>
      obtain ⟨_, _, ran⟩ := runOn_write_frame text writer
      rw [ran] at failed
      cases failed
  | line text =>
      obtain ⟨_, ran⟩ := runOn_line_frame text writer
      rw [ran] at failed
      cases failed
  | nested _ inner =>
      unfold Writing.nested nestedBy at failed
      rw [if_neg (by decide)] at failed
      exact inner failed
  | @spelled _ result lacks =>
      cases result with
      | ok value => cases failed
      | error error =>
          cases failed
          exact lacks error rfl

end Writing.Built

/-! ## Bodies of files -/

namespace Render

theorem built_docComment (doc : Doc) : (docComment doc).Built := by
  unfold docComment
  split
  · exact .pure ()
  · exact .line _
  · exact .bind (.line _) fun _ => .bind (.forM fun _ => .line _) fun _ => .line _

theorem built_inNamespace (ns : String) {body : Writing Unit} (built : body.Built) :
    (inNamespace ns body).Built := by
  unfold inNamespace
  split
  · exact built
  · refine .bind (.line _) fun _ => .bind .newline fun _ => ?_
    exact .bind built fun _ => .bind .newline fun _ => .line _

theorem built_alignedCall {α : Type} {call closing delimiter : String} {params : List α}
    {render : α → Writing String} (built : ∀ param, (render param).Built) :
    (alignedCall call params closing render delimiter).Built := by
  refine .bind (.write call) fun _ => ?_
  cases params with
  | nil => exact .write closing
  | cons first rest =>
      refine .bind (built first) fun _ => .bind (.write _) fun _ => ?_
      refine .bind (.forM fun param => ?_) fun _ => .write closing
      refine .bind (.line _) fun _ => .bind (.write _) fun _ => ?_
      exact .bind (built param) fun _ => .write _

theorem built_alignedKeywordCall {α : Type} {call closing : String} {params : List α}
    {render : α → Writing (String × String)} (built : ∀ param, (render param).Built) :
    (alignedKeywordCall call params closing render).Built := by
  refine .bind (.write call) fun _ => ?_
  cases params with
  | nil => exact .write closing
  | cons first rest =>
      refine .bind (built first) fun _ => .bind (.write _) fun _ => ?_
      refine .bind (.forM fun param => ?_) fun _ => .write closing
      refine .bind (built param) fun _ => .bind .newline fun _ => ?_
      exact .bind (.write _) fun _ => .bind (.write _) fun _ => .write _

theorem built_enumOptions (spell : String → String) (body : EnumBody) :
    (enumOptions spell body).Built := by
  refine .forM fun encoded => .bind (built_docComment _) fun _ => ?_
  split
  · exact .line _
  · exact .line _

theorem built_banner (origin commentMark : String) : (banner origin commentMark).Built :=
  .bind (.line _) fun _ => .line _

/-- What follows the includes of a header. -/
theorem HeaderFile.built_rest {header : HeaderFile} (body : header.body.Built)
    (after : header.after.Built) :
    Writing.Built (do
      inNamespace header.ns do
        unless header.forwards.isEmpty do
          .lines header.forwards
          .newline
        header.body
      header.after) := by
  refine .bind (built_inNamespace _ ?_) fun _ => after
  cases header.forwards.isEmpty with
  | true => exact body
  | false => exact .bind (.lines _) fun _ => .bind .newline fun _ => body

theorem HeaderFile.built_text {header : HeaderFile} (body : header.body.Built)
    (after : header.after.Built) : header.text.Built := by
  have rest := Writing.Built.newline.bind fun _ => built_rest body after
  unfold text
  refine .bind (built_banner _ _) fun _ => .bind .newline fun _ => .bind (.line _) fun _ => ?_
  cases header.includes.isEmpty with
  | true => exact rest
  | false => exact .bind .newline fun _ => .bind (.lines _) fun _ => rest

end Render

namespace CppTarget

open Render

variable (target : CppTarget)

theorem built_templateHeader (config : CppConfig) (params : List String) :
    (templateHeader config params).Built := by
  unfold templateHeader
  split
  · exact .pure ()
  · exact .line _

theorem built_enumBody (config : CppConfig) (self : String) (doc : Doc) (body : EnumBody) :
    (enumBody config self doc body).Built := by
  refine .bind (built_docComment doc) fun _ => .bind (.line _) fun _ => ?_
  refine .bind (.nested (built_enumOptions _ _)) fun _ => .bind (.line _) fun _ => ?_
  split
  · refine .forM fun op => .bind .newline fun _ => .bind (.line _) fun _ => ?_
    exact .bind (.nested (.line _)) fun _ => .line _
  · exact .pure ()

theorem built_enumHash (config : CppConfig) (self underlying : String) :
    (enumHash config self underlying).Built := by
  refine .bind .newline fun _ => .bind (.line _) fun _ => .bind .newline fun _ => ?_
  refine .bind (.line _) fun _ => .bind (.line _) fun _ => .bind (.nested ?_) fun _ => ?_
  · exact .bind (.line _) fun _ => .bind (.nested (.line _)) fun _ => .line _
  · exact .bind (.line _) fun _ => .bind .newline fun _ => .line _

theorem built_typed (typeParams : List String) (field : Field) (name : String) :
    (target.typed typeParams field name).Built :=
  .bind (.spelled (target.lacksOnly_typeName typeParams field.type)) fun _ => .pure _

theorem built_constructorOf (self : String) (params : List String) (fields : List Field) :
    (target.constructorOf self params fields).Built := by
  refine .bind (built_alignedCall fun field => target.built_typed params field _) fun _ => ?_
  refine .bind .newline fun _ => .bind (.forM fun _ => .line _) fun _ => ?_
  exact .line _

theorem built_recordBody (name : String) (doc : Doc) (params : List String) (fields : List Field) :
    (target.recordBody name doc params fields).Built := by
  refine .bind (built_docComment doc) fun _ => .bind (built_templateHeader _ _) fun _ => ?_
  refine .bind (.line _) fun _ => .bind (.nested ?_) fun _ => .line _
  refine .bind (.forM fun field => ?_) fun _ => ?_
  · exact .bind (built_docComment _) fun _ => .bind (target.built_typed _ _ _) fun _ => .line _
  · split
    · exact .pure ()
    · exact .bind .newline fun _ => target.built_constructorOf _ _ _

theorem built_interfaceBody (name : String) (doc : Doc) (params : List String)
    (methods : List Method) : (target.interfaceBody name doc params methods).Built := by
  refine .bind (built_docComment doc) fun _ => .bind (built_templateHeader _ _) fun _ => ?_
  refine .bind (.line _) fun _ => .bind (.line _) fun _ => .bind (.nested ?_) fun _ => .line _
  refine .bind (.line _) fun _ => .forM fun method => ?_
  refine .bind .newline fun _ => .bind (built_docComment _) fun _ => ?_
  exact .bind (.spelled (target.lacksOnly_methodSignature params method)) fun _ => .line _

theorem built_enumHeader (folder origin name : String) (doc : Doc) (body : EnumBody) :
    (target.enumHeader folder origin name doc body).text.Built := by
  refine HeaderFile.built_text (built_enumBody _ _ _ _) ?_
  show Writing.Built (if _ then _ else _)
  split
  · exact built_enumHash _ _ _
  · exact .pure ()

theorem built_recordHeader (folder origin name : String) (doc : Doc) (params : List String)
    (fields : List Field) : (target.recordHeader folder origin name doc params fields).text.Built :=
  HeaderFile.built_text (target.built_recordBody _ _ _ _) (.pure ())

theorem built_interfaceHeader (folder origin name : String) (doc : Doc) (params : List String)
    (methods : List Method) :
    (target.interfaceHeader folder origin name doc params methods).text.Built :=
  HeaderFile.built_text (target.built_interfaceBody _ _ _ _) (.pure ())

end CppTarget

namespace ObjcTarget

open Render

variable (target : ObjcTarget)

theorem built_enumBody (name : String) (doc : Doc) (body : EnumBody) :
    (target.enumBody name doc body).Built := by
  refine .bind (built_docComment doc) fun _ => .bind (.line _) fun _ => ?_
  refine .bind (.line _) fun _ => .bind (.nested (built_enumOptions _ _)) fun _ => ?_
  exact .line _

theorem built_keywordParam (param : Field) : (target.keywordParam param).Built :=
  .bind (.spelled (target.lacksOnly_paramType param.type)) fun _ => .pure _

theorem built_initializer (lead : String) (fields : List Field) :
    (target.initializer lead fields).Built := by
  cases fields with
  | nil => exact .line _
  | cons first rest =>
      exact .bind (built_alignedKeywordCall target.built_keywordParam) fun _ => .newline

theorem built_property (field : Field) : (target.property field).Built := by
  refine .bind (.spelled (target.lacksOnly_typeOf field.type)) fun type => ?_
  exact .bind .newline fun _ => .bind (built_docComment _) fun _ => .line _

theorem built_recordBody (name : String) (doc : Doc) (fields : List Field) :
    (target.recordBody name doc fields).Built := by
  refine .bind (built_docComment doc) fun _ => .bind (.line _) fun _ => ?_
  refine .bind (target.built_initializer _ _) fun _ => ?_
  refine .bind (target.built_initializer _ _) fun _ => ?_
  exact .bind (.forM target.built_property) fun _ => .bind .newline fun _ => .line _

theorem built_method (method : Method) : (target.method method).Built := by
  have signature : ∀ call, Writing.Built (do
      alignedKeywordCall call method.params ";" target.keywordParam
      .newline) :=
    fun call => .bind (built_alignedKeywordCall target.built_keywordParam) fun _ => .newline
  unfold ObjcTarget.method
  cases method.ret with
  | none => exact .bind (.pure _) fun _ => signature _
  | some ref => exact .bind (.spelled (target.lacksOnly_paramType ref)) fun _ => signature _

theorem built_interfaceBody (name : String) (doc : Doc) (methods : List Method) :
    (target.interfaceBody name doc methods).Built := by
  refine .bind (built_docComment doc) fun _ => .bind (.line _) fun _ => ?_
  refine .bind (.forM fun method => ?_) fun _ => .bind .newline fun _ => .line _
  exact .bind .newline fun _ => .bind (built_docComment _) fun _ => target.built_method method

theorem built_headerText (origin name : String) (refs : List TypeRef) {body : Writing Unit}
    (built : body.Built) : (target.headerText origin name refs body).Built := by
  refine .bind (built_banner _ _) fun _ => .bind .newline fun _ => ?_
  refine .bind (.line _) fun _ => .bind (.lines _) fun _ => ?_
  exact .bind .newline fun _ => built

end ObjcTarget

theorem SwiftBridging.built_preamble (idlFileName headerName : String) :
    (preamble idlFileName headerName).Built := by
  refine .bind (Render.built_banner _ _) fun _ => .bind .newline fun _ => ?_
  refine .bind (.line _) fun _ => .bind .newline fun _ => .bind (.line _) fun _ => ?_
  exact .bind (.line _) fun _ => .newline

theorem Descriptor.built_document [YamlPackage] (descriptor : Descriptor) :
    descriptor.document.Built :=
  .bind (.line _) fun _ => .write _

end BridgeCode
