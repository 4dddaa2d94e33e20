import BridgeCode.Proofs.Config.Folders
import BridgeCode.Proofs.Run.Bridging
import BridgeCode.Proofs.Run.Orchestration
import BridgeCode.Proofs.Target.Bodies

/-!
The settings that generators cannot do without.

A slot is enabled by its main folder, but the generators of headers ask for the header folder, and
that of the bridging header for a name besides. In a configuration that was built from a document a
header folder is there exactly if the main folder is (`Config.Complete`), so the two agree.

* `Emission.Settled`: an action does not fail for want of a setting. All that a run is made of is
  settled, if no step stops for want of one (`Step.settled_performAll`).
* `Slot.provided_of_mem`: in a complete configuration no step does.
* `Slot.folder_created`: the folder that a generator writes to is one that its slot creates, or the
  slot of the Objective-C headers for the bridging header.
* `enabled_slots_have_settings`: the three together, for every run with the bundled generators.
-/

namespace BridgeCode

/-! ## Actions that want no setting -/

/-- The action does not fail for want of a setting. -/
def Emission.Settled {α : Type} (action : Emission α) : Prop :=
  ∀ world error, (action.runOn world).1 = .error (.generate error) → error.code ≠ .missingSetting

namespace Emission.Settled

variable {α β : Type}

/-- An action that always succeeds. -/
theorem of_ok {action : Emission α}
    (succeeds : ∀ world, ∃ value, (action.runOn world).1 = .ok value) : Settled action := by
  intro world error failed
  obtain ⟨value, ran⟩ := succeeds world
  rw [ran] at failed
  cases failed

theorem pure (value : α) : Settled (Pure.pure value) := .of_ok fun _ => ⟨value, rfl⟩

theorem get : Settled (get : Emission World) := .of_ok fun world => ⟨world, rfl⟩

theorem modify (change : World → World) : Settled (modify change : Emission Unit) :=
  .of_ok fun _ => ⟨(), rfl⟩

theorem failWith {error : GenerateError} (other : error.code ≠ .missingSetting) :
    Settled (failWith error : Emission α) := by
  intro world stopped failed
  cases failed
  exact other

theorem bind {action : Emission α} {next : α → Emission β} (first : Settled action)
    (second : ∀ value, Settled (next value)) : Settled (action >>= next) := by
  intro world error failed
  rw [runOn_bind] at failed
  rcases ran : action.runOn world with ⟨fault | value, middle⟩
  · rw [ran] at failed
    cases failed
    exact first world error (congrArg Prod.fst ran)
  · rw [ran] at failed
    exact second value middle error failed

theorem forM {items : List α} {action : α → Emission PUnit}
    (each : ∀ item ∈ items, Settled (action item)) : Settled (items.forM action) := by
  induction items with
  | nil => exact .pure _
  | cons item items ih =>
      refine .bind (each item List.mem_cons_self) fun _ => ?_
      exact ih fun other member => each other (List.mem_cons_of_mem _ member)

theorem discard {action : Emission α} (settled : Settled action) : Settled (discard action) :=
  .bind settled fun _ => .pure _

end Emission.Settled

namespace Emission

theorem settled_attachList (path : String) : Settled (attachList path) := by
  refine .bind ?_ fun _ => .modify _
  refine .bind .get fun world => .bind (.modify _) fun _ => ?_
  split
  · exact .failWith nofun
  · split
    · exact .modify _
    · exact .failWith nofun

theorem settled_report (entry : String) (sink : ManifestSink) : Settled (report entry sink) := by
  cases sink with
  | pipe => exact .modify _
  | file path =>
      refine .bind .get fun world => ?_
      split
      · exact .modify _
      · exact .failWith nofun

theorem settled_claim (entry : String) : Settled (claim entry) := by
  refine .bind .get fun world => ?_
  dsimp only
  split
  · exact .bind (.modify _) fun _ => .forM fun sink _ => settled_report entry sink
  · exact .pure ()

theorem settled_register (canonical : String) : Settled (register canonical) :=
  .bind .get fun _ => .bind (.modify _) fun _ => .pure _

end Emission

namespace Emitter

open Emission

variable (emitter : Emitter)

theorem bodyResult_error {body : Writing Unit} {fault : Fault}
    (failed : emitter.bodyResult body = .error fault) :
    (body.runOn { unit := emitter.unit }).1 = .error fault := by
  unfold bodyResult at failed
  cases ran : (body.runOn { unit := emitter.unit }).1 with
  | ok value =>
      rw [ran] at failed
      cases failed
  | error other =>
      rw [ran] at failed
      cases failed
      rfl

theorem settled_writeTo (mode : OpenMode) (file : String) {body : Writing Unit}
    (built : body.Built) : Settled (emitter.writeTo mode file body) := by
  intro world error failed
  cases opened : world.files.openFile mode file with
  | error refusal =>
      rw [runOn_writeTo_refused opened] at failed
      cases failed
      nofun
  | ok result =>
      obtain ⟨files, place⟩ := result
      rw [runOn_writeTo_opened opened] at failed
      obtain ⟨type, needed, given, lacks⟩ := built.lacksArgument (emitter.bodyResult_error failed)
      cases lacks
      nofun

theorem settled_createFile (folder fileName : String) {body : Writing Unit} (built : body.Built) :
    Settled (emitter.createFile folder fileName body) := by
  refine .bind (settled_claim _) fun _ => ?_
  split
  · exact .pure false
  · refine .bind .get fun world => .bind (settled_register _) fun existing => ?_
    split
    · split
      · exact .failWith nofun
      · exact .failWith nofun
    · exact emitter.settled_writeTo .truncate _ built

theorem settled_createFileOnce (folder fileName : String) {body : Writing Unit}
    (built : body.Built) : Settled (emitter.createFileOnce folder fileName body) := by
  refine .bind .get fun world => .bind (settled_register _) fun existing => ?_
  split
  · exact .pure false
  · refine .bind (settled_claim _) fun _ => ?_
    split
    · exact .pure false
    · exact emitter.settled_writeTo .truncate _ built

theorem settled_appendToFile (folder fileName : String) {body : Writing Unit}
    (built : body.Built) : Settled (emitter.appendToFile folder fileName body) := by
  unfold appendToFile
  split
  · exact .pure false
  · exact emitter.settled_writeTo .append _ built

theorem settled_createFolder (label folder : String) :
    Settled (emitter.createFolder label folder) := by
  intro world error failed
  cases dry : emitter.skip with
  | true =>
      rw [runOn_createFolder_dry dry] at failed
      cases failed
  | false =>
      obtain ⟨cause, printed, ran⟩ := @runOn_createFolder emitter folder world label dry
      rw [ran, folderResult] at failed
      dsimp only at failed
      split at failed
      · cases failed
      · split at failed
        · cases failed
          exact ErrorCode.noConfusion
        · cases failed
          exact ErrorCode.noConfusion

end Emitter

/-! ## Steps that want no setting -/

/-- The step does not stop for want of a setting, and what it writes is the body of a generated
file. -/
def Step.Provided : Step → Prop
  | .stop error => error.code ≠ .missingSetting
  | .call (.createFile _ _ body) => body.Built
  | .call (.createFileOnce _ _ body) => body.Built
  | .call (.appendToFile _ _ body) => body.Built
  | _ => True

namespace Step

variable (emitter : Emitter)

theorem settled_perform {step : Step} (provided : step.Provided) :
    (step.perform emitter).Settled := by
  cases step with
  | enter slot => exact .modify _
  | announce slot => exact .modify _
  | stop error => exact .failWith provided
  | call request =>
      cases request with
      | createFile folder fileName body =>
          exact .discard (emitter.settled_createFile folder fileName provided)
      | createFileOnce folder fileName body =>
          exact .discard (emitter.settled_createFileOnce folder fileName provided)
      | appendToFile folder fileName body =>
          exact .discard (emitter.settled_appendToFile folder fileName provided)
      | createFolder label folder => exact emitter.settled_createFolder label folder

theorem settled_performAll {steps : List Step} (provided : ∀ step ∈ steps, step.Provided) :
    (performAll emitter steps).Settled :=
  .forM fun step member => settled_perform emitter (provided step member)

theorem provided_create {folder fileName : String} {body : Writing Unit} (built : body.Built) :
    ∀ step ∈ create folder fileName body, step.Provided :=
  fun _ member => List.mem_singleton.1 member ▸ built

theorem provided_extend {folder fileName : String} {body : Writing Unit} (built : body.Built) :
    ∀ step ∈ extend folder fileName body, step.Provided :=
  fun _ member => List.mem_singleton.1 member ▸ built

end Step

/-- Handing declarations to a generator stops only at a declaration, never for want of a setting. -/
theorem Script.provided_decls {script : Script}
    (enum : ∀ origin name doc body, ∀ step ∈ script.enum origin name doc body, step.Provided)
    (record : ∀ origin name doc params fields,
      ∀ step ∈ script.record origin name doc params fields, step.Provided)
    (interface : ∀ origin name doc params methods,
      ∀ step ∈ script.interface origin name doc params methods, step.Provided)
    (decls : List TypeDecl) : ∀ step ∈ decls.flatMap script.decl, step.Provided := by
  intro step member
  obtain ⟨decl, -, member⟩ := List.mem_flatMap.1 member
  unfold Script.decl at member
  split at member
  · split at member
    · split at member
      · exact enum _ _ _ _ step member
      · rw [List.mem_singleton.1 member]
        nofun
    · exact record _ _ _ _ _ step member
    · exact interface _ _ _ _ _ step member
    · rw [List.mem_singleton.1 member]
      nofun
  · cases member

section

variable (decls : List TypeDecl)

theorem CppTarget.provided_script (target : CppTarget) (folder : String) :
    ∀ step ∈ decls.flatMap (target.script folder).decl, step.Provided :=
  Script.provided_decls (fun _ _ _ _ => Step.provided_create (target.built_enumHeader _ _ _ _ _))
    (fun _ _ _ _ _ => Step.provided_create (target.built_recordHeader _ _ _ _ _ _))
    (fun _ _ _ _ _ => Step.provided_create (target.built_interfaceHeader _ _ _ _ _ _)) decls

theorem ObjcTarget.provided_script (target : ObjcTarget) (folder : String) :
    ∀ step ∈ decls.flatMap (target.script folder).decl, step.Provided := by
  refine Script.provided_decls ?_ ?_ ?_ decls
  · exact fun _ _ _ _ =>
      Step.provided_create (target.built_headerText _ _ _ (target.built_enumBody _ _ _))
  · exact fun _ _ _ _ _ =>
      Step.provided_create (target.built_headerText _ _ _ (target.built_recordBody _ _ _))
  · exact fun _ _ _ _ _ =>
      Step.provided_create (target.built_headerText _ _ _ (target.built_interfaceBody _ _ _))

theorem SwiftBridging.provided_script (config : ObjcConfig) (folder fileName : String) :
    ∀ step ∈ decls.flatMap (script config folder fileName).decl, step.Provided :=
  Script.provided_decls (fun _ _ _ _ => Step.provided_extend (.line _))
    (fun _ _ _ _ _ => Step.provided_extend (.line _))
    (fun _ _ _ _ _ => Step.provided_extend (.line _)) decls

theorem Descriptor.provided_steps [YamlPackage] (config : Config)
    (folder origin name : String) (params : List String) (body : DeclBody) :
    ∀ step ∈ steps config folder origin name params body, step.Provided := by
  have document := built_document (describe config name params body)
  unfold steps
  cases config.yaml.outFile with
  | none => exact Step.provided_create (.bind (Render.built_banner _ _) fun _ => document)
  | some outFile =>
      refine List.forall_mem_cons.2 ⟨?_, Step.provided_extend document⟩
      exact Render.built_banner origin "#"

theorem Descriptor.provided_script [YamlPackage] (config : Config) (folder : String) :
    ∀ step ∈ decls.flatMap (script config folder).decl, step.Provided :=
  Script.provided_decls (fun _ _ _ _ => provided_steps _ _ _ _ _ _)
    (fun _ _ _ _ _ => provided_steps _ _ _ _ _ _) (fun _ _ _ _ _ => provided_steps _ _ _ _ _ _)
    decls

end

/-! ## Complete configurations -/

/-- Where there is a main folder there is a header folder. -/
structure Config.Complete (config : Config) : Prop where
  cpp : config.cpp.outFolder.isSome = true → config.cpp.headerOutFolder.isSome = true
  objc : config.objc.outFolder.isSome = true → config.objc.headerOutFolder.isSome = true

theorem BaseDir.isSome_headerFolder (base : BaseDir) (main header : Option String) :
    (base.headerFolder main header).isSome = (base.folder main).isSome := by
  cases main with
  | none => rfl
  | some main => rfl

theorem ConfigDocument.complete_of_build {document : ConfigDocument} {base : BaseDir}
    {config : Config} (built : document.build base = .ok config) : config.Complete := by
  unfold ConfigDocument.build at built
  dsimp only at built
  repeat obtain ⟨_, -, built⟩ := exists_ok_of_bind built
  cases built
  exact ⟨(base.isSome_headerFolder _ _).trans, (base.isSome_headerFolder _ _).trans⟩

/-- A configuration that was built from a value is complete. -/
theorem complete_of_buildConfig {base : BaseDir} {value : Value} {config : Config}
    (built : buildConfig base value = .ok config) : config.Complete := by
  unfold buildConfig at built
  split at built
  · exact ConfigDocument.complete_of_build built
  · cases built

theorem Config.Complete.override {config : Config} (complete : config.Complete)
    (overrides : ConfigOverrides) : (config.override overrides).Complete :=
  ⟨complete.cpp, complete.objc⟩

/-! ## Slots of a complete configuration -/

namespace Slot

variable {config : Config} {decls : List TypeDecl} {slot : Slot}

theorem isSome_outFolder? (enabled : slot.enabled config = true) :
    (slot.outFolder? config).isSome = true :=
  (Bool.and_eq_true_iff.1 enabled).1

/-- The settings that the generator of a slot asks for are there. -/
inductive Supplied (config : Config) : Slot → Prop where
  | cpp {folder : String} (setting : config.cpp.headerOutFolder = some folder) :
      Supplied config .cpp
  | objc {folder : String} (setting : config.objc.headerOutFolder = some folder) :
      Supplied config .objc
  | bridge {folder name : String} (setting : config.objc.headerOutFolder = some folder)
      (named : config.objc.swiftBridgingHeaderName = some name) :
      Supplied config .swiftBridgingHeader
  | yaml {folder : String} (setting : config.yaml.outFolder = some folder) : Supplied config .yaml

variable [YamlPackage]

/-- An enabled slot of a complete configuration is supplied with what its generator asks for. -/
theorem supplied_of_enabled (complete : config.Complete) (enabled : slot.enabled config = true)
    {factory : BackendFactory} (found : Registry.bundled slot = some factory) :
    slot.Supplied config := by
  have main := isSome_outFolder? enabled
  cases slot with
  | cpp =>
      obtain ⟨folder, setting⟩ := Option.isSome_iff_exists.1 (complete.cpp main)
      exact .cpp setting
  | objc =>
      obtain ⟨folder, setting⟩ := Option.isSome_iff_exists.1 (complete.objc main)
      exact .objc setting
  | swiftBridgingHeader =>
      obtain ⟨folder, setting⟩ := Option.isSome_iff_exists.1 (complete.objc main)
      obtain ⟨name, named⟩ := Option.isSome_iff_exists.1 (Bool.and_eq_true_iff.1 enabled).2
      exact .bridge setting named
  | yaml =>
      obtain ⟨folder, setting⟩ := Option.isSome_iff_exists.1 main
      exact .yaml setting
  | _ => cases found

theorem Supplied.provided (supplied : slot.Supplied config) (decls : List TypeDecl) :
    ∀ step ∈ slot.backendSteps config decls, step.Provided := by
  unfold backendSteps
  cases supplied with
  | cpp setting =>
      rw [setting]
      exact CppTarget.provided_script decls _ _
  | objc setting =>
      rw [setting]
      exact ObjcTarget.provided_script decls _ _
  | bridge setting named =>
      rw [setting, named]
      refine List.forall_mem_append.2 ⟨Step.provided_create ?_, ?_⟩
      · exact SwiftBridging.built_preamble _ _
      · exact SwiftBridging.provided_script decls _ _ _
  | yaml setting =>
      rw [setting]
      exact Descriptor.provided_script decls _ _

/-- Making the generator does not fail for want of a setting. -/
theorem Supplied.settled (supplied : slot.Supplied config) {factory : BackendFactory}
    (found : Registry.bundled slot = some factory) (emitter : Emitter) (decls : List TypeDecl) :
    (factory ⟨config, emitter⟩ decls).Settled := by
  cases supplied with
  | cpp setting =>
      cases found
      obtain ⟨backend, made, -⟩ := CppTarget.governed setting emitter decls
      rw [made]
      exact .pure backend
  | objc setting =>
      cases found
      obtain ⟨backend, made, -⟩ := ObjcTarget.governed setting emitter decls
      rw [made]
      exact .pure backend
  | bridge setting named =>
      cases found
      unfold SwiftBridging.backend
      dsimp only
      rw [setting, named]
      refine .bind (.pure _) fun folder => .bind (.pure _) fun name => ?_
      refine .bind (.discard (emitter.settled_createFile _ _ ?_)) fun _ => .pure _
      exact SwiftBridging.built_preamble _ _
  | yaml setting =>
      cases found
      unfold Descriptor.backend
      dsimp only
      rw [setting]
      exact .pure _

/-- No step of a slot stops for want of a setting. -/
theorem provided_of_mem (complete : config.Complete) :
    ∀ step ∈ slot.steps config decls, step.Provided := by
  unfold steps
  split
  · next enabled =>
      split
      · exact fun step member => List.mem_singleton.1 member ▸ nofun
      · next factory found =>
          have backend := (supplied_of_enabled complete enabled found).provided decls
          refine List.forall_mem_cons.2 ⟨trivial, List.forall_mem_append.2 ⟨?_, ?_⟩⟩
          · intro step member
            obtain ⟨_, -, rfl⟩ := List.mem_map.1 member
            trivial
          · exact List.forall_mem_cons.2 ⟨trivial, backend⟩
  · nofun

end Slot

theorem settled_attachOutFileList (config : Config) : (attachOutFileList config).Settled := by
  unfold attachOutFileList
  split
  · exact .pure ()
  · refine .bind .get fun world => ?_
    split
    · exact .pure ()
    · exact Emission.settled_attachList _

/-- A run with the bundled generators does not fail for want of a setting. -/
theorem settled_runSlots [YamlPackage] {config : Config} (complete : config.Complete)
    (decls : List TypeDecl) : (runSlots .bundled config decls).Settled := by
  rw [runSlots_bundled]
  refine .bind (settled_attachOutFileList config) fun _ => Step.settled_performAll _ ?_
  intro step member
  obtain ⟨slot, -, member⟩ := List.mem_flatMap.1 member
  exact slot.provided_of_mem complete step member

/-! ## Folders that generators write to -/

/-- The folder of the file that a call asks for. -/
def Call.folder? : Call → Option String
  | .createFile folder _ _ => some folder
  | .createFileOnce folder _ _ => some folder
  | .appendToFile folder _ _ => some folder
  | .createFolder _ _ => none

namespace Slot

variable {config : Config} {decls : List TypeDecl} {slot : Slot}

theorem mem_folders_of_main (own : slot ≠ .swiftBridgingHeader) {folder : String}
    (setting : slot.outFolder? config = some folder) :
    ⟨slot.label, folder⟩ ∈ slot.folders config := by
  rw [folders, if_neg own, setting]
  exact List.mem_append_left _ (List.mem_singleton_self _)

theorem mem_folders_of_header (own : slot ≠ .swiftBridgingHeader) {folder : String}
    (setting : slot.headerFolder? config = some folder) :
    ⟨slot.label ++ " header", folder⟩ ∈ slot.folders config := by
  rw [folders, if_neg own, setting]
  exact List.mem_append_right _ (List.mem_singleton_self _)

theorem mem_preparation {label folder : String} (member : ⟨label, folder⟩ ∈ slot.folders config) :
    .call (.createFolder label folder) ∈ slot.preparation config := by
  refine List.mem_append_left _ (List.mem_append_right _ ?_)
  exact List.mem_map.2 ⟨_, member, rfl⟩

theorem objc_before_bridge {earlier later : List Slot}
    (order : Slot.all = earlier ++ .swiftBridgingHeader :: later) : .objc ∈ earlier := by
  have sorted : Slot.all.Pairwise fun former latter =>
      ¬ (former = .swiftBridgingHeader ∧ latter = .objc) := by decide
  have member := Slot.mem_all .objc
  rw [order] at sorted member
  rcases List.mem_append.1 member with before | member
  · exact before
  · rcases List.mem_cons.1 member with same | behind
    · cases same
    · have apart := (List.pairwise_cons.1 (List.pairwise_append.1 sorted).2.1).1 _ behind
      exact absurd ⟨rfl, rfl⟩ apart

variable [YamlPackage]

/-- The folder that the generator of a slot writes to is created by the slot itself, or by that of
the Objective-C headers for the bridging header. -/
theorem folder_created (enabled : slot.enabled config = true) {request : Call} {folder : String}
    (asked : .call request ∈ slot.backendSteps config decls)
    (target : request.folder? = some folder) :
    ∃ maker label, (maker = slot ∨ maker = .objc ∧ slot = .swiftBridgingHeader) ∧
      maker.enabled config = true ∧ ⟨label, folder⟩ ∈ maker.folders config := by
  cases asks_of_mem asked with
  | cpp setting name body =>
      cases target
      exact ⟨.cpp, _, .inl rfl, enabled, mem_folders_of_header (by decide) setting⟩
  | objc setting name body =>
      cases target
      exact ⟨.objc, _, .inl rfl, enabled, mem_folders_of_header (by decide) setting⟩
  | bridge setting named body =>
      cases target
      exact ⟨.objc, _, .inr ⟨rfl, rfl⟩, enabled_objc enabled,
        mem_folders_of_header (by decide) setting⟩
  | bridgeImport setting named body =>
      cases target
      exact ⟨.objc, _, .inr ⟨rfl, rfl⟩, enabled_objc enabled,
        mem_folders_of_header (by decide) setting⟩
  | descriptor setting unshared name body =>
      cases target
      exact ⟨.yaml, _, .inl rfl, enabled, mem_folders_of_main (by decide) setting⟩
  | sharedTop setting shared body =>
      cases target
      exact ⟨.yaml, _, .inl rfl, enabled, mem_folders_of_main (by decide) setting⟩
  | sharedDocument setting shared body =>
      cases target
      exact ⟨.yaml, _, .inl rfl, enabled, mem_folders_of_main (by decide) setting⟩

/-- What a run does before it makes the generator of a slot, where the slots `earlier` precede
it. -/
def lead (config : Config) (decls : List TypeDecl) (earlier : List Slot) (slot : Slot) :
    List Move :=
  (earlier.filter (·.enabled config)).flatMap (Slot.course .bundled config decls) ++
    (slot.preparation config).map .own

/-- The course of a run around the making of a generator. -/
theorem course_eq (enabled : slot.enabled config = true) {factory : BackendFactory}
    (found : Registry.bundled slot = some factory) {earlier later : List Slot}
    (order : Slot.all = earlier ++ slot :: later) (session : Session) :
    BridgeCode.course .bundled config decls session =
      attachMoves config session ++ slot.lead config decls earlier ++
        .make factory :: ((decls.filter (·.isLocal)).map TypeDecl.move ++
          (later.filter (·.enabled config)).flatMap (Slot.course .bundled config decls)) := by
  have own : slot.course .bundled config decls = (slot.preparation config).map .own ++
      .make factory :: (decls.filter (·.isLocal)).map TypeDecl.move := by
    unfold Slot.course
    rw [found]
  rw [BridgeCode.course, order, List.filter_append, List.filter_cons_of_pos enabled,
    List.flatMap_append, List.flatMap_cons, own, lead]
  simp only [List.append_assoc, List.cons_append]

/-- A folder that the generator of a slot writes to is created before the generator is made. -/
theorem folder_in_lead (enabled : slot.enabled config = true) {earlier later : List Slot}
    (order : Slot.all = earlier ++ slot :: later) {request : Call} {folder : String}
    (asked : .call request ∈ slot.backendSteps config decls)
    (target : request.folder? = some folder) :
    ∃ label, .own (.call (.createFolder label folder)) ∈ slot.lead config decls earlier := by
  obtain ⟨maker, label, own | ⟨rfl, rfl⟩, active, member⟩ := folder_created enabled asked target
  · subst own
    exact ⟨label, List.mem_append_right _ (List.mem_map_of_mem (mem_preparation member))⟩
  · have before : .objc ∈ earlier := objc_before_bridge order
    refine ⟨label, List.mem_append_left _ (List.mem_flatMap.2 ⟨.objc, ?_, ?_⟩)⟩
    · exact List.mem_filter.2 ⟨before, active⟩
    · exact List.mem_append_left _ (List.mem_map_of_mem (mem_preparation member))

end Slot

/-- A configuration that was built from a value, with whatever settings replaced, has all settings
that an enabled slot needs. So a run with the bundled generators never fails for want of one, and
neither does the making of a generator. The files that the generator of a slot asks for lie in
folders that the slot, or an enabled one before it, has created before the generator is made. -/
theorem enabled_slots_have_settings [YamlPackage] {base : BaseDir} {value : Value}
    {config : Config} (built : buildConfig base value = .ok config) (overrides : ConfigOverrides)
    (decls : List TypeDecl) :
    let settled := config.override overrides
    (∀ world,
      (generate .bundled settled decls).runOn world =
        answered ((runSlots .bundled settled decls).runOn world) ∧
      ∀ error, ((runSlots .bundled settled decls).runOn world).1 = .error (.generate error) →
        error.code ≠ .missingSetting) ∧
    ∀ slot factory, slot.enabled settled = true → Registry.bundled slot = some factory →
      ∀ emitter : Emitter,
        (∀ world error,
          ((factory ⟨settled, emitter⟩ decls).runOn world).1 = .error (.generate error) →
            error.code ≠ .missingSetting) ∧
        factory.generate ⟨settled, emitter⟩ decls =
          Step.performAll emitter (slot.backendSteps settled decls) ∧
        ∃ earlier later, Slot.all = earlier ++ slot :: later ∧
          (∀ session, ∃ back, course .bundled settled decls session =
            attachMoves settled session ++ slot.lead settled decls earlier ++
              .make factory :: back) ∧
          ∀ request folder, .call request ∈ slot.backendSteps settled decls →
            request.folder? = some folder →
            ∃ label, .own (.call (.createFolder label folder)) ∈
              slot.lead settled decls earlier := by
  intro settled
  have complete := (complete_of_buildConfig built).override overrides
  refine ⟨fun world => ⟨rfl, settled_runSlots complete decls world⟩, ?_⟩
  intro slot factory enabled found emitter
  have supplied := Slot.supplied_of_enabled complete enabled found
  obtain ⟨earlier, later, order⟩ := List.append_of_mem slot.mem_all
  refine ⟨supplied.settled found emitter decls, Registry.bundled_generate _ _ _ found, earlier,
    later, order, fun session => ⟨_, Slot.course_eq enabled found order session⟩, ?_⟩
  exact fun request folder => Slot.folder_in_lead enabled order

open scoped Yaml in
/-- The bridging header has no folder of its own: it goes to one that an earlier slot creates. -/
theorem bridgedSettings_supplied :
    ∃ config, buildConfig ⟨"/", "/"⟩ bridgedSettings = .ok config ∧
      let settled := config.override { idlFileName := some "shapes.yaml" }
      Slot.swiftBridgingHeader.enabled settled = true ∧
      (∀ error,
        ((runSlots .bundled settled shapeDecls).runOn emptyWorld).1 = .error (.generate error) →
          error.code ≠ .missingSetting) ∧
      (∀ error,
        ((SwiftBridging.backend ⟨settled, {}⟩ shapeDecls).runOn emptyWorld).1 =
          .error (.generate error) → error.code ≠ .missingSetting) ∧
      .call (.createFile "/objc" "Shapes.h" (SwiftBridging.preamble "shapes.yaml" "Shapes")) ∈
        Slot.swiftBridgingHeader.backendSteps settled shapeDecls ∧
      ∃ earlier later label, Slot.all = earlier ++ .swiftBridgingHeader :: later ∧
        .own (.call (.createFolder label "/objc")) ∈
          Slot.swiftBridgingHeader.lead settled shapeDecls earlier := by
  have evaluated : ((buildConfig ⟨"/", "/"⟩ bridgedSettings).toOption.any fun config =>
      Slot.swiftBridgingHeader.enabled config && config.objc.headerOutFolder == some "/objc" &&
        config.objc.swiftBridgingHeaderName == some "Shapes") = true := by
    decide +kernel
  cases built : buildConfig ⟨"/", "/"⟩ bridgedSettings with
  | error error =>
      rw [built] at evaluated
      cases evaluated
  | ok config =>
      rw [built] at evaluated
      simp only [Except.toOption, Option.any_some, Bool.and_eq_true, beq_iff_eq] at evaluated
      obtain ⟨⟨bridged, setting⟩, named⟩ := evaluated
      obtain ⟨answers, slots⟩ :=
        enabled_slots_have_settings built { idlFileName := some "shapes.yaml" } shapeDecls
      obtain ⟨made, -, earlier, later, order, -, created⟩ :=
        slots .swiftBridgingHeader SwiftBridging.backend bridged rfl {}
      have asked : .call (.createFile "/objc" "Shapes.h"
            (SwiftBridging.preamble "shapes.yaml" "Shapes")) ∈
          Slot.swiftBridgingHeader.backendSteps
            (config.override { idlFileName := some "shapes.yaml" }) shapeDecls := by
        have same : "Shapes" ++ ".h" = "Shapes.h" := by decide +kernel
        unfold Slot.backendSteps Config.override
        rw [setting, named]
        refine List.mem_append_left _ (List.mem_singleton.2 ?_)
        rw [same]
        rfl
      obtain ⟨label, member⟩ := created _ "/objc" asked rfl
      exact ⟨config, rfl, bridged, (answers emptyWorld).2, made emptyWorld, asked, earlier, later,
        label, order, member⟩

end BridgeCode
