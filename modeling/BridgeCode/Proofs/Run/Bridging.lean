import BridgeCode.Proofs.Emit.Contents
import BridgeCode.Proofs.Run.DryRun
import BridgeCode.Proofs.Run.Order
import BridgeCode.Proofs.Target.HeaderText

/-!
The bridging header and the Objective-C headers.

Two slots of a run have to agree here: one creates a header for each declaration, the other creates
the bridging header and then adds an import to it for each declaration. They go by the same
declarations in the same order, so the imports name the headers that were created.

* `createdBy`: the files that a slot created, in their order, read off the journal. Where
  declarations share no file, they are what the slot asks for (`Step.createdBy_of_performAll`).
* `Step.holds_of_performAll`: a file of the run keeps its text while nothing is added to files.
* `bridging_header_imports_headers`: the bridging header is its preamble and the imports of exactly
  the headers that were created, and it is none of them.
-/

namespace BridgeCode

/-! ## Created files in the journal -/

/-- The files that a slot created, where `active` is the slot that was entered last. -/
def createdBy (slot : Slot) : Option Slot → List Event → List String
  | _, [] => []
  | _, .entered other :: rest => createdBy slot (some other) rest
  | active, .opened .truncate file _ :: rest =>
    if active = some slot then file :: createdBy slot active rest else createdBy slot active rest
  | active, .opened .append .. :: rest => createdBy slot active rest
  | active, .called _ :: rest => createdBy slot active rest

namespace Step

variable {emitter : Emitter} {step : Step} {steps : List Step} {world after : World} {slot : Slot}

/-- Events created what steps ask to create, whichever slot was entered last. -/
def Creates (slot : Slot) (steps : List Step) (events : List Event) : Prop :=
  ∀ active, createdBy slot active events = filesOf Call.creates? slot active steps

/-- A step that succeeds creates what it asks to create, in front of what comes after it. -/
theorem createdBy_of_perform (live : emitter.skip = false) (ready : world.Ready)
    (own : step.OwnFile) (ran : (step.perform emitter).runOn world = (.ok (), after)) :
    ∃ events, after.journal = world.journal ++ events ∧
      ∀ {steps more}, Creates slot steps more → Creates slot (step :: steps) (events ++ more) := by
  cases step with
  | enter other =>
      cases ran
      exact ⟨[.entered other], rfl, fun creates _ => creates (some other)⟩
  | announce other =>
      cases ran
      exact ⟨[], (List.append_nil _).symm, fun creates active => creates active⟩
  | stop error => cases ran
  | call request =>
      cases request with
      | createFile folder fileName body =>
          obtain ⟨before, place, prepares, writes⟩ := Emitter.creates_of_ok live ready ran
          refine ⟨[.opened .truncate (Path.join [folder, fileName]) place], ?_, ?_⟩
          · rw [writes.journal_eq, prepares.unopened]
          · intro steps more creates active
            rw [List.singleton_append, createdBy, filesOf, creates active]
            rfl
      | createFileOnce folder fileName body => exact own.elim
      | appendToFile folder fileName body =>
          rw [perform, Call.perform, Emission.runOn_discard, Emitter.runOn_appendToFile live] at ran
          rcases Emitter.writeTo_effect emitter .append (Path.join [folder, fileName]) body world
            with ⟨fault, failed⟩ | ⟨place, writes⟩
          · rw [failed] at ran
            cases ran
          · obtain rfl := congrArg Prod.snd ran
            refine ⟨[.opened .append (Path.join [folder, fileName]) place], writes.journal_eq, ?_⟩
            intro steps more creates active
            rw [List.singleton_append, createdBy, filesOf, creates active]
            simp [Call.creates?]
      | createFolder label folder =>
          have quiet := Emitter.createFolder_quiet live label folder world
          rw [perform, Call.perform] at ran
          rw [ran] at quiet
          refine ⟨[], by rw [quiet.unopened, List.append_nil], fun creates active => ?_⟩
          rw [List.nil_append, filesOf, creates active]
          simp [Call.creates?]

/-- Steps that succeed create what they ask to create, in their order. -/
theorem createdBy_of_performAll (live : emitter.skip = false) (ready : world.Ready)
    (own : ∀ step ∈ steps, step.OwnFile)
    (ran : (performAll emitter steps).runOn world = (.ok (), after)) :
    ∃ events, after.journal = world.journal ++ events ∧ Creates slot steps events := by
  induction steps generalizing world with
  | nil =>
      cases ran
      exact ⟨[], (List.append_nil _).symm, fun _ => rfl⟩
  | cons step steps ih =>
      obtain ⟨ownStep, ownRest⟩ := List.forall_mem_cons.1 own
      obtain ⟨middle, first, rest⟩ := performAll_cons_ok ran
      obtain ⟨events, journal, creates⟩ :=
        @createdBy_of_perform emitter step world middle slot live ready ownStep first
      have extended := extends_of_perform ready first
      obtain ⟨more, journal', later⟩ := ih (extended.ready ready) ownRest rest
      refine ⟨events ++ more, ?_, creates later⟩
      rw [journal', journal, List.append_assoc]

/-! ## Files of the run while steps are taken -/

/-- Files that steps in a plain world create are files of the run from then on. -/
theorem registers_of_performAll (live : emitter.skip = false) (plain : world.Plain)
    (ran : (performAll emitter steps).runOn world = (.ok (), after)) :
    ∀ file ∈ steps.filterMap (pick? Call.creates?), after.Registers file := by
  induction steps generalizing world with
  | nil => nofun
  | cons step steps ih =>
      obtain ⟨middle, first, rest⟩ := performAll_cons_ok ran
      have extended := extends_of_perform plain.ready first
      have later := ih (plain.extends extended) rest
      have extended' := extends_of_performAll (plain.extends extended).ready rest
      intro file member
      obtain ⟨other, among, created⟩ := List.mem_filterMap.1 member
      rcases List.mem_cons.1 among with rfl | among
      · cases other with
        | call request =>
            cases request with
            | createFile folder fileName body =>
                cases created
                obtain ⟨-, place, makes⟩ := Emitter.makes_of_ok live plain first
                exact makes.registers.extends extended'
            | _ => cases created
        | _ => cases created
      · exact later file (List.mem_filterMap.2 ⟨other, among, created⟩)

/-- The step adds nothing to a file that is there. -/
def Sparing : Step → Prop
  | .call (.createFileOnce ..) => False
  | .call (.appendToFile ..) => False
  | _ => True

/-- A file of the run keeps its text in a step that adds nothing to files. -/
theorem holds_of_perform (live : emitter.skip = false) (plain : world.Plain)
    (sparing : step.Sparing) {file text : String} (holds : world.Holds file text)
    (ran : (step.perform emitter).runOn world = (.ok (), after)) : after.Holds file text := by
  cases step with
  | enter other =>
      cases ran
      exact holds
  | announce other =>
      cases ran
      exact holds
  | stop error => cases ran
  | call request =>
      cases request with
      | createFile folder fileName body =>
          obtain ⟨-, place, makes⟩ := Emitter.makes_of_ok live plain ran
          exact holds.makes makes
      | createFileOnce folder fileName body => exact sparing.elim
      | appendToFile folder fileName body => exact sparing.elim
      | createFolder label folder => exact Emitter.holds_of_folder live holds ran

theorem holds_of_performAll (live : emitter.skip = false) (plain : world.Plain)
    (sparing : ∀ step ∈ steps, step.Sparing) {file text : String} (holds : world.Holds file text)
    (ran : (performAll emitter steps).runOn world = (.ok (), after)) : after.Holds file text := by
  induction steps generalizing world with
  | nil =>
      cases ran
      exact holds
  | cons step steps ih =>
      obtain ⟨sparingStep, sparingRest⟩ := List.forall_mem_cons.1 sparing
      obtain ⟨middle, first, rest⟩ := performAll_cons_ok ran
      have extended := extends_of_perform plain.ready first
      have kept := holds_of_perform live plain sparingStep holds first
      exact ih (plain.extends extended) sparingRest kept rest

/-- Lines that are added to a file of the run follow its text in their order. -/
theorem holds_of_lines (live : emitter.skip = false) {folder fileName text : String}
    (holds : world.Holds (Path.join [folder, fileName]) text) {lines : List String}
    (ran : (performAll emitter
      (lines.flatMap fun line => extend folder fileName (.line line))).runOn world =
        (.ok (), after)) :
    after.Holds (Path.join [folder, fileName]) (text ++ Text.ofLines lines) := by
  induction lines generalizing world text with
  | nil =>
      cases ran
      rwa [Text.ofLines_nil, String.append_empty]
  | cons line lines ih =>
      obtain ⟨middle, first, rest⟩ := performAll_cons_ok ran
      have added := Emitter.holds_of_append live holds first
      rw [emitter.bodyText_of_prints (.line line)] at added
      have whole := ih added rest
      rwa [String.append_assoc, ← Text.ofLines_append, List.singleton_append] at whole

/-- Steps that succeed do not stop. -/
theorem ne_stop_of_performAll
    (ran : (performAll emitter steps).runOn world = (.ok (), after)) (error : GenerateError) :
    .stop error ∉ steps := by
  induction steps generalizing world with
  | nil => nofun
  | cons step steps ih =>
      obtain ⟨middle, first, rest⟩ := performAll_cons_ok ran
      intro member
      rcases List.mem_cons.1 member with rfl | member
      · cases first
      · exact ih rest member

end Step

/-! ## Declarations that are taken -/

/-- A declaration that is defined here is taken, or generators stop at it. -/
theorem Script.stops_or_taken (script : Script) {decl : TypeDecl} (isLocal : decl.isLocal = true) :
    (∃ error, script.decl decl = [.stop error]) ∨ decl.Taken := by
  unfold Script.decl
  rw [if_pos isLocal]
  cases body : decl.body with
  | enum options =>
      cases params : decl.params with
      | nil => exact .inr ⟨isLocal, fun _ => params, by simp [body, DeclBody.kind]⟩
      | cons param params => exact .inl ⟨_, rfl⟩
  | record fields =>
      exact .inr ⟨isLocal, by simp [body, DeclBody.kind], by simp [body, DeclBody.kind]⟩
  | interface methods =>
      exact .inr ⟨isLocal, by simp [body, DeclBody.kind], by simp [body, DeclBody.kind]⟩
  | unsupported kind raw => exact .inl ⟨_, rfl⟩

/-- Where a generator does not stop, it takes every declaration that is defined here. -/
theorem Script.taken_of_unstopped {script : Script} {decls : List TypeDecl}
    (unstopped : ∀ error, .stop error ∉ decls.flatMap script.decl) :
    ∀ decl ∈ decls.filter (·.isLocal), decl.Taken := by
  intro decl member
  obtain ⟨among, isLocal⟩ := List.mem_filter.1 member
  rcases script.stops_or_taken isLocal with ⟨error, stops⟩ | taken
  · refine absurd (List.mem_flatMap.2 ⟨decl, among, ?_⟩) (unstopped error)
    rw [stops]
    exact List.mem_singleton_self _
  · exact taken

/-- Imported declarations ask for nothing. -/
theorem Script.flatMap_decl (script : Script) (decls : List TypeDecl) :
    decls.flatMap script.decl = (decls.filter (·.isLocal)).flatMap script.decl := by
  induction decls with
  | nil => rfl
  | cons decl decls ih =>
      rw [List.flatMap_cons, ih]
      cases isLocal : decl.isLocal with
      | true => rw [List.filter_cons_of_pos isLocal, List.flatMap_cons]
      | false =>
          rw [List.filter_cons_of_neg (by simp [isLocal]), Script.decl, if_neg (by simp [isLocal]),
            List.nil_append]

theorem ObjcTarget.created_by_script {target : ObjcTarget} {folder : String} {decl : TypeDecl}
    (taken : decl.Taken) :
    ((target.script folder).decl decl).filterMap (Step.pick? Call.creates?) =
      [Path.join [folder, headerName target.config decl.name]] := by
  rw [Script.decl_of_taken _ taken]
  cases body : decl.body with
  | unsupported kind raw => exact absurd (by rw [body]; rfl) (taken.supported kind)
  | _ => rfl

theorem SwiftBridging.script_decl {config : ObjcConfig} {folder fileName : String}
    {decl : TypeDecl} (taken : decl.Taken) :
    (script config folder fileName).decl decl =
      Step.extend folder fileName
        (.line ("#import " ++ ObjcTarget.headerTarget config decl.name)) := by
  rw [Script.decl_of_taken _ taken, ← importLine_eq]
  cases body : decl.body with
  | unsupported kind raw => exact absurd (by rw [body]; rfl) (taken.supported kind)
  | _ => rfl

/-- The bridging header gets one import for each declaration that is defined here. -/
theorem SwiftBridging.flatMap_script {config : ObjcConfig} {folder fileName : String}
    {decls : List TypeDecl} (taken : ∀ decl ∈ decls.filter (·.isLocal), decl.Taken) :
    decls.flatMap (script config folder fileName).decl =
      ((decls.filter (·.isLocal)).map fun decl =>
        "#import " ++ ObjcTarget.headerTarget config decl.name).flatMap
          fun line => Step.extend folder fileName (.line line) := by
  rw [Script.flatMap_decl, List.flatMap_map]
  exact List.flatMap_congr fun decl member => script_decl (taken decl member)

/-! ## The bridging header -/

namespace SwiftBridging

/-- The lines of the bridging header in front of its imports. -/
def preambleLines (idlFileName headerName : String) : List String :=
  Render.bannerLines idlFileName "//" ++
    ["", ObjcTarget.foundationImport, "",
      "FOUNDATION_EXPORT double " ++ headerName ++ "VersionNumber;",
      "FOUNDATION_EXPORT const unsigned char " ++ headerName ++ "VersionString[];", ""]

theorem prints_preamble (idlFileName headerName : String) :
    (preamble idlFileName headerName).Prints (preambleLines idlFileName headerName) :=
  .bind (Render.prints_banner idlFileName "//") (.bind .newline (.bind (.line _)
    (.bind .newline (.bind (.line _) (.bind (.line _) .newline)))))

/-- The bridging header as a text. -/
def headerText (config : Config) (name : String) (headers : List String) : String :=
  Text.ofLines (preambleLines config.idlFileName name ++
    headers.map fun header => "#import " ++ Render.quote (config.objc.includePrefix ++ header))

end SwiftBridging

/-- The Objective-C headers of declarations. -/
def ObjcTarget.headers (config : ObjcConfig) (decls : List TypeDecl) : List String :=
  (decls.filter (·.isLocal)).map fun decl => headerName config decl.name

namespace Slot

variable {config : Config} {decls : List TypeDecl} {emitter : Emitter} {world after : World}

/-- The bridging header comes with the Objective-C headers. -/
theorem enabled_objc (bridged : Slot.swiftBridgingHeader.enabled config = true) :
    Slot.objc.enabled config = true := by
  unfold enabled at bridged ⊢
  rw [Bool.and_eq_true] at bridged ⊢
  exact ⟨bridged.1, rfl⟩

variable [YamlPackage]

/-- The slot of the bridging header has both of its settings if it succeeds. -/
theorem bridge_settings (bridged : Slot.swiftBridgingHeader.enabled config = true)
    (ran : (Step.performAll emitter (Slot.swiftBridgingHeader.steps config decls)).runOn world =
      (.ok (), after)) :
    ∃ folder name, config.objc.headerOutFolder = some folder ∧
      config.objc.swiftBridgingHeaderName = some name ∧
      Slot.swiftBridgingHeader.steps config decls =
        [.enter .swiftBridgingHeader, .announce .swiftBridgingHeader] ++
          .call (.createFile folder (name ++ ".h")
            (SwiftBridging.preamble config.idlFileName name)) ::
          decls.flatMap (SwiftBridging.script config.objc folder (name ++ ".h")).decl := by
  have taken : Slot.swiftBridgingHeader.steps config decls =
      .enter .swiftBridgingHeader :: .announce .swiftBridgingHeader ::
        Slot.swiftBridgingHeader.backendSteps config decls := by
    unfold Slot.steps
    rw [if_pos bridged]
    rfl
  rw [taken] at ran ⊢
  cases setting : config.objc.headerOutFolder with
  | none =>
      have stops : Slot.swiftBridgingHeader.backendSteps config decls =
          [.stop (.missingSetting "Objective-C header folder")] := by
        unfold backendSteps
        rw [setting]
        rfl
      rw [stops] at ran
      cases ran
  | some folder =>
      cases named : config.objc.swiftBridgingHeaderName with
      | none => simp [enabled, named] at bridged
      | some name =>
          refine ⟨folder, name, rfl, rfl, ?_⟩
          unfold backendSteps
          rw [setting, named]
          rfl

/-- The slot of the bridging header, if it succeeds: it took every declaration that is defined here,
the header has its preamble and the imports, and it is and stays none of the files before it. -/
theorem bridge_of_performAll (live : emitter.skip = false) (plain : world.Plain)
    (bridged : Slot.swiftBridgingHeader.enabled config = true)
    (ran : (Step.performAll emitter (Slot.swiftBridgingHeader.steps config decls)).runOn world =
      (.ok (), after)) :
    ∃ folder name, config.objc.headerOutFolder = some folder ∧
      config.objc.swiftBridgingHeaderName = some name ∧
      (∀ decl ∈ decls.filter (·.isLocal), decl.Taken) ∧
      after.Holds (Path.join [folder, name ++ ".h"])
        (SwiftBridging.headerText config name (ObjcTarget.headers config.objc decls)) ∧
      ∀ {other : String} {later : FileSystem}, world.Registers other → after.files.Grows later →
        later.locate other ≠ later.locate (Path.join [folder, name ++ ".h"]) := by
  obtain ⟨folder, name, setting, named, steps⟩ := bridge_settings bridged ran
  rw [steps] at ran
  obtain ⟨announced, began, ran⟩ := Step.performAll_append_ok ran
  obtain ⟨made, created, imported⟩ := Step.performAll_cons_ok ran
  have toAnnounced := Step.extends_of_performAll plain.ready began
  have plain' := plain.extends toAnnounced
  have toMade := Step.extends_of_perform plain'.ready created
  have toAfter := Step.extends_of_performAll (plain'.extends toMade).ready imported
  obtain ⟨noSlash, place, makes⟩ := Emitter.makes_of_ok live plain' created
  rw [emitter.bodyText_of_prints (SwiftBridging.prints_preamble _ _)] at makes
  have taken := Script.taken_of_unstopped (Step.ne_stop_of_performAll imported)
  refine ⟨folder, name, setting, named, taken, ?_, fun registers grows => ?_⟩
  · rw [SwiftBridging.flatMap_script taken] at imported
    have whole := Step.holds_of_lines live (World.Holds.of_makes noSlash makes) imported
    rw [SwiftBridging.headerText, ObjcTarget.headers, Text.ofLines_append, List.map_map]
    exact whole
  · exact makes.apart (registers.extends toAnnounced) (toAfter.grows.trans grows)

/-- Without a file that declarations share, only the bridging header is added to. -/
theorem sparing_of_mem (unshared : config.yaml.outFile = none) {slot : Slot}
    (other : slot ≠ .swiftBridgingHeader) : ∀ step ∈ slot.steps config decls, step.Sparing := by
  refine Slot.forall_steps trivial trivial (fun _ _ => trivial) (fun _ => trivial) ?_
  intro step member
  cases Slot.asks_of_mem member with
  | bridgeImport => exact absurd rfl other
  | sharedTop setting shared => simp [unshared] at shared
  | sharedDocument setting shared => simp [unshared] at shared
  | _ => trivial

/-- The Objective-C slot creates one header for each declaration that is defined here. -/
theorem created_objc (enabled : Slot.objc.enabled config = true) {folder : String}
    (setting : config.objc.headerOutFolder = some folder)
    (taken : ∀ decl ∈ decls.filter (·.isLocal), decl.Taken) :
    (Slot.objc.steps config decls).filterMap (Step.pick? Call.creates?) =
      (ObjcTarget.headers config.objc decls).map fun header => Path.join [folder, header] := by
  have folders : (((Slot.objc.folders config).map fun folder =>
      Step.call (.createFolder folder.name folder.path)).filterMap (Step.pick? Call.creates?)) =
        [] := by
    rw [List.filterMap_map]
    exact List.filterMap_eq_nil_iff.2 fun _ _ => rfl
  have asked : Slot.objc.backendSteps config decls =
      decls.flatMap (ObjcTarget.script ⟨config.objc, .ofDecls decls⟩ folder).decl := by
    unfold backendSteps
    rw [setting]
    rfl
  have steps : Slot.objc.steps config decls =
      .enter .objc :: (((Slot.objc.folders config).map fun folder =>
        .call (.createFolder folder.name folder.path)) ++
          .announce .objc :: Slot.objc.backendSteps config decls) := by
    unfold Slot.steps
    rw [if_pos enabled]
    rfl
  rw [steps, List.filterMap_cons_none rfl, List.filterMap_append, folders, List.nil_append,
    List.filterMap_cons_none rfl, asked, Script.flatMap_decl, List.filterMap_flatMap,
    ObjcTarget.headers, List.map_map, List.map_eq_flatMap]
  exact List.flatMap_congr fun decl member => ObjcTarget.created_by_script (taken decl member)

end Slot

section

variable [YamlPackage]

/-- The slots before and after that of the bridging header. -/
theorem plan_around_bridge (config : Config) (decls : List TypeDecl) :
    plan config decls =
      [.cpp, .java, .jni, .objc, .objcpp].flatMap (Slot.steps config decls) ++
        (Slot.swiftBridgingHeader.steps config decls ++
          [.cppCli, .yaml, .python, .cWrapper, .cffi].flatMap (Slot.steps config decls)) := by
  have around : Slot.all = [.cpp, .java, .jni, .objc, .objcpp] ++
      .swiftBridgingHeader :: [.cppCli, .yaml, .python, .cWrapper, .cffi] := rfl
  rw [plan, around, List.flatMap_append]
  rfl

/-- In a run that succeeds, the bridging header is its preamble and one import for each declaration
that is defined here, in their order. The imports name the headers that the Objective-C slot
created, all of them and in the order of their creation, and the bridging header is none of
these. -/
theorem bridging_header_imports_headers {options : Emission.SessionOptions}
    (unlisted : options.manifestFile = none) {config : Config}
    (bridged : Slot.swiftBridgingHeader.enabled config = true)
    (unshared : config.yaml.outFile = none) (unattached : config.outFileList = none)
    (live : config.skipGeneration = false) {decls : List TypeDecl} {world after : World}
    (free : world.files.LinkFree) (cwd : world.files.HasCwd)
    (ran : (freshRun options config decls).runOn world = (.ok none, after)) :
    ∃ folder name events, config.objc.headerOutFolder = some folder ∧
      config.objc.swiftBridgingHeaderName = some name ∧
      after.journal = world.journal ++ events ∧
      createdBy .objc none events =
        (ObjcTarget.headers config.objc decls).map (fun header => Path.join [folder, header]) ∧
      after.files.read (Path.join [folder, name ++ ".h"]) =
        .ok (SwiftBridging.headerText config name (ObjcTarget.headers config.objc decls)) ∧
      ∀ file ∈ createdBy .objc none events,
        after.files.locate file ≠ after.files.locate (Path.join [folder, name ++ ".h"]) := by
  have plain : World.Plain { world with session := options.session } :=
    ⟨options.no_list, free, cwd⟩
  rw [freshRun_unlisted unlisted unattached, live] at ran
  obtain ⟨events, journal, creates⟩ :=
    @Step.createdBy_of_performAll _ _ _ _ .objc rfl plain.ready (plan_ownFile unshared decls) ran
  have created := creates none
  rw [Step.filesOf_plan] at created
  rw [plan_around_bridge] at ran
  obtain ⟨middle, before, ran⟩ := Step.performAll_append_ok ran
  obtain ⟨made, bridge, behind⟩ := Step.performAll_append_ok ran
  have toMiddle := Step.extends_of_performAll plain.ready before
  have plain' := plain.extends toMiddle
  have toMade := Step.extends_of_performAll plain'.ready bridge
  have toAfter := Step.extends_of_performAll (plain'.extends toMade).ready behind
  obtain ⟨folder, name, setting, named, taken, holds, apart⟩ :=
    Slot.bridge_of_performAll rfl plain' bridged bridge
  have headers := Slot.created_objc (Slot.enabled_objc bridged) setting taken
  refine ⟨folder, name, events, setting, named, journal, created.trans headers, ?_, ?_⟩
  · have spared : ∀ step ∈ [.cppCli, .yaml, .python, .cWrapper, .cffi].flatMap
        (Slot.steps config decls), step.Sparing := by
      intro step member
      obtain ⟨slot, among, member⟩ := List.mem_flatMap.1 member
      refine Slot.sparing_of_mem unshared ?_ step member
      rintro rfl
      simp at among
    exact (Step.holds_of_performAll rfl (plain'.extends toMade) spared holds behind).read_eq
  · intro file member
    rw [created] at member
    -- The Objective-C slot is one of those before the bridging header.
    have asked : file ∈ ([.cpp, .java, .jni, .objc, .objcpp].flatMap
        (Slot.steps config decls)).filterMap (Step.pick? Call.creates?) := by
      rw [List.filterMap_flatMap]
      exact List.mem_flatMap.2 ⟨.objc, by simp, member⟩
    exact apart (Step.registers_of_performAll rfl plain before file asked) toAfter.grows

end

/-- Settings with Objective-C headers and a bridging header. -/
def bridgedSettings : Value :=
  .map [("objc", .map [("out_folder", .str "objc"), ("swift_bridging_header_name", .str "Shapes")])]

/-- A record and an enum with an imported enum between them. -/
def shapeDecls : List TypeDecl :=
  [pixelDecl, { colorDecl with name := "hue", scope := .imported }, colorDecl]

theorem emptyWorld_hasCwd : emptyWorld.files.HasCwd :=
  ⟨nofun, fun front name back eq => by cases front <;> cases eq⟩

open scoped Yaml in
theorem bridgedSettings_imports :
    ∃ config after, buildConfig ⟨"/", "/"⟩ bridgedSettings = .ok config ∧
      Slot.swiftBridgingHeader.enabled config = true ∧ config.yaml.outFile = none ∧
      config.outFileList = none ∧ config.skipGeneration = false ∧ emptyWorld.files.LinkFree ∧
      emptyWorld.files.HasCwd ∧
      (freshRun {} config shapeDecls).runOn emptyWorld = (.ok none, after) ∧
      createdBy .objc none after.journal = ["/objc/Pixel.h", "/objc/Color.h"] ∧
      after.files.read "/objc/Shapes.h" =
        .ok (SwiftBridging.headerText config "Shapes" ["Pixel.h", "Color.h"]) := by
  have evaluated : ((buildConfig ⟨"/", "/"⟩ bridgedSettings).toOption.any fun config =>
      Slot.swiftBridgingHeader.enabled config && config.yaml.outFile.isNone &&
        config.outFileList.isNone && !config.skipGeneration &&
        config.objc.headerOutFolder == some "/objc" &&
        config.objc.swiftBridgingHeaderName == some "Shapes" &&
        ObjcTarget.headers config.objc shapeDecls == ["Pixel.h", "Color.h"] &&
        ((freshRun {} config shapeDecls).runOn emptyWorld).1.toOption.any (·.isNone)) = true := by
    decide +kernel
  cases built : buildConfig ⟨"/", "/"⟩ bridgedSettings with
  | error error =>
      rw [built] at evaluated
      cases evaluated
  | ok config =>
      rw [built] at evaluated
      simp only [Except.toOption, Option.any_some, Bool.and_eq_true, Bool.not_eq_true', beq_iff_eq,
        Option.isNone_iff_eq_none] at evaluated
      obtain ⟨⟨⟨⟨⟨⟨⟨bridged, unshared⟩, unattached⟩, live⟩, setting⟩, named⟩, headers⟩, answer⟩ :=
        evaluated
      obtain ⟨after, ran⟩ : ∃ after,
          (freshRun {} config shapeDecls).runOn emptyWorld = (.ok none, after) :=
        ⟨_, Prod.ext (eq_ok_none_of_any answer) rfl⟩
      obtain ⟨folder, name, events, setting', named', journal, created, read, -⟩ :=
        @bridging_header_imports_headers _ {} rfl config bridged unshared unattached live shapeDecls
          emptyWorld after emptyWorld_linkFree emptyWorld_hasCwd ran
      cases setting.symm.trans setting'
      cases named.symm.trans named'
      rw [headers] at created read
      have located : Path.join ["/objc", "Shapes" ++ ".h"] = "/objc/Shapes.h" := by decide +kernel
      have joined : ["Pixel.h", "Color.h"].map (fun header => Path.join ["/objc", header]) =
          ["/objc/Pixel.h", "/objc/Color.h"] := by decide +kernel
      rw [located] at read
      rw [joined] at created
      have journal : after.journal = events := journal
      rw [← journal] at created
      exact ⟨config, after, rfl, bridged, unshared, unattached, live, emptyWorld_linkFree,
        emptyWorld_hasCwd, ran, created, read⟩

end BridgeCode
