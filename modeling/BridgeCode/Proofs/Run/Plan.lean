import BridgeCode.Proofs.Emit.Calls
import BridgeCode.Run

/-!
The plan of a run with the bundled generators.

What such a run does is fixed before it starts: which slots it enters, which folders and files it
asks the emitter for and where it stops. `plan` lists these steps, and `runSlots_bundled` says that
the run is the plan, step by step. Whether the run is a dry one has no part in the plan.
-/

namespace BridgeCode

/-- A step of a run. -/
inductive Step where
  | enter (slot : Slot)
  | announce (slot : Slot)
  | call (request : Call)
  | stop (error : GenerateError)

namespace Step

/-- Takes a step. -/
def perform (emitter : Emitter) : Step → Emission Unit
  | .enter slot => .note (.entered slot)
  | .announce slot => .say (·.debug ("Generating " ++ slot.label ++ "...") none)
  | .call request => request.perform emitter
  | .stop error => .failWith error

/-- Takes steps until one fails. -/
def performAll (emitter : Emitter) (steps : List Step) : Emission Unit :=
  steps.forM (perform emitter)

@[simp]
theorem performAll_nil (emitter : Emitter) : performAll emitter [] = pure () := rfl

theorem performAll_cons (emitter : Emitter) (step : Step) (steps : List Step) :
    performAll emitter (step :: steps) =
      step.perform emitter >>= fun _ => performAll emitter steps :=
  rfl

@[simp]
theorem performAll_singleton (emitter : Emitter) (step : Step) :
    performAll emitter [step] = step.perform emitter := by
  rw [performAll_cons, performAll_nil]
  exact bind_pure _

theorem performAll_stop (emitter : Emitter) (error : GenerateError) :
    performAll emitter [.stop error] = .failWith error :=
  performAll_singleton emitter (.stop error)

theorem performAll_append (emitter : Emitter) (front back : List Step) :
    performAll emitter (front ++ back) =
      performAll emitter front >>= fun _ => performAll emitter back := by
  induction front with
  | nil => exact (pure_bind _ _).symm
  | cons step front ih => rw [List.cons_append, performAll_cons, performAll_cons, ih, bind_assoc]

theorem performAll_flatMap {α : Type} (emitter : Emitter) (items : List α)
    (steps : α → List Step) :
    performAll emitter (items.flatMap steps) =
      items.forM fun item => performAll emitter (steps item) := by
  induction items with
  | nil => rfl
  | cons item items ih =>
      rw [List.flatMap_cons, performAll_append, ih]
      rfl

/-- Folders are created one after the other. -/
theorem performAll_folders (emitter : Emitter) (folders : List OutputFolder) :
    performAll emitter (folders.map fun folder => .call (.createFolder folder.name folder.path)) =
      folders.forM fun folder => emitter.createFolder folder.name folder.path := by
  rw [List.map_eq_flatMap, performAll_flatMap]
  exact congrArg folders.forM (funext fun folder => performAll_singleton emitter _)

theorem perform_extends (emitter : Emitter) (step : Step) {world : World} (ready : world.Ready) :
    world.Extends ((step.perform emitter).runOn world).2 := by
  cases step with
  | enter slot =>
      exact ⟨List.prefix_refl _, List.prefix_refl _, rfl, rfl, List.prefix_append _ _, .refl _⟩
  | announce slot =>
      exact ⟨List.prefix_refl _, List.prefix_refl _, rfl, rfl, List.prefix_refl _, .refl _⟩
  | call request => exact request.perform_extends emitter ready
  | stop error => exact .refl world

theorem performAll_extends (emitter : Emitter) (steps : List Step) {world : World}
    (ready : world.Ready) : world.Extends ((performAll emitter steps).runOn world).2 := by
  induction steps generalizing world with
  | nil => exact .refl world
  | cons step steps ih =>
      have first := step.perform_extends emitter ready
      rw [performAll_cons, Emission.runOn_bind]
      rcases ran : (step.perform emitter).runOn world with ⟨fault | _, after⟩
      · rw [ran] at first
        exact first
      · rw [ran] at first
        exact .trans _ _ _ first (ih (first.ready ready))

end Step

/-! ## What generators ask for -/

/-- The steps that a generator takes for each kind of declaration. -/
structure Script where
  enum : String → String → Doc → EnumBody → List Step
  record : String → String → Doc → List String → List Field → List Step
  interface : String → String → Doc → List String → List Method → List Step

namespace Script

/-- The steps for a declaration. -/
def decl (script : Script) (decl : TypeDecl) : List Step :=
  if decl.isLocal then
    match decl.body with
    | .enum body =>
      if decl.params.isEmpty then script.enum decl.origin decl.name decl.doc body
      else [.stop (.enumWithParams decl.name decl.origin)]
    | .record fields => script.record decl.origin decl.name decl.doc decl.params fields
    | .interface methods => script.interface decl.origin decl.name decl.doc decl.params methods
    | .unsupported _ raw => [.stop (.unsupportedKind decl.origin raw)]
  else []

/-- A declaration is passed over, or stops the run, or is taken as its kind asks. -/
theorem decl_cases {script : Script} {P : List Step → Prop} (pass : P [])
    (stop : ∀ error, P [.stop error])
    (enum : ∀ origin name doc body, P (script.enum origin name doc body))
    (record : ∀ origin name doc params fields, P (script.record origin name doc params fields))
    (interface : ∀ origin name doc params methods,
      P (script.interface origin name doc params methods)) (decl : TypeDecl) :
    P (script.decl decl) := by
  unfold Script.decl
  split
  · split
    · split
      · exact enum _ _ _ _
      · exact stop _
    · exact record _ _ _ _ _
    · exact interface _ _ _ _ _
    · exact stop _
  · exact pass

/-- What holds of all steps that a script asks for holds of the steps for declarations. -/
theorem forall_decl {script : Script} {P : Step → Prop} (stop : ∀ error, P (.stop error))
    (enum : ∀ origin name doc body, ∀ step ∈ script.enum origin name doc body, P step)
    (record : ∀ origin name doc params fields,
      ∀ step ∈ script.record origin name doc params fields, P step)
    (interface : ∀ origin name doc params methods,
      ∀ step ∈ script.interface origin name doc params methods, P step) (decls : List TypeDecl) :
    ∀ step ∈ decls.flatMap script.decl, P step := by
  intro step member
  obtain ⟨decl, -, member⟩ := List.mem_flatMap.1 member
  have each : ∀ step ∈ script.decl decl, P step :=
    @decl_cases script (fun steps => ∀ step ∈ steps, P step) nofun
      (fun error step single => List.mem_singleton.1 single ▸ stop error) enum record interface decl
  exact each step member

/-- A generator keeps to a script. -/
structure Governs (script : Script) (emitter : Emitter) (backend : Backend) : Prop where
  enum : ∀ origin name doc body,
    backend.enum origin name doc body = Step.performAll emitter (script.enum origin name doc body)
  record : ∀ origin name doc params fields,
    backend.record origin name doc params fields =
      Step.performAll emitter (script.record origin name doc params fields)
  interface : ∀ origin name doc params methods,
    backend.interface origin name doc params methods =
      Step.performAll emitter (script.interface origin name doc params methods)

theorem Governs.generateOne {script : Script} {emitter : Emitter} {backend : Backend}
    (governs : script.Governs emitter backend) (decl : TypeDecl) :
    backend.generateOne decl = Step.performAll emitter (script.decl decl) := by
  unfold Backend.generateOne Script.decl
  cases decl.isLocal with
  | false => rfl
  | true =>
      rw [if_pos rfl, if_pos rfl]
      cases decl.body with
      | enum body =>
          dsimp only
          split
          · exact governs.enum _ _ _ _
          · exact (Step.performAll_stop _ _).symm
      | record fields => exact governs.record _ _ _ _ _
      | interface methods => exact governs.interface _ _ _ _ _
      | unsupported kind raw => exact (Step.performAll_stop _ _).symm

theorem Governs.generateAll {script : Script} {emitter : Emitter} {backend : Backend}
    (governs : script.Governs emitter backend) (decls : List TypeDecl) :
    backend.generateAll decls = Step.performAll emitter (decls.flatMap script.decl) := by
  rw [Step.performAll_flatMap, Backend.generateAll]
  exact congrArg decls.forM (funext governs.generateOne)

end Script

/-- A file of its own. -/
def Step.create (folder fileName : String) (body : Writing Unit) : List Step :=
  [.call (.createFile folder fileName body)]

/-- An addition to a file. -/
def Step.extend (folder fileName : String) (body : Writing Unit) : List Step :=
  [.call (.appendToFile folder fileName body)]

theorem Step.performAll_create (emitter : Emitter) (folder fileName : String)
    (body : Writing Unit) :
    performAll emitter (create folder fileName body) =
      discard (emitter.createFile folder fileName body) :=
  performAll_singleton emitter _

theorem Step.performAll_extend (emitter : Emitter) (folder fileName : String)
    (body : Writing Unit) :
    performAll emitter (extend folder fileName body) =
      discard (emitter.appendToFile folder fileName body) :=
  performAll_singleton emitter _

/-- The headers of the C++ target. -/
def CppTarget.script (target : CppTarget) (folder : String) : Script where
  enum origin name doc body :=
    Step.create folder (headerName target.config name)
      (target.enumHeader folder origin name doc body).text
  record origin name doc params fields :=
    Step.create folder (headerName target.config name)
      (target.recordHeader folder origin name doc params fields).text
  interface origin name doc params methods :=
    Step.create folder (headerName target.config name)
      (target.interfaceHeader folder origin name doc params methods).text

/-- The headers of the Objective-C target. -/
def ObjcTarget.script (target : ObjcTarget) (folder : String) : Script where
  enum origin name doc body :=
    Step.create folder (headerName target.config name)
      (target.headerText origin name [] (target.enumBody name doc body))
  record origin name doc _ fields :=
    Step.create folder (headerName target.config name)
      (target.headerText origin name (fields.map (·.type)) (target.recordBody name doc fields))
  interface origin name doc _ methods :=
    Step.create folder (headerName target.config name)
      (target.headerText origin name (methods.flatMap (·.types))
        (target.interfaceBody name doc methods))

/-- The imports of the bridging header. -/
def SwiftBridging.script (config : ObjcConfig) (folder fileName : String) : Script :=
  let add (name : String) : List Step :=
    Step.extend folder fileName (.line (importLine config name))
  { enum := fun _ name _ _ => add name
    record := fun _ name _ _ _ => add name
    interface := fun _ name _ _ _ => add name }

theorem Slot.mem_all (slot : Slot) : slot ∈ Slot.all := by
  cases slot <;> decide

theorem requireSetting_ok {description value : String} {setting : Option String}
    (found : requireSetting description setting = .ok value) : setting = some value := by
  cases setting with
  | none => cases found
  | some other =>
      cases found
      rfl

/-- Steps that wait for a setting are a stop, or those that the setting leads to. -/
theorem Step.mem_required {required : Except GenerateError String} {steps : String → List Step}
    {step : Step}
    (member : step ∈ match required with
      | .error error => [Step.stop error]
      | .ok value => steps value) :
    (∃ error, step = .stop error) ∨ ∃ value, required = .ok value ∧ step ∈ steps value := by
  cases required with
  | error error => exact .inl ⟨error, List.mem_singleton.1 member⟩
  | ok value => exact .inr ⟨value, rfl, member⟩

section

variable [YamlPackage]

/-- The document of a declaration, in a file of its own or in the shared one. -/
def Descriptor.steps (config : Config) (folder origin name : String) (params : List String)
    (body : DeclBody) : List Step :=
  let document := (describe config name params body).document
  let top := Render.banner origin "#"
  match config.yaml.outFile with
  | none => Step.create folder (config.yaml.namePrefix ++ name ++ ".yaml") (do top; document)
  | some outFile =>
    .call (.createFileOnce folder outFile top) :: Step.extend folder outFile document

/-- The documents of the YAML target. -/
def Descriptor.script (config : Config) (folder : String) : Script where
  enum origin name _ body := steps config folder origin name [] (.enum body)
  record origin name _ params fields := steps config folder origin name params (.record fields)
  interface origin name _ params methods :=
    steps config folder origin name params (.interface methods)

/-- The steps of a bundled generator. It stops at once if a setting is missing. -/
def Slot.backendSteps (config : Config) (decls : List TypeDecl) : Slot → List Step
  | .cpp =>
    match requireSetting "C++ header folder" config.cpp.headerOutFolder with
    | .error error => [.stop error]
    | .ok folder => decls.flatMap (CppTarget.script ⟨config.cpp, .ofDecls decls⟩ folder).decl
  | .objc =>
    match requireSetting "Objective-C header folder" config.objc.headerOutFolder with
    | .error error => [.stop error]
    | .ok folder => decls.flatMap (ObjcTarget.script ⟨config.objc, .ofDecls decls⟩ folder).decl
  | .swiftBridgingHeader =>
    match requireSetting "Objective-C header folder" config.objc.headerOutFolder with
    | .error error => [.stop error]
    | .ok folder =>
      match requireSetting "Swift bridging header name" config.objc.swiftBridgingHeaderName with
      | .error error => [.stop error]
      | .ok name =>
        Step.create folder (name ++ ".h") (SwiftBridging.preamble config.idlFileName name) ++
          decls.flatMap (SwiftBridging.script config.objc folder (name ++ ".h")).decl
  | .yaml =>
    match requireSetting "YAML folder" config.yaml.outFolder with
    | .error error => [.stop error]
    | .ok folder => decls.flatMap (Descriptor.script config folder).decl
  | _ => []

/-- The steps of a slot. -/
def Slot.steps (config : Config) (decls : List TypeDecl) (slot : Slot) : List Step :=
  if slot.enabled config then
    match Registry.bundled slot with
    | none => [.stop (.missingBackend slot.key slot.label)]
    | some _ =>
      .enter slot ::
        (((slot.folders config).map fun folder => .call (.createFolder folder.name folder.path)) ++
          .announce slot :: slot.backendSteps config decls)
  else []

/-- The steps of a run. -/
def plan (config : Config) (decls : List TypeDecl) : List Step :=
  Slot.all.flatMap (Slot.steps config decls)

/-! ## What slots ask for -/

/-- The steps that the generator of a slot can take, each with the settings that it goes by. -/
inductive Slot.Asks (config : Config) : Slot → Step → Prop where
  | stop {slot : Slot} (error : GenerateError) : Asks config slot (.stop error)
  | cpp {folder : String} (setting : config.cpp.headerOutFolder = some folder) (name : String)
      (body : Writing Unit) :
      Asks config .cpp (.call (.createFile folder (CppTarget.headerName config.cpp name) body))
  | objc {folder : String} (setting : config.objc.headerOutFolder = some folder) (name : String)
      (body : Writing Unit) :
      Asks config .objc (.call (.createFile folder (ObjcTarget.headerName config.objc name) body))
  | bridge {folder name : String} (setting : config.objc.headerOutFolder = some folder)
      (named : config.objc.swiftBridgingHeaderName = some name) (body : Writing Unit) :
      Asks config .swiftBridgingHeader (.call (.createFile folder (name ++ ".h") body))
  | bridgeImport {folder name : String} (setting : config.objc.headerOutFolder = some folder)
      (named : config.objc.swiftBridgingHeaderName = some name) (body : Writing Unit) :
      Asks config .swiftBridgingHeader (.call (.appendToFile folder (name ++ ".h") body))
  | descriptor {folder : String} (setting : config.yaml.outFolder = some folder)
      (unshared : config.yaml.outFile = none) (name : String) (body : Writing Unit) :
      Asks config .yaml
        (.call (.createFile folder (config.yaml.namePrefix ++ name ++ ".yaml") body))
  | sharedTop {folder file : String} (setting : config.yaml.outFolder = some folder)
      (shared : config.yaml.outFile = some file) (body : Writing Unit) :
      Asks config .yaml (.call (.createFileOnce folder file body))
  | sharedDocument {folder file : String} (setting : config.yaml.outFolder = some folder)
      (shared : config.yaml.outFile = some file) (body : Writing Unit) :
      Asks config .yaml (.call (.appendToFile folder file body))

theorem Descriptor.asks_steps {config : Config} {folder : String}
    (setting : config.yaml.outFolder = some folder) (origin name : String) (params : List String)
    (body : DeclBody) :
    ∀ step ∈ Descriptor.steps config folder origin name params body,
      Slot.yaml.Asks config step := by
  intro step member
  unfold Descriptor.steps at member
  cases shared : config.yaml.outFile with
  | none =>
      rw [shared] at member
      cases List.mem_singleton.1 member
      exact .descriptor setting shared name _
  | some file =>
      rw [shared] at member
      rcases List.mem_cons.1 member with rfl | member
      · exact .sharedTop setting shared _
      · cases List.mem_singleton.1 member
        exact .sharedDocument setting shared _

/-- The generator of a slot takes no other steps. -/
theorem Slot.asks_of_mem {config : Config} {decls : List TypeDecl} {slot : Slot} {step : Step}
    (member : step ∈ slot.backendSteps config decls) : slot.Asks config step := by
  cases slot with
  | cpp =>
      dsimp only [backendSteps] at member
      rcases Step.mem_required member with ⟨error, rfl⟩ | ⟨folder, found, member⟩
      · exact .stop error
      have setting := requireSetting_ok found
      refine Script.forall_decl .stop ?_ ?_ ?_ decls step member
      · exact fun _ name _ _ _ single => List.mem_singleton.1 single ▸ .cpp setting name _
      · exact fun _ name _ _ _ _ single => List.mem_singleton.1 single ▸ .cpp setting name _
      · exact fun _ name _ _ _ _ single => List.mem_singleton.1 single ▸ .cpp setting name _
  | objc =>
      dsimp only [backendSteps] at member
      rcases Step.mem_required member with ⟨error, rfl⟩ | ⟨folder, found, member⟩
      · exact .stop error
      have setting := requireSetting_ok found
      refine Script.forall_decl .stop ?_ ?_ ?_ decls step member
      · exact fun _ name _ _ _ single => List.mem_singleton.1 single ▸ .objc setting name _
      · exact fun _ name _ _ _ _ single => List.mem_singleton.1 single ▸ .objc setting name _
      · exact fun _ name _ _ _ _ single => List.mem_singleton.1 single ▸ .objc setting name _
  | swiftBridgingHeader =>
      dsimp only [backendSteps] at member
      rcases Step.mem_required member with ⟨error, rfl⟩ | ⟨folder, found, member⟩
      · exact .stop error
      rcases Step.mem_required member with ⟨error, rfl⟩ | ⟨name, foundName, member⟩
      · exact .stop error
      have setting := requireSetting_ok found
      have named := requireSetting_ok foundName
      rcases List.mem_append.1 member with member | member
      · exact List.mem_singleton.1 member ▸ .bridge setting named _
      have each : ∀ text, ∀ step ∈ Step.extend folder (name ++ ".h") text,
          Slot.swiftBridgingHeader.Asks config step :=
        fun _ _ single => List.mem_singleton.1 single ▸ .bridgeImport setting named _
      refine Script.forall_decl .stop ?_ ?_ ?_ decls step member
      · exact fun _ _ _ _ => each _
      · exact fun _ _ _ _ _ => each _
      · exact fun _ _ _ _ _ => each _
  | yaml =>
      dsimp only [backendSteps] at member
      rcases Step.mem_required member with ⟨error, rfl⟩ | ⟨folder, found, member⟩
      · exact .stop error
      have setting := requireSetting_ok found
      refine Script.forall_decl .stop ?_ ?_ ?_ decls step member
      · exact fun origin name _ _ => Descriptor.asks_steps setting origin name _ _
      · exact fun origin name _ _ _ => Descriptor.asks_steps setting origin name _ _
      · exact fun origin name _ _ _ => Descriptor.asks_steps setting origin name _ _
  | _ => cases member

/-- Around the steps of its generator a slot has steps of four kinds. -/
theorem Slot.forall_steps {config : Config} {decls : List TypeDecl} {slot : Slot}
    {P : Step → Prop} (enter : P (.enter slot)) (announce : P (.announce slot))
    (folder : ∀ label path, P (.call (.createFolder label path)))
    (stop : ∀ error, P (.stop error))
    (backend : ∀ step ∈ slot.backendSteps config decls, P step) :
    ∀ step ∈ slot.steps config decls, P step := by
  intro step member
  unfold Slot.steps at member
  split at member
  · split at member
    · cases List.mem_singleton.1 member
      exact stop _
    · rcases List.mem_cons.1 member with rfl | member
      · exact enter
      rcases List.mem_append.1 member with member | member
      · obtain ⟨_, -, rfl⟩ := List.mem_map.1 member
        exact folder _ _
      rcases List.mem_cons.1 member with rfl | member
      · exact announce
      · exact backend step member
  · cases member

/-- Whether a run is a dry one has no part in its plan. -/
theorem plan_skipGeneration (config : Config) (skip : Bool) (decls : List TypeDecl) :
    plan { config with skipGeneration := skip } decls = plan config decls := rfl

end

/-! ## The run is the plan -/

/-- Making a generator and handing it all declarations. -/
def BackendFactory.generate (factory : BackendFactory) (context : Context)
    (decls : List TypeDecl) : Emission Unit := do
  let backend ← factory context decls
  backend.generateAll decls

theorem CppTarget.governed {config : Config} {folder : String}
    (setting : config.cpp.headerOutFolder = some folder) (emitter : Emitter)
    (decls : List TypeDecl) :
    ∃ backend, CppTarget.backend ⟨config, emitter⟩ decls = pure backend ∧
      (CppTarget.script ⟨config.cpp, .ofDecls decls⟩ folder).Governs emitter backend := by
  unfold CppTarget.backend
  dsimp only
  rw [setting]
  refine ⟨_, rfl, ?_, ?_, ?_⟩
  · exact fun _ _ _ _ => (Step.performAll_create ..).symm
  · exact fun _ _ _ _ _ => (Step.performAll_create ..).symm
  · exact fun _ _ _ _ _ => (Step.performAll_create ..).symm

theorem ObjcTarget.governed {config : Config} {folder : String}
    (setting : config.objc.headerOutFolder = some folder) (emitter : Emitter)
    (decls : List TypeDecl) :
    ∃ backend, ObjcTarget.backend ⟨config, emitter⟩ decls = pure backend ∧
      (ObjcTarget.script ⟨config.objc, .ofDecls decls⟩ folder).Governs emitter backend := by
  unfold ObjcTarget.backend
  dsimp only
  rw [setting]
  refine ⟨_, rfl, ?_, ?_, ?_⟩
  · exact fun _ _ _ _ => (Step.performAll_create ..).symm
  · exact fun _ _ _ _ _ => (Step.performAll_create ..).symm
  · exact fun _ _ _ _ _ => (Step.performAll_create ..).symm

section

variable [YamlPackage] (config : Config) (emitter : Emitter) (decls : List TypeDecl)

theorem CppTarget.generate_eq :
    CppTarget.backend.generate ⟨config, emitter⟩ decls =
      Step.performAll emitter (Slot.cpp.backendSteps config decls) := by
  unfold Slot.backendSteps
  cases setting : config.cpp.headerOutFolder with
  | none =>
      unfold BackendFactory.generate CppTarget.backend
      dsimp only
      rw [setting]
      exact (Step.performAll_stop emitter _).symm
  | some folder =>
      obtain ⟨backend, made, governs⟩ := CppTarget.governed setting emitter decls
      rw [BackendFactory.generate, made, pure_bind, governs.generateAll]
      rfl

theorem ObjcTarget.generate_eq :
    ObjcTarget.backend.generate ⟨config, emitter⟩ decls =
      Step.performAll emitter (Slot.objc.backendSteps config decls) := by
  unfold Slot.backendSteps
  cases setting : config.objc.headerOutFolder with
  | none =>
      unfold BackendFactory.generate ObjcTarget.backend
      dsimp only
      rw [setting]
      exact (Step.performAll_stop emitter _).symm
  | some folder =>
      obtain ⟨backend, made, governs⟩ := ObjcTarget.governed setting emitter decls
      rw [BackendFactory.generate, made, pure_bind, governs.generateAll]
      rfl

theorem SwiftBridging.generate_eq :
    SwiftBridging.backend.generate ⟨config, emitter⟩ decls =
      Step.performAll emitter (Slot.swiftBridgingHeader.backendSteps config decls) := by
  unfold BackendFactory.generate SwiftBridging.backend Slot.backendSteps
  dsimp only
  cases requireSetting "Objective-C header folder" config.objc.headerOutFolder with
  | error error => exact (Step.performAll_stop emitter error).symm
  | ok folder =>
      cases requireSetting "Swift bridging header name" config.objc.swiftBridgingHeaderName with
      | error error => exact (Step.performAll_stop emitter error).symm
      | ok name =>
          dsimp only
          rw [Step.performAll_append, Step.performAll_create]
          simp only [Emission.ofExcept, pure_bind, bind_assoc]
          refine congrArg _ (funext fun _ => ?_)
          refine Script.Governs.generateAll ⟨?_, ?_, ?_⟩ decls
          · exact fun _ _ _ _ => (Step.performAll_extend ..).symm
          · exact fun _ _ _ _ _ => (Step.performAll_extend ..).symm
          · exact fun _ _ _ _ _ => (Step.performAll_extend ..).symm

theorem Descriptor.create_eq (folder origin name : String) (params : List String)
    (body : DeclBody) :
    Descriptor.create ⟨config, emitter⟩ folder origin name params body =
      Step.performAll emitter (Descriptor.steps config folder origin name params body) := by
  unfold Descriptor.create Descriptor.steps
  dsimp only
  cases config.yaml.outFile with
  | none => exact (Step.performAll_create ..).symm
  | some outFile =>
      dsimp only
      rw [Step.performAll_cons, Step.performAll_extend]
      rfl

theorem Descriptor.generate_eq :
    Descriptor.backend.generate ⟨config, emitter⟩ decls =
      Step.performAll emitter (Slot.yaml.backendSteps config decls) := by
  unfold BackendFactory.generate Descriptor.backend Slot.backendSteps
  dsimp only
  cases requireSetting "YAML folder" config.yaml.outFolder with
  | error error => exact (Step.performAll_stop emitter error).symm
  | ok folder =>
      refine Script.Governs.generateAll ⟨?_, ?_, ?_⟩ decls
      · exact fun _ _ _ _ => create_eq ..
      · exact fun _ _ _ _ _ => create_eq ..
      · exact fun _ _ _ _ _ => create_eq ..

theorem Registry.bundled_generate {slot : Slot} {factory : BackendFactory}
    (found : Registry.bundled slot = some factory) :
    factory.generate ⟨config, emitter⟩ decls =
      Step.performAll emitter (slot.backendSteps config decls) := by
  cases slot with
  | cpp =>
      cases found
      exact CppTarget.generate_eq config emitter decls
  | objc =>
      cases found
      exact ObjcTarget.generate_eq config emitter decls
  | swiftBridgingHeader =>
      cases found
      exact SwiftBridging.generate_eq config emitter decls
  | yaml =>
      cases found
      exact Descriptor.generate_eq config emitter decls
  | _ => cases found

/-- A slot is run as its steps say. -/
theorem runSlot_bundled (slot : Slot) :
    runSlot .bundled ⟨config, emitter⟩ decls slot =
      Step.performAll emitter (slot.steps config decls) := by
  unfold runSlot Slot.steps
  cases slot.enabled config with
  | false => rfl
  | true =>
      rw [if_pos rfl, if_pos rfl]
      cases found : Registry.bundled slot with
      | none => exact (Step.performAll_stop emitter _).symm
      | some factory =>
          dsimp only
          have generated := Registry.bundled_generate config emitter decls found
          rw [Step.performAll_cons, Step.performAll_append, Step.performAll_cons,
            Step.performAll_folders, ← generated]
          rfl

/-- A run is its plan, once the list of output files is attached. -/
theorem runSlots_bundled :
    runSlots .bundled config decls =
      attachOutFileList config >>= fun _ =>
        Step.performAll { skip := config.skipGeneration } (plan config decls) := by
  rw [plan, Step.performAll_flatMap]
  refine congrArg _ (funext fun _ => ?_)
  exact congrArg Slot.all.forM (funext fun slot => runSlot_bundled config _ decls slot)

end

/-! ## Runs in a session of their own -/

/-- A run with the bundled generators in a session of its own. -/
def freshRun [YamlPackage] (options : Emission.SessionOptions) (config : Config)
    (decls : List TypeDecl) : Emission (Option String) := do
  Emission.startSession options
  generate .bundled config decls

/-- The answer of a run: an error of generation is an answer, any other fault is none. -/
def answered : Except Fault Unit × World → Except Fault (Option String) × World
  | (.ok _, after) => (.ok none, after)
  | (.error (.generate error), after) => (.ok (some error.message), after)
  | (.error fault, after) => (.error fault, after)

@[simp]
theorem answered_world (run : Except Fault Unit × World) : (answered run).2 = run.2 := by
  unfold answered
  split <;> rfl

@[simp]
theorem answered_eq_none_iff (run : Except Fault Unit × World) :
    (answered run).1 = .ok none ↔ run.1 = .ok () := by
  unfold answered
  split <;> simp

theorem answered_eq_iff {run : Except Fault Unit × World} {after : World} :
    answered run = (.ok none, after) ↔ run = (.ok (), after) := by
  refine ⟨fun ended => Prod.ext ?_ ?_, fun ran => by rw [ran]; rfl⟩
  · exact (answered_eq_none_iff run).1 (congrArg Prod.fst ended)
  · exact (answered_world run).symm.trans (congrArg Prod.snd ended)

theorem eq_ok_none_of_any {answer : Except Fault (Option String)}
    (quiet : answer.toOption.any (·.isNone) = true) : answer = .ok none := by
  rcases answer with fault | _ | message
  · cases quiet
  · rfl
  · cases quiet

theorem runOn_generate (registry : Registry) (config : Config) (decls : List TypeDecl)
    (world : World) :
    (generate registry config decls).runOn world =
      answered ((runSlots registry config decls).runOn world) := rfl

/-- The list of output files is attached, unless there is none or the session has it. -/
theorem runOn_attachOutFileList (config : Config) (world : World) :
    (attachOutFileList config).runOn world =
      match config.outFileList with
      | none => (.ok (), world)
      | some path =>
        if world.session.writesManifestTo path then (.ok (), world)
        else (Emission.attachList path).runOn world := by
  unfold attachOutFileList
  cases config.outFileList with
  | none => rfl
  | some path =>
      dsimp only
      rw [Emission.runOn_bind_ok (Emission.runOn_get world)]
      split <;> rfl

/-- Attaching the list of output files changes nothing, or attaches a list. -/
theorem attachOutFileList_cases {config : Config} {world after : World}
    (attached : (attachOutFileList config).runOn world = (.ok (), after)) :
    after = world ∨ ∃ path, (Emission.attachList path).runOn world = (.ok (), after) := by
  rw [runOn_attachOutFileList] at attached
  split at attached
  · cases attached
    exact .inl rfl
  · next path _ =>
      split at attached
      · cases attached
        exact .inl rfl
      · exact .inr ⟨path, attached⟩

theorem Emission.Starts.attach {config : Config} {world start after : World}
    (starts : Emission.Starts world start)
    (attached : (attachOutFileList config).runOn start = (.ok (), after)) :
    Emission.Starts world after := by
  rcases attachOutFileList_cases attached with rfl | ⟨path, attached⟩
  · exact starts
  · obtain ⟨same, grows, -⟩ := Emission.attachList_ok attached
    refine ⟨Emission.attachList_ready starts.ready attached, starts.grows.trans grows,
      ?_, ?_, ?_⟩
    · rw [same]
      exact starts.written
    · rw [same]
      exact starts.claimed
    · rw [same]
      exact starts.journal

section

variable [YamlPackage]

/-- A run in a session of its own comes to nothing where the session or its list cannot be opened,
or else follows its plan; up to there, a dry run is no different. -/
theorem freshRun_cases (options : Emission.SessionOptions) (config : Config)
    (decls : List TypeDecl) (world : World) :
    (∃ result after, result ≠ .ok none ∧
      ∀ skip, (freshRun options { config with skipGeneration := skip } decls).runOn world =
        (result, after)) ∨
    ∃ begun, Emission.Starts world begun ∧
      ∀ skip, (freshRun options { config with skipGeneration := skip } decls).runOn world =
        answered ((Step.performAll { skip } (plan config decls)).runOn begun) := by
  unfold freshRun
  rcases started : (Emission.startSession options).runOn world with ⟨fault | _, start⟩
  · exact .inl ⟨.error fault, start, nofun, fun _ => Emission.runOn_bind_error started _⟩
  have starts := Emission.startSession_ok started
  have generates : ∀ skip, (Emission.startSession options >>= fun _ =>
      generate .bundled { config with skipGeneration := skip } decls).runOn world =
        answered ((attachOutFileList config >>= fun _ =>
          Step.performAll { skip } (plan config decls)).runOn start) := by
    intro skip
    rw [Emission.runOn_bind_ok started, runOn_generate, runSlots_bundled, plan_skipGeneration]
    rfl
  rcases attached : (attachOutFileList config).runOn start with ⟨fault | _, begun⟩
  · refine .inl ⟨(answered (.error fault, begun)).1, begun, ?_, fun skip => ?_⟩
    · simp
    · rw [generates, Emission.runOn_bind_error attached]
      exact Prod.ext rfl (answered_world _)
  · refine .inr ⟨begun, starts.attach attached, fun skip => ?_⟩
    rw [generates, Emission.runOn_bind_ok attached]

/-- A run in a session of its own answers no error exactly if the session starts, its list is
attached, and every step of the plan succeeds. -/
theorem freshRun_ok_iff {options : Emission.SessionOptions} {config : Config}
    {decls : List TypeDecl} {world after : World} :
    (freshRun options config decls).runOn world = (.ok none, after) ↔
      ∃ start begun, (Emission.startSession options).runOn world = (.ok (), start) ∧
        (attachOutFileList config).runOn start = (.ok (), begun) ∧
        (Step.performAll { skip := config.skipGeneration } (plan config decls)).runOn begun =
          (.ok (), after) := by
  unfold freshRun
  rw [Emission.runOn_bind]
  rcases started : (Emission.startSession options).runOn world with ⟨fault | _, start⟩
  · simp
  dsimp only
  rw [runOn_generate, runSlots_bundled, Emission.runOn_bind]
  rcases attached : (attachOutFileList config).runOn start with ⟨fault | _, begun⟩
  · refine ⟨fun ended => ?_, ?_⟩
    · have answer := congrArg Prod.fst ended
      simp at answer
    · rintro ⟨_, _, same, other, -⟩
      cases same
      rw [attached] at other
      cases other
  · refine ⟨fun ended => ⟨start, begun, rfl, attached, answered_eq_iff.1 ended⟩, ?_⟩
    rintro ⟨_, _, same, other, performed⟩
    cases same
    rw [attached] at other
    cases other
    exact answered_eq_iff.2 performed

end

/-! ## A small run -/

/-- An enum with one option. -/
def colorDecl : TypeDecl where
  name := "color"
  params := []
  doc := []
  origin := "color.yaml"
  scope := .defined
  body := .enum ⟨[⟨"red", [], none⟩], false⟩

/-- A disk with nothing on it. -/
def emptyWorld : World where
  files := { cwd := [], entries := [] }

theorem emptyWorld_linkFree : emptyWorld.files.LinkFree := by
  intro place target entry
  cases place <;> cases entry

end BridgeCode
