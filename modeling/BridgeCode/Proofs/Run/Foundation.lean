import BridgeCode.Proofs.Run.Ownership

/-!
Additions go to files that were asked for before.

Adding to a file looks neither at the registry nor at the manifest, so nothing but the order of the
steps makes sure that there is a file of this run to add to. `Step.AllFounded` says so of a list of
steps: each addition is to a file that an earlier step asked for, and a file is shared only if no
file before it differs from it in case alone (else the request would be taken for one of that file).

* `plan_founded`: a plan is founded if the file that descriptors share has no case variant among the
  files of other slots (`NoCaseVariant`).
* `proper_of_run`: on a disk without links, every file of a run that succeeds is its own canonical
  path (`Step.Proper`).
-/

namespace BridgeCode

/-- After the files `made` were asked for, a call adds only to one of them and shares no file that
differs from one of them in case alone. -/
def Call.Founded (made : List String) : Call → Prop
  | .createFile .. => True
  | .createFileOnce folder fileName _ =>
    ∀ other ∈ made, caseFold other = caseFold (Path.join [folder, fileName]) →
      other = Path.join [folder, fileName]
  | .appendToFile folder fileName _ => Path.join [folder, fileName] ∈ made
  | .createFolder .. => True

namespace Step

/-- The files that steps ask for. -/
def files (steps : List Step) : List String := steps.filterMap (pick? Call.file?)

theorem files_append (front back : List Step) : files (front ++ back) = files front ++ files back :=
  List.filterMap_append

theorem files_cons (step : Step) (steps : List Step) :
    files (step :: steps) = files [step] ++ files steps :=
  files_append [step] steps

theorem mem_files_iff {steps : List Step} {file : String} :
    file ∈ files steps ↔ ∃ step ∈ steps, file ∈ files [step] := by
  simp [files, List.mem_filterMap]

/-- A step is founded if it makes no call, or one that is. -/
def Founded (made : List String) : Step → Prop
  | .call request => request.Founded made
  | _ => True

/-- Each step is founded on the files asked for before it. -/
def AllFounded : List String → List Step → Prop
  | _, [] => True
  | made, step :: steps => step.Founded made ∧ AllFounded (made ++ files [step]) steps

theorem allFounded_append {made : List String} {front back : List Step} :
    AllFounded made (front ++ back) ↔
      AllFounded made front ∧ AllFounded (made ++ files front) back := by
  induction front generalizing made with
  | nil => simp [AllFounded, files]
  | cons step front ih =>
      rw [List.cons_append, AllFounded, AllFounded, ih, files_cons step front, List.append_assoc,
        and_assoc]

/-- Steps that stay founded as more files are asked for. -/
theorem allFounded_of_forall {made : List String} {steps : List Step}
    (each : ∀ step ∈ steps, ∀ more, step.Founded (made ++ more)) : AllFounded made steps := by
  induction steps generalizing made with
  | nil => trivial
  | cons step steps ih =>
      refine ⟨?_, ih fun other member more => ?_⟩
      · have here := each step List.mem_cons_self []
        rwa [List.append_nil] at here
      · rw [List.append_assoc]
        exact each other (List.mem_cons_of_mem _ member) _

/-- A step that asks for no file is founded. -/
theorem founded_of_fileless {step : Step} (fileless : step.pick? Call.file? = none)
    (made : List String) : step.Founded made := by
  cases step with
  | call request =>
      cases request with
      | createFile folder fileName body => trivial
      | createFileOnce folder fileName body => cases fileless
      | appendToFile folder fileName body => cases fileless
      | createFolder label folder => trivial
  | _ => trivial

/-- Steps that ask for no file make no difference to those behind them. -/
theorem allFounded_fileless_append {made : List String} {front back : List Step}
    (fileless : ∀ step ∈ front, step.pick? Call.file? = none) :
    AllFounded made (front ++ back) ↔ AllFounded made back := by
  have empty : files front = [] := List.filterMap_eq_nil_iff.2 fileless
  have founded : AllFounded made front :=
    allFounded_of_forall fun step member more => founded_of_fileless (fileless step member) _
  rw [allFounded_append, empty, List.append_nil]
  exact and_iff_right founded

/-- Steps for one item after the other, where each item keeps what the next ones rely on. -/
theorem allFounded_flatMap {α : Type} (kept : List String → Prop) {items : List α}
    {steps : α → List Step}
    (each : ∀ item ∈ items, ∀ made, kept made →
      AllFounded made (steps item) ∧ kept (made ++ files (steps item)))
    {made : List String} (start : kept made) : AllFounded made (items.flatMap steps) := by
  induction items generalizing made with
  | nil => trivial
  | cons item items ih =>
      obtain ⟨founded, next⟩ := each item List.mem_cons_self made start
      rw [List.flatMap_cons, allFounded_append]
      exact ⟨founded, ih (fun other member => each other (List.mem_cons_of_mem _ member)) next⟩

end Step

/-! ## Plans -/

/-- The file that descriptors share, if they share one, does not differ in case alone from a file of
another slot. -/
def NoCaseVariant [YamlPackage] (config : Config) (decls : List TypeDecl) : Prop :=
  ∀ folder name, config.yaml.outFolder = some folder → config.yaml.outFile = some name →
    Path.join [folder, name] ∈ Slot.yaml.outputs config decls →
    ∀ slot : Slot, slot ≠ .yaml → ∀ file ∈ slot.outputs config decls,
      caseFold file = caseFold (Path.join [folder, name]) → file = Path.join [folder, name]

/-- The files `made` differ from the file `shared` in more than case, or are that file. -/
def ApartFrom (shared : String) (made : List String) : Prop :=
  ∀ other ∈ made, caseFold other = caseFold shared → other = shared

theorem ApartFrom.append {shared : String} {made more : List String} (apart : ApartFrom shared made)
    (same : ∀ other ∈ more, other = shared) : ApartFrom shared (made ++ more) := by
  intro other member fold
  rcases List.mem_append.1 member with old | new
  · exact apart other old fold
  · exact same other new

section

variable [YamlPackage]

/-- The documents that go to a shared file. -/
theorem Descriptor.steps_founded {config : Config} {folder outFile : String}
    (shared : config.yaml.outFile = some outFile) (origin name : String) (params : List String)
    (body : DeclBody) {made : List String} (apart : ApartFrom (Path.join [folder, outFile]) made) :
    Step.AllFounded made (Descriptor.steps config folder origin name params body) ∧
      ApartFrom (Path.join [folder, outFile])
        (made ++ Step.files (Descriptor.steps config folder origin name params body)) := by
  unfold Descriptor.steps
  rw [shared]
  refine ⟨⟨apart, ?_, trivial⟩, apart.append ?_⟩
  · exact List.mem_append_right _ List.mem_cons_self
  · intro other member
    rcases List.mem_cons.1 member with rfl | member
    · rfl
    · exact List.mem_singleton.1 member

namespace Slot

variable {config : Config} {decls : List TypeDecl} {slot : Slot} {made : List String}

/-- A slot that creates its files and adds to none is founded. -/
theorem backendSteps_founded_of_creates
    (creates : ∀ step ∈ slot.backendSteps config decls, ∀ made, step.Founded made) :
    Step.AllFounded made (slot.backendSteps config decls) :=
  Step.allFounded_of_forall fun step member more => creates step member (made ++ more)

/-- The bridging header is created before imports are added to it. -/
theorem bridge_founded :
    Step.AllFounded made (Slot.swiftBridgingHeader.backendSteps config decls) := by
  unfold backendSteps
  cases requireSetting "Objective-C header folder" config.objc.headerOutFolder with
  | error error => exact ⟨trivial, trivial⟩
  | ok folder =>
      cases requireSetting "Swift bridging header name" config.objc.swiftBridgingHeaderName with
      | error error => exact ⟨trivial, trivial⟩
      | ok name =>
          dsimp only
          rw [Step.allFounded_append]
          refine ⟨⟨trivial, trivial⟩, Step.allFounded_of_forall ?_⟩
          have there : ∀ more, Path.join [folder, name ++ ".h"] ∈
              (made ++ Step.files (Step.create folder (name ++ ".h")
                (SwiftBridging.preamble config.idlFileName name))) ++ more := by
            intro more
            refine List.mem_append_left _ (List.mem_append_right _ ?_)
            exact List.mem_cons_self
          refine Script.forall_decl (fun _ _ => trivial) ?_ ?_ ?_ decls
          · intro _ _ _ _ step single more
            obtain rfl := List.mem_singleton.1 single
            exact there more
          · intro _ _ _ _ _ step single more
            obtain rfl := List.mem_singleton.1 single
            exact there more
          · intro _ _ _ _ _ step single more
            obtain rfl := List.mem_singleton.1 single
            exact there more

/-- Descriptors that share a file are founded where no case variant of it was asked for. -/
theorem shared_founded {outFile : String} (shared : config.yaml.outFile = some outFile)
    (apart : ∀ folder, config.yaml.outFolder = some folder →
      ApartFrom (Path.join [folder, outFile]) made) :
    Step.AllFounded made (Slot.yaml.backendSteps config decls) := by
  unfold backendSteps
  cases found : requireSetting "YAML folder" config.yaml.outFolder with
  | error error => exact ⟨trivial, trivial⟩
  | ok folder =>
      refine Step.allFounded_flatMap (ApartFrom (Path.join [folder, outFile])) ?_
        (apart folder (requireSetting_ok found))
      intro decl _
      refine @Script.decl_cases _ (fun steps =>
        ∀ made, ApartFrom (Path.join [folder, outFile]) made →
          Step.AllFounded made steps ∧
            ApartFrom (Path.join [folder, outFile]) (made ++ Step.files steps)) ?_ ?_ ?_ ?_ ?_ decl
      · intro made apart
        exact ⟨trivial, apart.append nofun⟩
      · intro error made apart
        exact ⟨⟨trivial, trivial⟩, apart.append nofun⟩
      · intro origin name _ body made apart
        exact Descriptor.steps_founded shared origin name _ _ apart
      · intro origin name _ params fields made apart
        exact Descriptor.steps_founded shared origin name _ _ apart
      · intro origin name _ params methods made apart
        exact Descriptor.steps_founded shared origin name _ _ apart

/-- The steps of a generator are founded, for descriptors that share a file if no case variant of it
was asked for. -/
theorem backendSteps_founded (apart : slot = .yaml → ∀ folder outFile,
      config.yaml.outFolder = some folder → config.yaml.outFile = some outFile →
        ApartFrom (Path.join [folder, outFile]) made) :
    Step.AllFounded made (slot.backendSteps config decls) := by
  cases slot with
  | swiftBridgingHeader => exact bridge_founded
  | yaml =>
      cases shared : config.yaml.outFile with
      | some outFile =>
          exact shared_founded shared fun folder setting => apart rfl folder outFile setting shared
      | none =>
          refine backendSteps_founded_of_creates fun step member made => ?_
          cases asks_of_mem member with
          | stop error => trivial
          | descriptor setting unshared name body => trivial
          | sharedTop setting given => simp [shared] at given
          | sharedDocument setting given => simp [shared] at given
  | cpp =>
      refine backendSteps_founded_of_creates fun step member made => ?_
      cases asks_of_mem member <;> trivial
  | objc =>
      refine backendSteps_founded_of_creates fun step member made => ?_
      cases asks_of_mem member <;> trivial
  | _ => trivial

/-- Around its generator a slot asks for no file. -/
theorem steps_founded (apart : slot = .yaml → ∀ folder outFile,
      config.yaml.outFolder = some folder → config.yaml.outFile = some outFile →
        ApartFrom (Path.join [folder, outFile]) made) :
    Step.AllFounded made (slot.steps config decls) := by
  unfold steps
  split
  · split
    · exact ⟨trivial, trivial⟩
    · have split : ∀ steps, Step.enter slot :: (((slot.folders config).map fun folder =>
          Step.call (.createFolder folder.name folder.path)) ++ .announce slot :: steps) =
            (.enter slot :: (((slot.folders config).map fun folder =>
              Step.call (.createFolder folder.name folder.path)) ++ [.announce slot])) ++
                steps := by
        intro steps
        simp
      rw [split, Step.allFounded_fileless_append]
      · exact backendSteps_founded apart
      · intro step member
        rcases List.mem_cons.1 member with rfl | member
        · rfl
        rcases List.mem_append.1 member with member | member
        · obtain ⟨_, -, rfl⟩ := List.mem_map.1 member
          rfl
        · obtain rfl := List.mem_singleton.1 member
          rfl
  · trivial

/-- Where all other files asked for are those of other slots, descriptors are founded. -/
theorem yaml_founded (unvaried : NoCaseVariant config decls)
    (others : ∀ other ∈ made, ∃ slot : Slot, slot ≠ .yaml ∧ other ∈ slot.outputs config decls) :
    Step.AllFounded made (Slot.yaml.steps config decls) := by
  by_cases asked : ∃ file, file ∈ Slot.yaml.outputs config decls
  · obtain ⟨file, member⟩ := asked
    refine steps_founded fun _ folder outFile setting shared => ?_
    obtain ⟨folder', setting', rfl⟩ := output_shared shared member
    cases setting.symm.trans setting'
    intro other among fold
    obtain ⟨slot, ne, output⟩ := others other among
    exact unvaried folder outFile setting shared member slot ne other output fold
  · have fileless : ∀ step ∈ Slot.yaml.steps config decls, step.pick? Call.file? = none := by
      intro step member
      cases found : step.pick? Call.file? with
      | none => rfl
      | some file => exact absurd ⟨file, List.mem_filterMap.2 ⟨step, member, found⟩⟩ asked
    rw [← List.append_nil (Slot.yaml.steps config decls), Step.allFounded_fileless_append fileless]
    trivial

/-- The steps of slots in a row are founded, each slot on the files of those before it. -/
theorem flatMap_founded (unvaried : NoCaseVariant config decls) {slots : List Slot}
    (nodup : slots.Nodup)
    (others : .yaml ∈ slots → ∀ other ∈ made,
      ∃ slot : Slot, slot ≠ .yaml ∧ other ∈ slot.outputs config decls) :
    Step.AllFounded made (slots.flatMap (Slot.steps config decls)) := by
  induction slots generalizing made with
  | nil => trivial
  | cons slot slots ih =>
      obtain ⟨unrepeated, nodup⟩ := List.nodup_cons.1 nodup
      rw [List.flatMap_cons, Step.allFounded_append]
      refine ⟨?_, ih nodup fun later other member => ?_⟩
      · by_cases isYaml : slot = .yaml
        · subst isYaml
          exact yaml_founded unvaried (others List.mem_cons_self)
        · exact steps_founded fun same => absurd same isYaml
      · rcases List.mem_append.1 member with old | new
        · exact others (List.mem_cons_of_mem _ later) other old
        · refine ⟨slot, ?_, new⟩
          rintro rfl
          exact unrepeated later

end Slot

/-- A plan is founded if the file that descriptors share has no case variant. -/
theorem plan_founded {config : Config} {decls : List TypeDecl}
    (unvaried : NoCaseVariant config decls) : Step.AllFounded [] (plan config decls) :=
  Slot.flatMap_founded unvaried (by decide) fun _ _ member => nomatch member

end

/-! ## Paths of files -/

namespace Step

/-- The file lies below an absolute folder, and its path does not end in a slash. -/
structure Proper (file : String) : Prop where
  rooted : Rooted file
  noSlash : Path.endsInSlash file = false

theorem Proper.canonicalPath_eq {file : String} (proper : Proper file) {fs : FileSystem}
    (free : fs.LinkFree) : fs.canonicalPath file = file := by
  have noSlash := proper.noSlash
  obtain ⟨folder, name, absolute, rfl⟩ := proper.rooted
  exact free.canonicalPath_join absolute noSlash

variable {emitter : Emitter} {step : Step} {steps : List Step} {world after : World}

/-- A path that ends in a slash cannot be opened. -/
theorem noSlash_of_perform (live : emitter.skip = false) (ready : world.Ready) {file : String}
    (opens : step.pick? Call.opens? = some file)
    (ran : (step.perform emitter).runOn world = (.ok (), after)) :
    Path.endsInSlash file = false := by
  cases step with
  | call request =>
      cases request with
      | createFile folder fileName body =>
          cases opens
          obtain ⟨before, place, -, writes⟩ := Emitter.creates_of_ok live ready ran
          exact writes.leadsToFile.1
      | appendToFile folder fileName body =>
          cases opens
          rw [perform, Call.perform, Emission.runOn_discard, Emitter.runOn_appendToFile live] at ran
          rcases Emitter.writeTo_effect emitter .append (Path.join [folder, fileName]) body world
            with ⟨fault, failed⟩ | ⟨place, writes⟩
          · rw [failed] at ran
            cases ran
          · exact writes.leadsToFile.1
      | createFileOnce folder fileName body => cases opens
      | createFolder label folder => cases opens
  | _ => cases opens

theorem noSlash_of_performAll (live : emitter.skip = false) (ready : world.Ready)
    (ran : (performAll emitter steps).runOn world = (.ok (), after)) :
    ∀ file ∈ steps.filterMap (pick? Call.opens?), Path.endsInSlash file = false := by
  induction steps generalizing world with
  | nil => nofun
  | cons step steps ih =>
      obtain ⟨middle, first, rest⟩ := performAll_cons_ok ran
      have extended := extends_of_perform ready first
      intro file member
      obtain ⟨other, among, opens⟩ := List.mem_filterMap.1 member
      rcases List.mem_cons.1 among with rfl | among
      · exact noSlash_of_perform live ready opens first
      · exact ih (extended.ready ready) rest file (List.mem_filterMap.2 ⟨other, among, opens⟩)

end Step

section

variable [YamlPackage]

/-- The files of a plan are those of its slots. -/
theorem mem_files_plan {config : Config} {decls : List TypeDecl} {file : String} :
    file ∈ Step.files (plan config decls) ↔ ∃ slot : Slot, file ∈ slot.outputs config decls := by
  rw [Step.files, plan, List.filterMap_flatMap, List.mem_flatMap]
  constructor
  · rintro ⟨slot, -, member⟩
    exact ⟨slot, member⟩
  · rintro ⟨slot, member⟩
    exact ⟨slot, slot.mem_all, member⟩

/-- Every file of a run that succeeds is proper. -/
theorem proper_of_run {config : Config} {decls : List TypeDecl} {world after : World}
    (grounded : config.Grounded) (ready : world.Ready)
    (ran : (Step.performAll { skip := false } (plan config decls)).runOn world = (.ok (), after)) :
    ∀ file ∈ Step.files (plan config decls), Step.Proper file := by
  intro file member
  obtain ⟨slot, output⟩ := mem_files_plan.1 member
  refine ⟨Slot.rooted_of_output grounded output, ?_⟩
  refine Step.noSlash_of_performAll rfl ready ran file ?_
  obtain ⟨step, among, opens⟩ := List.mem_filterMap.1 (Slot.opens_of_output output)
  exact List.mem_filterMap.2 ⟨step, List.mem_flatMap.2 ⟨slot, slot.mem_all, among⟩, opens⟩

end

end BridgeCode
