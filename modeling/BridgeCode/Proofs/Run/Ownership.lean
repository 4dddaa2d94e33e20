import BridgeCode.Proofs.Config.Folders
import BridgeCode.Proofs.Run.Trace
import Mathlib.Data.List.Nodup
import Mathlib.Data.List.Pairwise

/-!
Which slots share an output file.

A file of its own is refused where another file is that is the same in lower case, so the files that
slots create are apart (`Step.nodup_created`). Two ways of writing are left: the bridging header is
extended, but by the slot that created it; and the file that all descriptors share is extended
whether or not it was created by them (`Slot.created_of_output`).

* `shared_output_iff`: two slots of a run that succeeds write files that are the same in lower case
  exactly if the file that descriptors share is such a file.
-/

namespace BridgeCode

/-- The file that a call creates as one of its own. -/
def Call.creates? : Call → Option String
  | .createFile folder fileName _ => some (Path.join [folder, fileName])
  | _ => none

/-- The files that a slot is asked for. -/
def Slot.outputs [YamlPackage] (config : Config) (decls : List TypeDecl) (slot : Slot) :
    List String :=
  (slot.steps config decls).filterMap (Step.pick? Call.file?)

/-! ## Created files are apart -/

namespace Step

variable {emitter : Emitter} {steps : List Step} {world after : World}

/-- The file lies below an absolute folder. -/
def Rooted (file : String) : Prop :=
  ∃ folder name, Path.isAbsolute folder = true ∧ file = Path.join [folder, name]

/-- The files that a run creates were not written before it and differ in lower case. -/
theorem nodup_created (live : emitter.skip = false) (ready : world.Ready)
    (free : world.files.LinkFree)
    (rooted : ∀ file ∈ steps.filterMap (pick? Call.creates?), Rooted file)
    (ran : (performAll emitter steps).runOn world = (.ok (), after)) :
    (∀ file ∈ steps.filterMap (pick? Call.creates?), world.session.clash? file = none) ∧
    ((steps.filterMap (pick? Call.creates?)).map caseFold).Nodup := by
  induction steps generalizing world with
  | nil => simp
  | cons step steps ih =>
      obtain ⟨middle, first, rest⟩ := performAll_cons_ok ran
      have extended := extends_of_perform ready first
      cases created : step.pick? Call.creates? with
      | none =>
          rw [List.filterMap_cons_none created] at rooted ⊢
          obtain ⟨unwritten, nodup⟩ :=
            ih (extended.ready ready) (free.grows extended.grows) rooted rest
          exact ⟨fun file member => extended.clash?_eq_none (unwritten file member), nodup⟩
      | some file =>
          rw [List.filterMap_cons_some created] at rooted ⊢
          obtain ⟨unwritten, nodup⟩ := ih (extended.ready ready) (free.grows extended.grows)
            (fun other member => rooted other (List.mem_cons_of_mem _ member)) rest
          obtain ⟨folder, fileName, body, rfl⟩ :
              ∃ folder fileName body, step = .call (.createFile folder fileName body) := by
            cases step with
            | call request =>
                cases request with
                | createFile folder fileName body => exact ⟨folder, fileName, body, rfl⟩
                | _ => cases created
            | _ => cases created
          cases created
          obtain ⟨prepared, place, prepares, writes⟩ := Emitter.creates_of_ok live ready first
          -- Without links the file is its own canonical path, under which it is registered.
          have canonical : world.files.canonicalPath (Path.join [folder, fileName]) =
              Path.join [folder, fileName] := by
            have noSlash := writes.leadsToFile.1
            obtain ⟨outer, name, absolute, eq⟩ := rooted _ List.mem_cons_self
            rw [eq] at noSlash ⊢
            exact free.canonicalPath_join absolute noSlash
          have entered := prepares.entered
          have fresh := prepares.fresh
          rw [canonical] at entered fresh
          rw [← writes.session_eq] at entered
          rw [List.map_cons, List.nodup_cons]
          refine ⟨fun other member => ?_, fun same => ?_, nodup⟩
          · rcases List.mem_cons.1 member with rfl | member
            · exact fresh
            · exact extended.clash?_eq_none (unwritten other member)
          · obtain ⟨other, member, fold⟩ := List.mem_map.1 same
            have clear := List.find?_eq_none.1 (unwritten other member)
              (Path.join [folder, fileName]) (by simp [entered])
            simp [fold] at clear

end Step

/-! ## What slots are asked for -/

/-- A request for a shared file comes with an addition to it. -/
def Step.Completed (steps : List Step) : Prop :=
  ∀ folder fileName body, Step.call (.createFileOnce folder fileName body) ∈ steps →
    ∃ document, Step.call (.appendToFile folder fileName document) ∈ steps

theorem Step.completed_stop (error : GenerateError) : Step.Completed [.stop error] := by
  intro folder fileName body member
  cases List.mem_singleton.1 member

theorem Step.completed_flatMap {α : Type} {items : List α} {steps : α → List Step}
    (each : ∀ item, Completed (steps item)) : Completed (items.flatMap steps) := by
  intro folder fileName body member
  obtain ⟨item, among, member⟩ := List.mem_flatMap.1 member
  obtain ⟨document, added⟩ := each item folder fileName body member
  exact ⟨document, List.mem_flatMap.2 ⟨item, among, added⟩⟩

section

variable [YamlPackage]

theorem Descriptor.completed_steps (config : Config) (folder origin name : String)
    (params : List String) (body : DeclBody) :
    Step.Completed (Descriptor.steps config folder origin name params body) := by
  unfold Descriptor.steps
  cases config.yaml.outFile with
  | none =>
      intro folder' fileName top member
      cases List.mem_singleton.1 member
  | some outFile =>
      intro folder' fileName top member
      rcases List.mem_cons.1 member with same | member
      · cases same
        exact ⟨_, List.mem_cons_of_mem _ List.mem_cons_self⟩
      · cases List.mem_singleton.1 member

namespace Slot

variable {config : Config} {decls : List TypeDecl} {slot : Slot} {file : String}

theorem completed_yaml : Step.Completed (Slot.yaml.backendSteps config decls) := by
  unfold backendSteps
  cases requireSetting "YAML folder" config.yaml.outFolder with
  | error error => exact Step.completed_stop error
  | ok folder =>
      refine Step.completed_flatMap (Script.decl_cases nofun Step.completed_stop ?_ ?_ ?_)
      · exact fun origin name _ _ => Descriptor.completed_steps config folder origin name _ _
      · exact fun origin name _ _ _ => Descriptor.completed_steps config folder origin name _ _
      · exact fun origin name _ _ _ => Descriptor.completed_steps config folder origin name _ _

/-- The bridging header is created before it is extended. -/
theorem bridge_mem {folder name : String} (setting : config.objc.headerOutFolder = some folder)
    (named : config.objc.swiftBridgingHeaderName = some name) :
    ∃ body, Step.call (.createFile folder (name ++ ".h") body) ∈
      Slot.swiftBridgingHeader.backendSteps config decls := by
  unfold backendSteps
  rw [setting, named]
  exact ⟨_, List.mem_cons_self⟩

/-- The files of a slot are those of its generator, whose steps are all taken. -/
theorem backend_of_output (member : file ∈ slot.outputs config decls) :
    (∃ step ∈ slot.backendSteps config decls, step.pick? Call.file? = some file) ∧
      ∀ step ∈ slot.backendSteps config decls, step ∈ slot.steps config decls := by
  obtain ⟨step, member, asked⟩ := List.mem_filterMap.1 member
  unfold steps at member ⊢
  split at member
  · next enabled =>
      split at member
      · cases List.mem_singleton.1 member
        cases asked
      · rw [if_pos enabled]
        refine ⟨?_, fun other among => by simp [among]⟩
        rcases List.mem_cons.1 member with rfl | member
        · cases asked
        rcases List.mem_append.1 member with member | member
        · obtain ⟨_, -, rfl⟩ := List.mem_map.1 member
          cases asked
        rcases List.mem_cons.1 member with rfl | member
        · cases asked
        · exact ⟨step, member, asked⟩
  · cases member

/-- What a slot is asked for, it is asked for outright. -/
theorem opens_of_output (member : file ∈ slot.outputs config decls) :
    file ∈ (slot.steps config decls).filterMap (Step.pick? Call.opens?) := by
  obtain ⟨⟨step, among, asked⟩, taken⟩ := backend_of_output member
  cases asks_of_mem among with
  | stop => cases asked
  | sharedTop setting shared body =>
      obtain ⟨document, added⟩ := completed_yaml _ _ _ among
      exact List.mem_filterMap.2 ⟨_, taken _ added, asked⟩
  | _ => exact List.mem_filterMap.2 ⟨_, taken _ among, asked⟩

/-- The file that descriptors share aside, a slot creates what it is asked for. -/
theorem created_of_output (member : file ∈ slot.outputs config decls)
    (unshared : slot = .yaml → config.yaml.outFile = none) :
    file ∈ (slot.steps config decls).filterMap (Step.pick? Call.creates?) := by
  obtain ⟨⟨step, among, asked⟩, taken⟩ := backend_of_output member
  cases asks_of_mem among with
  | stop => cases asked
  | bridgeImport setting named body =>
      obtain ⟨preamble, created⟩ := bridge_mem setting named
      exact List.mem_filterMap.2 ⟨_, taken _ created, asked⟩
  | sharedTop setting shared body | sharedDocument setting shared body =>
      simp [unshared rfl] at shared
  | _ => exact List.mem_filterMap.2 ⟨_, taken _ among, asked⟩

/-- All descriptors that share a file go there. -/
theorem output_shared {name : String} (shared : config.yaml.outFile = some name)
    (member : file ∈ Slot.yaml.outputs config decls) :
    ∃ folder, config.yaml.outFolder = some folder ∧ file = Path.join [folder, name] := by
  obtain ⟨⟨step, among, asked⟩, -⟩ := backend_of_output member
  cases asks_of_mem among with
  | stop => cases asked
  | descriptor setting unshared => simp [shared] at unshared
  | sharedTop setting given | sharedDocument setting given =>
      cases shared.symm.trans given
      cases asked
      exact ⟨_, setting, rfl⟩

/-- All files lie below folders of the configuration. -/
theorem rooted_of_output (grounded : config.Grounded) (member : file ∈ slot.outputs config decls) :
    Step.Rooted file := by
  obtain ⟨⟨step, among, asked⟩, -⟩ := backend_of_output member
  cases asks_of_mem among with
  | stop => cases asked
  | cpp setting =>
      cases asked
      exact ⟨_, _, grounded.cpp _ setting, rfl⟩
  | objc setting | bridge setting | bridgeImport setting =>
      cases asked
      exact ⟨_, _, grounded.objc _ setting, rfl⟩
  | descriptor setting | sharedTop setting | sharedDocument setting =>
      cases asked
      exact ⟨_, _, grounded.yaml _ setting, rfl⟩

theorem output_of_created
    (member : file ∈ (slot.steps config decls).filterMap (Step.pick? Call.creates?)) :
    file ∈ slot.outputs config decls := by
  obtain ⟨step, among, created⟩ := List.mem_filterMap.1 member
  refine List.mem_filterMap.2 ⟨step, among, ?_⟩
  cases step with
  | call request =>
      cases request with
      | createFile folder fileName body => exact created
      | _ => cases created
  | _ => cases created

/-- Created files that are apart in the plan are apart from slot to slot. -/
theorem created_apart
    (nodup : (((plan config decls).filterMap (Step.pick? Call.creates?)).map caseFold).Nodup)
    {first second : Slot} (ne : first ≠ second) {left right : String}
    (here : left ∈ (first.steps config decls).filterMap (Step.pick? Call.creates?))
    (there : right ∈ (second.steps config decls).filterMap (Step.pick? Call.creates?)) :
    caseFold left ≠ caseFold right := by
  rw [plan, List.filterMap_flatMap, List.map_flatMap, List.nodup_flatMap] at nodup
  have all : ∀ slot : Slot, slot ∈ Slot.all := fun slot => by cases slot <;> decide
  have symmetric : Std.Symm (Function.onFun List.Disjoint fun slot =>
      ((steps config decls slot).filterMap (Step.pick? Call.creates?)).map caseFold) :=
    ⟨fun _ _ apart => List.disjoint_symm apart⟩
  have disjoint := nodup.2.forall (all first) (all second) ne
  intro same
  exact disjoint (List.mem_map_of_mem here) (same ▸ List.mem_map_of_mem there)

end Slot

/-! ## Runs that succeed -/

/-- The files of a run, as its events tell: each slot opened what it is asked for, and the file that
descriptors share aside, no two slots are asked for the same in lower case. -/
structure Owned (config : Config) (decls : List TypeDecl) (events : List Event) : Prop where
  opened : ∀ slot file, file ∈ openedBy slot none events ↔ file ∈ slot.outputs config decls
  apart : ∀ first second : Slot, first ≠ second → (first = .yaml → config.yaml.outFile = none) →
    (second = .yaml → config.yaml.outFile = none) → ∀ left ∈ first.outputs config decls,
    ∀ right ∈ second.outputs config decls, caseFold left ≠ caseFold right

theorem owned_of_run {options : Emission.SessionOptions} {config : Config}
    {decls : List TypeDecl} {world after : World} (grounded : config.Grounded)
    (live : config.skipGeneration = false) (free : world.files.LinkFree)
    (ran : (freshRun options config decls).runOn world = (.ok none, after)) :
    ∃ events, after.journal = world.journal ++ events ∧ Owned config decls events := by
  rcases freshRun_cases options config decls world with
    ⟨result, stopped, failed, same⟩ | ⟨begun, starts, follows⟩
  · have ended := (same config.skipGeneration).symm.trans ran
    cases ended
    exact absurd rfl failed
  have finished := (follows config.skipGeneration).symm.trans ran
  rw [live] at finished
  rcases performed : (Step.performAll { skip := false } (plan config decls)).runOn begun with
    ⟨result, final⟩
  rw [performed] at finished
  obtain rfl : result = .ok () := by
    have answer := congrArg Prod.fst finished
    simpa using answer
  cases finished
  obtain ⟨events, traces, journal⟩ := Step.traces_of_performAll rfl starts.ready performed
  rw [starts.journal] at journal
  refine ⟨events, journal, fun slot file => ⟨fun member => ?_, fun member => ?_⟩,
    fun first second ne unshared unshared' left here right there => ?_⟩
  · have asked := Step.mem_filesOf_of_opened traces member
    rwa [Step.filesOf_plan] at asked
  · refine Step.opened_of_mem_filesOf traces ?_
    rw [Step.filesOf_plan]
    exact Slot.opens_of_output member
  · have rooted : ∀ file ∈ (plan config decls).filterMap (Step.pick? Call.creates?),
        Step.Rooted file := by
      intro file member
      obtain ⟨step, among, created⟩ := List.mem_filterMap.1 member
      obtain ⟨slot, -, among⟩ := List.mem_flatMap.1 among
      exact Slot.rooted_of_output grounded
        (Slot.output_of_created (List.mem_filterMap.2 ⟨step, among, created⟩))
    have nodup :=
      (Step.nodup_created rfl starts.ready (free.grows starts.grows) rooted performed).2
    exact Slot.created_apart nodup ne (Slot.created_of_output here unshared)
      (Slot.created_of_output there unshared')

/-- In a run that succeeds, two slots write to files that are the same in lower case exactly if the
file that descriptors share is the same in lower case as a file of another slot. -/
theorem shared_output_iff {options : Emission.SessionOptions} {base : BaseDir} {value : Value}
    {config : Config} {decls : List TypeDecl} {world after : World}
    (built : buildConfig base value = .ok config) (live : config.skipGeneration = false)
    (free : world.files.LinkFree)
    (ran : (freshRun options config decls).runOn world = (.ok none, after)) :
    ∃ events, after.journal = world.journal ++ events ∧
      (∀ slot file, file ∈ openedBy slot none events ↔ file ∈ slot.outputs config decls) ∧
      ((∃ first second left right, first ≠ second ∧ left ∈ openedBy first none events ∧
          right ∈ openedBy second none events ∧ caseFold left = caseFold right) ↔
        ∃ folder name, ∃ slot : Slot, ∃ file, config.yaml.outFolder = some folder ∧
          config.yaml.outFile = some name ∧
          Path.join [folder, name] ∈ Slot.yaml.outputs config decls ∧
          slot ≠ .yaml ∧ file ∈ slot.outputs config decls ∧
          caseFold file = caseFold (Path.join [folder, name])) := by
  obtain ⟨events, journal, owned⟩ :=
    owned_of_run (grounded_of_buildConfig built) live free ran
  refine ⟨events, journal, owned.opened, ?_, ?_⟩
  · rintro ⟨first, second, left, right, ne, here, there, same⟩
    rw [owned.opened] at here there
    cases shared : config.yaml.outFile with
    | none =>
        exact absurd same (owned.apart first second ne (fun _ => shared) (fun _ => shared) left here
          right there)
    | some name =>
        by_cases left_yaml : first = .yaml
        · subst left_yaml
          obtain ⟨folder, setting, rfl⟩ := Slot.output_shared shared here
          exact ⟨folder, name, second, right, setting, rfl, here, ne.symm, there, same.symm⟩
        by_cases right_yaml : second = .yaml
        · subst right_yaml
          obtain ⟨folder, setting, rfl⟩ := Slot.output_shared shared there
          exact ⟨folder, name, first, left, setting, rfl, there, ne, here, same⟩
        · exact absurd same (owned.apart first second ne (fun yaml => absurd yaml left_yaml)
            (fun yaml => absurd yaml right_yaml) left here right there)
  · rintro ⟨folder, name, slot, file, -, -, descriptors, ne, there, same⟩
    rw [← owned.opened] at descriptors there
    exact ⟨slot, .yaml, file, Path.join [folder, name], ne, there, descriptors, same⟩

end

/-- Settings under which descriptors go to a file that is also a C++ header. -/
def sharedSettings : Value :=
  .map [("cpp", .map [("out_folder", .str "gen")]),
    ("yaml", .map [("out_folder", .str "gen"), ("out_file", .str "color.hpp")])]

open scoped Yaml in
theorem sharedSettings_run :
    ∃ config after, buildConfig ⟨"/", "/"⟩ sharedSettings = .ok config ∧
      config.skipGeneration = false ∧
      (freshRun { recordManifest := true } config [colorDecl]).runOn emptyWorld =
        (.ok none, after) ∧
      openedBy .cpp none after.journal = ["/gen/color.hpp"] ∧
      openedBy .yaml none after.journal = ["/gen/color.hpp"] := by
  have evaluated : ((buildConfig ⟨"/", "/"⟩ sharedSettings).toOption.any fun config =>
      !config.skipGeneration &&
        let run := (freshRun { recordManifest := true } config [colorDecl]).runOn emptyWorld
        run.1.toOption.any (·.isNone) &&
          openedBy .cpp none run.2.journal == ["/gen/color.hpp"] &&
          openedBy .yaml none run.2.journal == ["/gen/color.hpp"]) = true := by
    decide +kernel
  cases built : buildConfig ⟨"/", "/"⟩ sharedSettings with
  | error error =>
      rw [built] at evaluated
      cases evaluated
  | ok config =>
      rw [built] at evaluated
      simp only [Except.toOption, Option.any_some, Bool.and_eq_true, Bool.not_eq_true', beq_iff_eq]
        at evaluated
      obtain ⟨live, ⟨answer, cpp⟩, yaml⟩ := evaluated
      exact ⟨config, _, rfl, live, Prod.ext (eq_ok_none_of_any answer) rfl, cpp, yaml⟩

open scoped Yaml in
theorem sharedSettings_shared :
    ∃ config, buildConfig ⟨"/", "/"⟩ sharedSettings = .ok config ∧
      config.skipGeneration = false ∧ emptyWorld.files.LinkFree ∧
      ∃ folder name, ∃ slot : Slot, ∃ file, config.yaml.outFolder = some folder ∧
        config.yaml.outFile = some name ∧
        Path.join [folder, name] ∈ Slot.yaml.outputs config [colorDecl] ∧
        slot ≠ .yaml ∧ file ∈ slot.outputs config [colorDecl] ∧
        caseFold file = caseFold (Path.join [folder, name]) := by
  obtain ⟨config, after, built, live, ran, cpp, yaml⟩ := sharedSettings_run
  obtain ⟨events, journal, -, shared⟩ :=
    shared_output_iff built live emptyWorld_linkFree ran
  have journal : after.journal = events := journal
  rw [journal] at cpp yaml
  refine ⟨config, built, live, emptyWorld_linkFree, shared.1 ?_⟩
  exact ⟨.cpp, .yaml, "/gen/color.hpp", "/gen/color.hpp", nofun, by simp [cpp], by simp [yaml], rfl⟩

open scoped Yaml in
/-- Two slots write to one file in a run that succeeds: the header of an enum gets the descriptor of
the enum at its end, because the file that descriptors share has the name of the header. -/
theorem header_written_by_two_slots :
    ∃ config after, buildConfig ⟨"/", "/"⟩ sharedSettings = .ok config ∧
      config.skipGeneration = false ∧ emptyWorld.files.LinkFree ∧
      (freshRun { recordManifest := true } config [colorDecl]).runOn emptyWorld =
        (.ok none, after) ∧
      ∃ file, file ∈ openedBy .cpp none after.journal ∧
        file ∈ openedBy .yaml none after.journal := by
  obtain ⟨config, after, built, live, ran, cpp, yaml⟩ := sharedSettings_run
  exact ⟨config, after, built, live, emptyWorld_linkFree, ran, "/gen/color.hpp",
    by simp [cpp], by simp [yaml]⟩

end BridgeCode
