import BridgeCode.Config.Build
import BridgeCode.Proofs.Run.Plan

/-!
A dry run and a run that writes, side by side.

Both follow the same plan. Of its steps a dry run takes only the claims, and those it takes in the
same order; what it leaves out claims nothing and can only fail. So at every step both have claimed
the same paths (`Step.perform_shadows`), and if the run that writes stops early, the dry run goes on
claiming (`Step.performAll_shadows`).

A file that declarations share is the exception: it is claimed at most once, and whether it is one
that was created before depends on the disk. `dry_run_manifest` is about files of their own.
-/

namespace BridgeCode

/-- Two worlds in which the same paths are claimed, and further ones can be. -/
structure World.Shadows (dry real : World) : Prop where
  claimed : dry.session.claimed = real.session.claimed
  recording : dry.session.recording = real.session.recording
  dryReady : dry.Ready
  realReady : real.Ready

theorem World.Shadows.of_extends {dry real dry' real' : World} (shadows : dry.Shadows real)
    (claimed : dry'.session.claimed = real'.session.claimed) (dryExtends : dry.Extends dry')
    (realExtends : real.Extends real') : dry'.Shadows real' where
  claimed := claimed
  recording := by
    rw [dryExtends.recording, realExtends.recording]
    exact shadows.recording
  dryReady := dryExtends.ready shadows.dryReady
  realReady := realExtends.ready shadows.realReady

namespace Call

/-- The path that a call claims. What a call for a shared file claims depends on the registry. -/
def claims? : Call → Option String
  | .createFile folder fileName _ => some (Path.forwardSlashes (Path.join [folder, fileName]))
  | _ => none

/-- The manifest after a call. -/
def claimedWith (session : Session) (call : Call) : List String :=
  match call.claims? with
  | some entry => Emission.claimedWith session entry
  | none => session.claimed

/-- The call is not for a file that declarations share. -/
def OwnFile : Call → Prop
  | .createFileOnce .. => False
  | _ => True

variable {emitter : Emitter} {call : Call} {world : World}

/-- In a dry run and in one that writes, a call claims the same. -/
theorem perform_claimed (own : call.OwnFile) (ready : world.Ready) :
    ((call.perform emitter).runOn world).2.session.claimed = claimedWith world.session call := by
  cases call with
  | createFile folder fileName body =>
      rw [perform, Emission.runOn_discard]
      obtain ⟨middle, claimed, -⟩ :=
        Emission.claim_ok ready (Path.forwardSlashes (Path.join [folder, fileName]))
      have claims := Emission.claim_moves (Path.forwardSlashes (Path.join [folder, fileName])) world
      rw [claimed] at claims
      have entry : middle.session.claimed = Emission.claimedWith world.session
          (Path.forwardSlashes (Path.join [folder, fileName])) := by rw [claims.session]
      cases mode : emitter.skip with
      | true =>
          rw [Emitter.runOn_createFile_dry mode claimed]
          exact entry
      | false =>
          cases clash : middle.session.clash?
            (middle.files.canonicalPath (Path.join [folder, fileName])) with
          | some existing =>
              rw [Emitter.runOn_createFile_refused mode claimed clash]
              exact entry
          | none =>
              rw [Emitter.runOn_createFile_fresh mode claimed clash, Emitter.writeTo_session]
              exact entry
  | createFileOnce folder fileName body => exact own.elim
  | appendToFile folder fileName body =>
      rw [perform, Emission.runOn_discard]
      cases mode : emitter.skip with
      | true => rw [Emitter.runOn_appendToFile_dry mode]; rfl
      | false => rw [Emitter.runOn_appendToFile mode, Emitter.writeTo_session]; rfl
  | createFolder label folder =>
      cases mode : emitter.skip with
      | true => rw [perform, Emitter.runOn_createFolder_dry mode]; rfl
      | false =>
          obtain ⟨cause, printed, ran⟩ :=
            @Emitter.runOn_createFolder emitter folder world label mode
          rw [perform, ran]
          rfl

/-- In a dry run a call does not fail. -/
theorem perform_ok_of_dry (dry : emitter.skip = true) (own : call.OwnFile) (ready : world.Ready) :
    ((call.perform emitter).runOn world).1 = .ok () := by
  cases call with
  | createFile folder fileName body =>
      obtain ⟨middle, claimed, -⟩ :=
        Emission.claim_ok ready (Path.forwardSlashes (Path.join [folder, fileName]))
      rw [perform, Emission.runOn_discard, Emitter.runOn_createFile_dry dry claimed]
      rfl
  | createFileOnce folder fileName body => exact own.elim
  | appendToFile folder fileName body =>
      rw [perform, Emission.runOn_discard, Emitter.runOn_appendToFile_dry dry]
      rfl
  | createFolder label folder =>
      rw [perform, Emitter.runOn_createFolder_dry dry]

end Call

namespace Step

/-- The step is not for a file that declarations share. -/
def OwnFile : Step → Prop
  | .call request => request.OwnFile
  | _ => True

variable {live : Emitter} {dry : Emitter} {step : Step} {shadow real : World}

/-- One step keeps both worlds together, and the dry run fails only where the other does. -/
theorem perform_shadows (skips : dry.skip = true) (own : step.OwnFile)
    (shadows : shadow.Shadows real) :
    ((step.perform dry).runOn shadow).2.Shadows ((step.perform live).runOn real).2 ∧
      (((step.perform live).runOn real).1 = .ok () →
        ((step.perform dry).runOn shadow).1 = .ok ()) := by
  have dryExtends := step.perform_extends dry shadows.dryReady
  have realExtends := step.perform_extends live shadows.realReady
  cases step with
  | enter slot => exact ⟨shadows.of_extends shadows.claimed dryExtends realExtends, fun _ => rfl⟩
  | announce slot => exact ⟨shadows.of_extends shadows.claimed dryExtends realExtends, fun _ => rfl⟩
  | stop error => exact ⟨shadows.of_extends shadows.claimed dryExtends realExtends, nofun⟩
  | call request =>
      refine ⟨shadows.of_extends ?_ dryExtends realExtends, fun _ => ?_⟩
      · rw [perform, perform, Call.perform_claimed own shadows.dryReady,
          Call.perform_claimed own shadows.realReady]
        unfold Call.claimedWith Emission.claimedWith
        rw [shadows.claimed, shadows.recording]
      · exact Call.perform_ok_of_dry skips own shadows.dryReady

/-- The dry run claims at least what the other claims, and no more if that one does not stop. -/
theorem performAll_shadows (skips : dry.skip = true) {steps : List Step}
    (own : ∀ step ∈ steps, step.OwnFile) (shadows : shadow.Shadows real) :
    ((performAll live steps).runOn real).2.session.claimed <+:
        ((performAll dry steps).runOn shadow).2.session.claimed ∧
      (((performAll live steps).runOn real).1 = .ok () →
        ((performAll dry steps).runOn shadow).1 = .ok () ∧
          ((performAll live steps).runOn real).2.session.claimed =
            ((performAll dry steps).runOn shadow).2.session.claimed) := by
  induction steps generalizing shadow real with
  | nil =>
      rw [performAll_nil, performAll_nil, Emission.runOn_pure, Emission.runOn_pure,
        shadows.claimed]
      exact ⟨List.prefix_refl _, fun _ => ⟨rfl, rfl⟩⟩
  | cons step steps ih =>
      obtain ⟨together, follows⟩ :=
        @perform_shadows live dry step shadow real skips (own step List.mem_cons_self) shadows
      have ownRest : ∀ other ∈ steps, other.OwnFile :=
        fun other member => own other (List.mem_cons_of_mem _ member)
      rw [performAll_cons, performAll_cons, Emission.runOn_bind, Emission.runOn_bind]
      rcases realRan : (step.perform live).runOn real with ⟨fault | _, real'⟩
      · -- The run that writes has stopped; the dry run stops too or goes on.
        rw [realRan] at together
        rcases dryRan : (step.perform dry).runOn shadow with ⟨other | _, shadow'⟩
        · rw [dryRan] at together
          exact ⟨together.claimed ▸ List.prefix_refl _, nofun⟩
        · rw [dryRan] at together
          have rest := performAll_extends dry steps together.dryReady
          refine ⟨?_, nofun⟩
          rw [← together.claimed]
          exact rest.claimed
      · rw [realRan] at together follows
        rcases dryRan : (step.perform dry).runOn shadow with ⟨other | _, shadow'⟩
        · rw [dryRan] at follows
          cases follows rfl
        · rw [dryRan] at together
          exact ih ownRest together

end Step

/-! ## Whole runs -/

section

variable [YamlPackage]

/-- Without a shared file for descriptors, every file of a plan is one of its own. -/
theorem plan_ownFile {config : Config} (unshared : config.yaml.outFile = none)
    (decls : List TypeDecl) : ∀ step ∈ plan config decls, step.OwnFile := by
  intro step member
  obtain ⟨slot, -, member⟩ := List.mem_flatMap.1 member
  refine Slot.forall_steps trivial trivial (fun _ _ => trivial) (fun _ => trivial) ?_ step member
  intro step member
  cases Slot.asks_of_mem member with
  | sharedTop _ shared => simp [unshared] at shared
  | _ => trivial

/-- From the same disk, a run and a dry run in sessions of their own: the manifest of the run is the
beginning of that of the dry run, and if the run answers no error, neither does the dry run and
their manifests are the same. -/
theorem dry_run_manifest (options : Emission.SessionOptions) {config : Config}
    (unshared : config.yaml.outFile = none) (decls : List TypeDecl) (world : World) :
    ((freshRun options { config with skipGeneration := false } decls).runOn world).2.session.claimed
        <+: ((freshRun options { config with skipGeneration := true } decls).runOn
          world).2.session.claimed ∧
      (((freshRun options { config with skipGeneration := false } decls).runOn world).1 = .ok none →
        ((freshRun options { config with skipGeneration := true } decls).runOn world).1 = .ok none ∧
          ((freshRun options { config with skipGeneration := false } decls).runOn
              world).2.session.claimed =
            ((freshRun options { config with skipGeneration := true } decls).runOn
              world).2.session.claimed) := by
  rcases freshRun_cases options config decls world with
    ⟨result, after, -, same⟩ | ⟨begun, starts, follows⟩
  · rw [same false, same true]
    exact ⟨List.prefix_refl _, fun ok => ⟨ok, rfl⟩⟩
  · have shadows : begun.Shadows begun := ⟨rfl, rfl, starts.ready, starts.ready⟩
    have agree := @Step.performAll_shadows { skip := false } { skip := true } begun begun rfl _
      (plan_ownFile unshared decls) shadows
    rw [follows false, follows true]
    simpa using agree

end

/-- Settings with the C++ target and the YAML target. -/
def twoTargets : Value :=
  .map [("cpp", .map [("out_folder", .str "cpp")]), ("yaml", .map [("out_folder", .str "yaml")])]

open scoped Yaml in
theorem dry_run_manifest_two_targets :
    ∃ config, buildConfig ⟨"/", "/"⟩ twoTargets = .ok config ∧ config.yaml.outFile = none ∧
      ((freshRun { recordManifest := true } { config with skipGeneration := true }
        [colorDecl]).runOn emptyWorld).2.session.claimed =
          ["/cpp/color.hpp", "/yaml/color.yaml"] := by
  have evaluated : ((buildConfig ⟨"/", "/"⟩ twoTargets).toOption.any fun config =>
      config.yaml.outFile.isNone &&
        let run := (freshRun { recordManifest := true } { config with skipGeneration := false }
          [colorDecl]).runOn emptyWorld
        (run.1.toOption.any (·.isNone)) &&
          run.2.session.claimed == ["/cpp/color.hpp", "/yaml/color.yaml"]) = true := by
    decide +kernel
  cases built : buildConfig ⟨"/", "/"⟩ twoTargets with
  | error error =>
      rw [built] at evaluated
      cases evaluated
  | ok config =>
      rw [built] at evaluated
      simp only [Except.toOption, Option.any_some, Bool.and_eq_true, beq_iff_eq,
        Option.isNone_iff_eq_none] at evaluated
      obtain ⟨unshared, answer, claimed⟩ := evaluated
      have agree := (dry_run_manifest { recordManifest := true } unshared [colorDecl]
        emptyWorld).2 (eq_ok_none_of_any answer)
      exact ⟨config, rfl, unshared, agree.2.symm.trans claimed⟩

end BridgeCode
