import BridgeCode.Proofs.Emit.Registry
import BridgeCode.Proofs.Run.DryRun
import BridgeCode.Proofs.Run.Foundation

/-!
The manifest of a run that succeeds.

Creating a file claims its path, registers it and opens the file emptied; adding to a file does none
of the first two. So the manifest and the registry list the files that were emptied, in their order
(`Step.records_of_performAll`), and a file that was only added to is in neither.

* `manifest_exact_iff`: no file is listed twice, every listed file was opened, and every opened file
  is there afterwards. The manifest lists all opened files exactly if the file that descriptors
  share does not differ in case alone from a file of another slot.
-/

namespace BridgeCode

/-- The file that an event opened. -/
def Event.file? : Event → Option String
  | .opened _ file _ => some file
  | _ => none

/-- The file that an event emptied. -/
def Event.emptied? : Event → Option String
  | .opened .truncate file _ => some file
  | _ => none

/-- The files that events opened, for whatever reason. -/
def openedFiles (events : List Event) : List String := events.filterMap Event.file?

/-- The files that events emptied. -/
def emptiedFiles (events : List Event) : List String := events.filterMap Event.emptied?

theorem openedFiles_append (events more : List Event) :
    openedFiles (events ++ more) = openedFiles events ++ openedFiles more :=
  List.filterMap_append

theorem emptiedFiles_append (events more : List Event) :
    emptiedFiles (events ++ more) = emptiedFiles events ++ emptiedFiles more :=
  List.filterMap_append

theorem mem_openedFiles_of_emptied {events : List Event} {file : String}
    (emptied : file ∈ emptiedFiles events) : file ∈ openedFiles events := by
  obtain ⟨event, member, eq⟩ := List.mem_filterMap.1 emptied
  refine List.mem_filterMap.2 ⟨event, member, ?_⟩
  cases event with
  | opened mode other place =>
      cases mode with
      | truncate => exact eq
      | append => cases eq
  | entered slot => cases eq
  | called call => cases eq

theorem mem_openedFiles_of_openedBy {slot : Slot} {active : Option Slot} {events : List Event}
    {file : String} (opened : file ∈ openedBy slot active events) : file ∈ openedFiles events := by
  induction events generalizing active with
  | nil => cases opened
  | cons event events ih =>
      have split : openedFiles (event :: events) = openedFiles [event] ++ openedFiles events :=
        openedFiles_append [event] events
      rw [split]
      apply List.mem_append.2
      cases event with
      | entered other => exact .inr (ih opened)
      | called call => exact .inr (ih opened)
      | opened mode other place =>
          rcases Step.mem_openedBy_opened.1 opened with ⟨-, rfl⟩ | later
          · exact .inl List.mem_cons_self
          · exact .inr (ih later)

/-! ## What a run that records leaves behind -/

/-- Before and after steps with these events: what they emptied is registered and claimed, and what
they opened is there. -/
structure World.Records (world after : World) (events : List Event) : Prop where
  journal : after.journal = world.journal ++ events
  written : after.session.written = world.session.written ++ emptiedFiles events
  claimed : after.session.claimed =
    world.session.claimed ++ (emptiedFiles events).map Path.forwardSlashes
  present : ∀ file ∈ openedFiles events, after.files.LeadsToFile file

namespace World

variable {world middle after : World} {file : String} {place : Location}

/-- Nothing is opened, and the memory of the run stays as it is. -/
theorem Records.unopened {events : List Event} (journal : after.journal = world.journal ++ events)
    (session : after.session = world.session) (none : openedFiles events = []) :
    world.Records after events := by
  have emptied : emptiedFiles events = [] := by
    refine List.eq_nil_iff_forall_not_mem.2 fun file member => ?_
    have opened := mem_openedFiles_of_emptied member
    rw [none] at opened
    cases opened
  refine ⟨journal, ?_, ?_, ?_⟩
  · rw [session, emptied, List.append_nil]
  · rw [session, emptied, List.map_nil, List.append_nil]
  · intro file member
    rw [none] at member
    cases member

/-- A file is added to. -/
theorem Records.extended (writes : world.Writes .append file place after) :
    world.Records after [.opened .append file place] := by
  refine ⟨writes.journal_eq, ?_, ?_, ?_⟩
  · rw [writes.session_eq]
    exact (List.append_nil _).symm
  · rw [writes.session_eq]
    exact (List.append_nil _).symm
  · intro other member
    obtain rfl := List.mem_singleton.1 member
    exact writes.leadsToFile

/-- A file is created under a path that is its own canonical path. -/
theorem Records.created (recording : world.session.recording = true)
    (canonical : world.files.canonicalPath file = file)
    (creates : Emitter.Creates file world after)
    (claimed : after.session.claimed =
      Emission.claimedWith world.session (Path.forwardSlashes file)) :
    ∃ place, world.Records after [.opened .truncate file place] := by
  obtain ⟨before, place, prepares, writes⟩ := creates
  have entered := prepares.entered
  rw [canonical] at entered
  refine ⟨place, ?_, ?_, ?_, ?_⟩
  · rw [writes.journal_eq, prepares.unopened]
  · rw [writes.session_eq, entered]
    rfl
  · rw [claimed, Emission.claimedWith, if_pos recording]
    rfl
  · intro other member
    obtain rfl := List.mem_singleton.1 member
    exact writes.leadsToFile

theorem Records.trans {events more : List Event} (first : world.Records middle events)
    (second : middle.Records after more) (grows : middle.files.Grows after.files) :
    world.Records after (events ++ more) := by
  refine ⟨?_, ?_, ?_, ?_⟩
  · rw [second.journal, first.journal, List.append_assoc]
  · rw [second.written, first.written, emptiedFiles_append, List.append_assoc]
  · rw [second.claimed, first.claimed, emptiedFiles_append, List.map_append, List.append_assoc]
  · intro file member
    rw [openedFiles_append] at member
    rcases List.mem_append.1 member with earlier | later
    · exact (first.present file earlier).grows grows
    · exact second.present file later

end World

namespace Step

variable {emitter : Emitter} {step : Step} {steps : List Step} {world after : World}

/-- What a step that succeeds leaves behind. -/
theorem records_of_perform (live : emitter.skip = false) (ready : world.Ready)
    (free : world.files.LinkFree) (recording : world.session.recording = true)
    (proper : ∀ file ∈ files [step], Proper file)
    (ran : (step.perform emitter).runOn world = (.ok (), after)) :
    ∃ events, step.Notes events ∧ world.Records after events := by
  cases step with
  | enter slot =>
      cases ran
      exact ⟨_, .enter slot, .unopened rfl rfl rfl⟩
  | announce slot =>
      cases ran
      exact ⟨[], .announce slot, .unopened (List.append_nil _).symm rfl rfl⟩
  | stop error => cases ran
  | call request =>
      have claimed := @Call.perform_claimed emitter request world
      cases request with
      | createFile folder fileName body =>
          have creates := Emitter.creates_of_ok live ready ran
          have canonical := (proper _ List.mem_cons_self).canonicalPath_eq free
          have entry := claimed trivial ready
          rw [perform] at ran
          rw [ran] at entry
          obtain ⟨place, records⟩ := World.Records.created recording canonical creates entry
          exact ⟨_, .opened rfl .truncate place, records⟩
      | createFileOnce folder fileName body =>
          rcases Emitter.createFileOnce_ok live ready ran with ⟨existing, -, rfl⟩ | ⟨creates, entry⟩
          · exact ⟨[], .again folder fileName body,
              .unopened (List.append_nil _).symm rfl rfl⟩
          · have canonical := (proper _ List.mem_cons_self).canonicalPath_eq free
            obtain ⟨place, records⟩ := World.Records.created recording canonical creates entry
            exact ⟨_, .opened rfl .truncate place, records⟩
      | appendToFile folder fileName body =>
          rw [perform, Call.perform, Emission.runOn_discard, Emitter.runOn_appendToFile live] at ran
          rcases Emitter.writeTo_effect emitter .append (Path.join [folder, fileName]) body world
            with ⟨fault, failed⟩ | ⟨place, writes⟩
          · rw [failed] at ran
            cases ran
          · obtain rfl := congrArg Prod.snd ran
            exact ⟨_, .opened rfl .append place, .extended writes⟩
      | createFolder label folder =>
          obtain ⟨cause, printed, created⟩ :=
            @Emitter.runOn_createFolder emitter folder world label live
          rw [perform, Call.perform, created] at ran
          obtain rfl := congrArg Prod.snd ran
          exact ⟨[], .folder label folder, .unopened (List.append_nil _).symm rfl rfl⟩

/-- What steps that succeed leave behind. -/
theorem records_of_performAll (live : emitter.skip = false) (ready : world.Ready)
    (free : world.files.LinkFree) (recording : world.session.recording = true)
    (proper : ∀ file ∈ files steps, Proper file)
    (ran : (performAll emitter steps).runOn world = (.ok (), after)) :
    ∃ events, Traces steps events ∧ world.Records after events := by
  induction steps generalizing world with
  | nil =>
      cases ran
      exact ⟨[], .nil, .unopened (List.append_nil _).symm rfl rfl⟩
  | cons step steps ih =>
      obtain ⟨middle, first, rest⟩ := performAll_cons_ok ran
      rw [files_cons step steps] at proper
      obtain ⟨here, there⟩ := List.forall_mem_append.1 proper
      have extended := extends_of_perform ready first
      have readied := extended.ready ready
      have grown := performAll_extends emitter steps readied
      rw [rest] at grown
      obtain ⟨events, notes, records⟩ := records_of_perform live ready free recording here first
      obtain ⟨more, traces, later⟩ := ih readied (free.grows extended.grows)
        (extended.recording.trans recording) there rest
      exact ⟨events ++ more, .cons notes traces, records.trans later grown.grows⟩

/-- A run opens only what it is asked for. -/
theorem mem_files_of_openedFiles {events : List Event} {file : String}
    (traces : Traces steps events)
    (opened : file ∈ openedFiles events) : file ∈ files steps := by
  induction traces with
  | nil => cases opened
  | @cons step steps first rest notes traces ih =>
      rw [openedFiles_append] at opened
      rcases List.mem_append.1 opened with here | there
      · have asked : step.pick? Call.file? = some file := by
          cases notes with
          | opened asked mode place =>
              obtain rfl := List.mem_singleton.1 here
              exact asked
          | enter slot => cases here
          | announce slot => cases here
          | folder label path => cases here
          | again folder fileName body => cases here
        exact List.mem_filterMap.2 ⟨step, List.mem_cons_self, asked⟩
      · obtain ⟨other, among, asked⟩ := List.mem_filterMap.1 (ih there)
        exact List.mem_filterMap.2 ⟨other, List.mem_cons_of_mem _ among, asked⟩

/-- A founded step that succeeds registers the file it asks for, or finds it registered. -/
theorem registered_of_perform (live : emitter.skip = false) (ready : world.Ready)
    (free : world.files.LinkFree) (proper : ∀ file ∈ files [step], Proper file)
    {made : List String} (founded : step.Founded made)
    (registered : ∀ file, file ∈ made ↔ file ∈ world.session.written)
    (ran : (step.perform emitter).runOn world = (.ok (), after)) :
    ∀ file, file ∈ made ++ files [step] ↔ file ∈ after.session.written := by
  have created : ∀ {file : String}, file ∈ files [step] → Emitter.Creates file world after →
      after.session.written = world.session.written ++ [file] := by
    intro file asked creates
    obtain ⟨before, place, prepares, writes⟩ := creates
    rw [writes.session_eq, prepares.entered, (proper file asked).canonicalPath_eq free]
  cases step with
  | enter slot =>
      cases ran
      simpa [files, pick?] using registered
  | announce slot =>
      cases ran
      simpa [files, pick?] using registered
  | stop error => cases ran
  | call request =>
      cases request with
      | createFile folder fileName body =>
          have entered := created List.mem_cons_self (Emitter.creates_of_ok live ready ran)
          intro file
          rw [entered, List.mem_append, List.mem_append, registered]
          rfl
      | createFileOnce folder fileName body =>
          rcases Emitter.createFileOnce_ok live ready ran with ⟨existing, clash, rfl⟩ | ⟨creates, -⟩
          · -- The registered path is one of the files asked for, so it is no case variant.
            rw [(proper _ List.mem_cons_self).canonicalPath_eq free] at clash
            have there := List.mem_of_find?_eq_some clash
            have fold : caseFold existing = caseFold (Path.join [folder, fileName]) := by
              simpa using List.find?_some clash
            have same := founded existing ((registered existing).2 there) fold
            rw [same] at there
            intro file
            rw [List.mem_append, registered]
            refine ⟨fun member => ?_, .inl⟩
            rcases member with old | new
            · exact old
            · rw [List.mem_singleton.1 new]
              exact there
          · have entered := created List.mem_cons_self creates
            intro file
            rw [entered, List.mem_append, List.mem_append, registered]
            rfl
      | appendToFile folder fileName body =>
          have same : after.session = world.session := by
            rw [perform, Call.perform, Emission.runOn_discard,
              Emitter.runOn_appendToFile live] at ran
            obtain rfl := congrArg Prod.snd ran
            exact Emitter.writeTo_session emitter .append _ body world
          have there : Path.join [folder, fileName] ∈ made := founded
          intro file
          rw [same, List.mem_append, registered]
          refine ⟨fun member => ?_, .inl⟩
          rcases member with old | new
          · exact old
          · rw [List.mem_singleton.1 new]
            exact (registered _).1 there
      | createFolder label folder =>
          obtain ⟨cause, printed, made'⟩ :=
            @Emitter.runOn_createFolder emitter folder world label live
          rw [perform, Call.perform, made'] at ran
          obtain rfl := congrArg Prod.snd ran
          simpa [files, pick?, Call.file?] using registered

/-- Founded steps that succeed register exactly the files they ask for. -/
theorem registered_of_performAll (live : emitter.skip = false) (ready : world.Ready)
    (free : world.files.LinkFree) (proper : ∀ file ∈ files steps, Proper file)
    {made : List String} (founded : AllFounded made steps)
    (registered : ∀ file, file ∈ made ↔ file ∈ world.session.written)
    (ran : (performAll emitter steps).runOn world = (.ok (), after)) :
    ∀ file, file ∈ made ++ files steps ↔ file ∈ after.session.written := by
  induction steps generalizing world made with
  | nil =>
      cases ran
      simpa [files] using registered
  | cons step steps ih =>
      obtain ⟨middle, first, rest⟩ := performAll_cons_ok ran
      rw [files_cons step steps] at proper ⊢
      obtain ⟨here, there⟩ := List.forall_mem_append.1 proper
      have extended := extends_of_perform ready first
      have next := registered_of_perform live ready free here founded.1 registered first
      rw [← List.append_assoc]
      exact ih (extended.ready ready) (free.grows extended.grows) there founded.2 next rest

/-- No two files that a run registers are the same in lower case. -/
theorem nodup_written (live : emitter.skip = false)
    (nodup : (world.session.written.map caseFold).Nodup) :
    (((performAll emitter steps).runOn world).2.session.written.map caseFold).Nodup := by
  induction steps generalizing world with
  | nil => exact nodup
  | cons step steps ih =>
      have next : (((step.perform emitter).runOn world).2.session.written.map caseFold).Nodup := by
        cases step with
        | call request => exact Deed.nodup_written live nodup [.call request]
        | enter slot => exact nodup
        | announce slot => exact nodup
        | stop error => exact nodup
      rw [performAll_cons, Emission.runOn_bind]
      rcases ran : (step.perform emitter).runOn world with ⟨fault | _, middle⟩
      · rw [ran] at next
        exact next
      · rw [ran] at next
        exact ih next

end Step

/-! ## Sessions that record -/

/-- Whether a session that is started so records claims. -/
def Emission.SessionOptions.records (options : Emission.SessionOptions) : Bool :=
  options.recordManifest || options.pipe || options.manifestFile.isSome

theorem Emission.recording_of_startSession {options : Emission.SessionOptions} {world start : World}
    (records : options.records = true)
    (started : (Emission.startSession options).runOn world = (.ok (), start)) :
    start.session.recording = true := by
  rw [Emission.runOn_startSession] at started
  cases listed : options.manifestFile with
  | some path =>
      rw [listed] at started
      rw [(Emission.attachList_ok started).1]
      rfl
  | none =>
      rw [listed] at started
      cases started
      unfold Emission.SessionOptions.session
      split
      · rfl
      · next noPipe =>
          unfold Emission.SessionOptions.records at records
          simpa [listed, noPipe] using records

theorem recording_of_attach {config : Config} {start begun : World}
    (recording : start.session.recording = true)
    (attached : (attachOutFileList config).runOn start = (.ok (), begun)) :
    begun.session.recording = true := by
  rcases attachOutFileList_cases attached with rfl | ⟨path, attached⟩
  · exact recording
  · rw [(Emission.attachList_ok attached).1]
    rfl

/-! ## Whole runs -/

theorem Path.forwardSlashes_eq_self {path : String} (plain : '\\' ∉ path.toList) :
    Path.forwardSlashes path = path := by
  unfold Path.forwardSlashes
  have same : path.toList.map (fun c => if c = '\\' then '/' else c) = path.toList := by
    refine (List.map_congr_left fun c member => if_neg ?_).trans (List.map_id _)
    rintro rfl
    exact plain member
  rw [same, String.ofList_toList]

/-- In a run that succeeds, no file is listed twice in the manifest, every listed file was opened,
and every opened file is there afterwards. The manifest lists all opened files exactly if the file
that descriptors share does not differ in case alone from a file of another slot. -/
theorem manifest_exact_iff [YamlPackage] {options : Emission.SessionOptions} {base : BaseDir}
    {value : Value} {config : Config} {decls : List TypeDecl} {world after : World}
    (built : buildConfig base value = .ok config) (live : config.skipGeneration = false)
    (plain : ∀ slot : Slot, ∀ file ∈ slot.outputs config decls, '\\' ∉ file.toList)
    (free : world.files.LinkFree) (records : options.records = true)
    (ran : (freshRun options config decls).runOn world = (.ok none, after)) :
    ∃ events, after.journal = world.journal ++ events ∧
      after.session.claimed.Nodup ∧
      (∀ file ∈ after.session.claimed, file ∈ openedFiles events) ∧
      (∀ file ∈ openedFiles events, after.files.LeadsToFile file) ∧
      ((∀ file ∈ openedFiles events, file ∈ after.session.claimed) ↔
        NoCaseVariant config decls) := by
  have grounded := grounded_of_buildConfig built
  obtain ⟨events, journal, owned⟩ := owned_of_run grounded live free ran
  obtain ⟨start, begun, started, attached, performed⟩ := freshRun_ok_iff.1 ran
  rw [live] at performed
  have starts := (Emission.startSession_ok started).attach attached
  have recording :=
    recording_of_attach (Emission.recording_of_startSession records started) attached
  have linkFree := free.grows starts.grows
  have proper := proper_of_run grounded starts.ready performed
  obtain ⟨events', traces, recorded⟩ :=
    Step.records_of_performAll rfl starts.ready linkFree recording proper performed
  obtain rfl : events' = events := by
    have same := recorded.journal
    rw [starts.journal, journal] at same
    exact (List.append_cancel_left same).symm
  have asked : ∀ file ∈ openedFiles events', ∃ slot : Slot, file ∈ slot.outputs config decls :=
    fun file opened => mem_files_plan.1 (Step.mem_files_of_openedFiles traces opened)
  -- Manifest and registry both list the files that were emptied.
  have written : after.session.written = emptiedFiles events' := by
    rw [recorded.written, starts.written, List.nil_append]
  have claimed : after.session.claimed = emptiedFiles events' := by
    rw [recorded.claimed, starts.claimed, List.nil_append]
    refine (List.map_congr_left fun file member => ?_).trans (List.map_id _)
    obtain ⟨slot, output⟩ := asked file (mem_openedFiles_of_emptied member)
    exact Path.forwardSlashes_eq_self (plain slot file output)
  have nodup : ((emptiedFiles events').map caseFold).Nodup := by
    have empty : (begun.session.written.map caseFold).Nodup := by
      rw [starts.written]
      exact List.nodup_nil
    have folds := @Step.nodup_written { skip := false } (plan config decls) begun rfl empty
    rw [performed, written] at folds
    exact folds
  refine ⟨events', journal, ?_, ?_, recorded.present, ?_, ?_⟩
  · rw [claimed]
    exact nodup.of_map
  · rw [claimed]
    exact fun file => mem_openedFiles_of_emptied
  · intro complete folder name setting shared output slot ne file member fold
    have sharedOpened := mem_openedFiles_of_openedBy ((owned.opened _ _).2 output)
    have fileOpened := mem_openedFiles_of_openedBy ((owned.opened _ _).2 member)
    rw [claimed] at complete
    exact List.inj_on_of_nodup_map nodup (complete _ fileOpened) (complete _ sharedOpened) fold
  · intro unvaried file opened
    have registered := Step.registered_of_performAll rfl starts.ready linkFree proper
      (plan_founded unvaried) (fun file => by rw [starts.written]) performed file
    rw [claimed, ← written]
    exact registered.1 (Step.mem_files_of_openedFiles traces opened)

/-- Settings under which the file that descriptors share differs from a C++ header in case alone. -/
def variantSettings : Value :=
  .map [("cpp", .map [("out_folder", .str "gen")]),
    ("yaml", .map [("out_folder", .str "gen"), ("out_file", .str "Color.HPP")])]

open scoped Yaml in
theorem variantSettings_run :
    ∃ config after, buildConfig ⟨"/", "/"⟩ variantSettings = .ok config ∧
      config.skipGeneration = false ∧
      (∀ slot : Slot, ∀ file ∈ slot.outputs config [colorDecl], '\\' ∉ file.toList) ∧
      (freshRun { recordManifest := true } config [colorDecl]).runOn emptyWorld =
        (.ok none, after) ∧
      openedFiles after.journal = ["/gen/color.hpp", "/gen/Color.HPP"] ∧
      after.session.claimed = ["/gen/color.hpp"] := by
  have evaluated : ((buildConfig ⟨"/", "/"⟩ variantSettings).toOption.any fun config =>
      !config.skipGeneration &&
        (Slot.all.all fun slot => (slot.outputs config [colorDecl]).all fun file =>
          !file.toList.contains '\\') &&
        let run := (freshRun { recordManifest := true } config [colorDecl]).runOn emptyWorld
        run.1.toOption.any (·.isNone) &&
          openedFiles run.2.journal == ["/gen/color.hpp", "/gen/Color.HPP"] &&
          run.2.session.claimed == ["/gen/color.hpp"]) = true := by
    decide +kernel
  cases built : buildConfig ⟨"/", "/"⟩ variantSettings with
  | error error =>
      rw [built] at evaluated
      cases evaluated
  | ok config =>
      rw [built] at evaluated
      simp only [Except.toOption, Option.any_some, Bool.and_eq_true, Bool.not_eq_true', beq_iff_eq,
        List.all_eq_true] at evaluated
      obtain ⟨⟨live, plain⟩, ⟨answer, opened⟩, claimed⟩ := evaluated
      refine ⟨config, _, rfl, live, fun slot file output backslash => ?_,
        Prod.ext (eq_ok_none_of_any answer) rfl, opened, claimed⟩
      have none := plain slot slot.mem_all file output
      rw [List.contains_iff_mem.2 backslash] at none
      cases none

open scoped Yaml in
theorem variantSettings_varied :
    ∃ config after, buildConfig ⟨"/", "/"⟩ variantSettings = .ok config ∧
      config.skipGeneration = false ∧ emptyWorld.files.LinkFree ∧
      (freshRun { recordManifest := true } config [colorDecl]).runOn emptyWorld =
        (.ok none, after) ∧
      after.session.claimed.Nodup ∧ after.files.LeadsToFile "/gen/Color.HPP" ∧
      ¬ NoCaseVariant config [colorDecl] := by
  obtain ⟨config, after, built, live, plain, ran, opened, claimed⟩ := variantSettings_run
  obtain ⟨events, journal, nodup, -, present, exact⟩ :=
    manifest_exact_iff built live plain emptyWorld_linkFree rfl ran
  have journal : after.journal = events := journal
  rw [journal] at opened
  refine ⟨config, after, built, live, emptyWorld_linkFree, ran, nodup,
    present _ (by simp [opened]), fun unvaried => ?_⟩
  have listed := exact.2 unvaried "/gen/Color.HPP" (by simp [opened])
  simp [claimed] at listed

open scoped Yaml in
/-- A run that succeeds adds to a file that its manifest does not list: the header of an enum is
registered, and the file that descriptors share differs from it in case alone. -/
theorem variant_not_listed :
    ∃ config after, buildConfig ⟨"/", "/"⟩ variantSettings = .ok config ∧
      config.skipGeneration = false ∧
      (∀ slot : Slot, ∀ file ∈ slot.outputs config [colorDecl], '\\' ∉ file.toList) ∧
      emptyWorld.files.LinkFree ∧
      (freshRun { recordManifest := true } config [colorDecl]).runOn emptyWorld =
        (.ok none, after) ∧
      ∃ file, file ∈ openedFiles after.journal ∧ file ∉ after.session.claimed := by
  obtain ⟨config, after, built, live, plain, ran, opened, claimed⟩ := variantSettings_run
  exact ⟨config, after, built, live, plain, emptyWorld_linkFree, ran, "/gen/Color.HPP",
    by simp [opened], by simp [claimed]⟩

end BridgeCode
