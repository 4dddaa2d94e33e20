import BridgeCode.Proofs.FileSystem.Retrace
import BridgeCode.Proofs.Run.Manifest

/-!
Generating again.

A run that succeeded is made once more, on the disk that it left. The second run takes the same
steps, and `World.Retraces` says how far its world agrees with that of the first run after each of
them: the sessions are the same, and so are the texts of all files that were emptied since the
start. The rest of the disk is as the first run left it.

* `Step.performAll_again`: the steps of a run succeed again. Files are added to only after they were
  emptied, which the plan sees to (`plan_founded`).
* `regeneration_idempotent`: a second run succeeds and leaves the disk as it was.
-/

namespace BridgeCode

/-- The world of a first run on its way to the disk `last`, and the world of a second run that
started from `last`. The paths `made` lead to files that both runs have emptied; lists of paths are
among them. -/
structure World.Retraces (made : List String) (last : FileSystem) (world again : World) : Prop where
  files : FileSystem.Retraces made last world.files again.files
  session : again.session = world.session
  lists : ∀ path, .file path ∈ world.session.sinks → path ∈ made

/-- An action that led to `after` leads the second run to a world that agrees with it. -/
def Emission.Repeats {α : Type} (made : List String) (last : FileSystem) (action : Emission α)
    (value : α) (after again : World) : Prop :=
  ∃ again', action.runOn again = (.ok value, again') ∧ after.Retraces made last again'

variable {made : List String} {last : FileSystem} {world after again : World}

namespace World.Retraces

theorem ready (retraces : world.Retraces made last again) : world.Ready :=
  fun path attached => retraces.files.there path (retraces.lists path attached)

/-- Both sessions are changed in the same way. -/
theorem changeSession (retraces : world.Retraces made last again) (change : Session → Session)
    (sinks : (change world.session).sinks = world.session.sinks) :
    World.Retraces made last { world with session := change world.session }
      { again with session := change again.session } := by
  refine ⟨retraces.files, congrArg change retraces.session, fun path attached => ?_⟩
  rw [sinks] at attached
  exact retraces.lists path attached

theorem enter (retraces : world.Retraces made last again) (canonical : String) :
    (world.enter canonical).Retraces made last (again.enter canonical) :=
  retraces.changeSession
    (fun session => { session with written := session.written ++ [canonical] }) rfl

theorem cons_of_mem (retraces : world.Retraces made last again) {file : String}
    (member : file ∈ made) : world.Retraces (file :: made) last again :=
  ⟨(FileSystem.Retraces.cons_iff member).2 retraces.files, retraces.session,
    fun path attached => List.mem_cons_of_mem _ (retraces.lists path attached)⟩

/-- Without links, files have the same canonical paths in both runs. -/
theorem canonicalPath_eq (retraces : world.Retraces made last again) (free : world.files.LinkFree)
    {file : String} (rooted : Step.Rooted file) :
    again.files.canonicalPath file = world.files.canonicalPath file := by
  obtain ⟨folder, name, absolute, rfl⟩ := rooted
  have starts := Path.isAbsolute_join absolute name
  rw [(retraces.files.linkFree free).canonicalPath_absolute starts,
    free.canonicalPath_absolute starts]

end World.Retraces

/-! ## Claims -/

namespace Emission

theorem runOn_discard_ok {α : Type} {action : Emission α}
    (ran : (discard action).runOn world = (.ok (), after)) :
    ∃ value, action.runOn world = (.ok value, after) := by
  rw [runOn_discard] at ran
  rcases done : action.runOn world with ⟨fault | value, stopped⟩
  · rw [done] at ran
    cases ran
  · rw [done] at ran
    cases ran
    exact ⟨value, rfl⟩

theorem Repeats.discard {α : Type} {action : Emission α} {value : α}
    (repeats : Repeats made last action value after again) :
    Repeats made last (discard action) () after again := by
  obtain ⟨again', ran, retraces⟩ := repeats
  refine ⟨again', ?_, retraces⟩
  rw [runOn_discard, ran]
  rfl

theorem forM_report_again {entry : String} {sinks : List ManifestSink}
    (attached : ∀ path, .file path ∈ sinks → path ∈ made)
    (retraces : world.Retraces made last again)
    (ran : (sinks.forM (report entry)).runOn world = (.ok (), after))
    (grows : after.files.Grows last) :
    Repeats made last (sinks.forM (report entry)) () after again := by
  unfold Repeats
  induction sinks generalizing world again with
  | nil =>
      cases ran
      exact ⟨again, rfl, retraces⟩
  | cons sink sinks ih =>
      have others : ∀ path, .file path ∈ sinks → path ∈ made :=
        fun path member => attached path (List.mem_cons_of_mem _ member)
      rw [runOn_forM_cons] at ran ⊢
      cases sink with
      | pipe =>
          refine ih others (retraces.changeSession
            (fun session => { session with piped := session.piped ++ [entry] }) rfl) ran
      | file path =>
          cases opened : world.files.openFile .append path with
          | error error =>
              rw [report, runOn_addToList_refused opened] at ran
              cases ran
          | ok result =>
              obtain ⟨files, place⟩ := result
              rw [report, runOn_addToList_opened opened] at ran
              dsimp only at ran
              have reported := Moves.forM (.refl sinks) World.Reported.trans
                (fun sink attached => report_moves attached entry)
                { world with files := files.appendAt place (entry ++ "\n") }
              rw [ran] at reported
              -- The list was opened when it was attached, so both runs have emptied it.
              have member := attached path List.mem_cons_self
              obtain ⟨opened', files'⟩ :=
                retraces.files.write (fun _ => member) opened (reported.grows.trans grows)
              rw [report, runOn_addToList_opened opened']
              rw [FileSystem.Retraces.cons_iff member] at files'
              have next : World.Retraces made last
                  { world with files := files.appendAt place (entry ++ "\n") }
                  { again with files := again.files.appendAt place (entry ++ "\n") } :=
                ⟨files', retraces.session, retraces.lists⟩
              exact ih others next ran

/-- A claim adds the same line to the same lists. -/
theorem claim_again {entry : String} (retraces : world.Retraces made last again)
    (ran : (claim entry).runOn world = (.ok (), after)) (grows : after.files.Grows last) :
    Repeats made last (claim entry) () after again := by
  unfold Repeats
  have same := retraces.session
  cases recording : world.session.recording with
  | false =>
      rw [runOn_claim_off recording] at ran
      cases ran
      rw [← same] at recording
      exact ⟨again, runOn_claim_off recording, retraces⟩
  | true =>
      rw [runOn_claim_on recording] at ran
      rw [← same] at recording
      rw [runOn_claim_on recording, same]
      have claimed := retraces.changeSession
        (fun session => { session with claimed := session.claimed ++ [entry] }) rfl
      rw [same] at claimed
      exact forM_report_again retraces.lists claimed ran grows

end Emission

/-! ## Calls -/

namespace Emitter

open Emission

variable {emitter : Emitter} {folder fileName : String} {body : Writing Unit}

theorem writeTo_grows (emitter : Emitter) (mode : OpenMode) (file : String) (body : Writing Unit)
    (world : World) :
    world.files.Grows ((emitter.writeTo mode file body).runOn world).2.files := by
  rcases writeTo_effect emitter mode file body world with ⟨fault, refused⟩ | ⟨place, writes⟩
  · rw [refused]
    exact .refl _
  · exact writes.grows

/-- A file that was written is written again, if it is emptied first or was emptied before. -/
theorem writeTo_again {mode : OpenMode} {file : String} {value : Bool}
    (retraces : world.Retraces made last again) (founded : mode = .append → file ∈ made)
    (ran : (emitter.writeTo mode file body).runOn world = (.ok value, after))
    (grows : after.files.Grows last) :
    Repeats (file :: made) last (emitter.writeTo mode file body) value after again := by
  cases opened : world.files.openFile mode file with
  | error error =>
      rw [runOn_writeTo_refused opened] at ran
      cases ran
  | ok result =>
      obtain ⟨files, place⟩ := result
      rw [runOn_writeTo_opened opened] at ran
      obtain ⟨finished, rfl⟩ := Prod.mk.inj ran
      obtain ⟨opened', files'⟩ := retraces.files.write founded opened grows
      refine ⟨_, (runOn_writeTo_opened opened').trans (congrArg (·, _) finished), files',
        retraces.session, fun path attached => ?_⟩
      exact List.mem_cons_of_mem _ (retraces.lists path attached)

theorem createFile_again {value : Bool} (live : emitter.skip = false)
    (retraces : world.Retraces made last again) (free : world.files.LinkFree)
    (rooted : Step.Rooted (Path.join [folder, fileName]))
    (ran : (emitter.createFile folder fileName body).runOn world = (.ok value, after))
    (grows : after.files.Grows last) :
    Repeats (Path.join [folder, fileName] :: made) last (emitter.createFile folder fileName body)
      value after again := by
  have claims := claim_moves (Path.forwardSlashes (Path.join [folder, fileName])) world
  rcases claimed : (claim (Path.forwardSlashes (Path.join [folder, fileName]))).runOn world with
    ⟨fault | _, middle⟩
  · rw [runOn_createFile_unclaimed claimed] at ran
    cases ran
  rw [claimed] at claims
  cases clash :
    middle.session.clash? (middle.files.canonicalPath (Path.join [folder, fileName])) with
  | some existing =>
      rw [runOn_createFile_refused live claimed clash] at ran
      cases ran
  | none =>
      rw [runOn_createFile_fresh live claimed clash] at ran
      have written := writeTo_grows emitter .truncate (Path.join [folder, fileName]) body
        (middle.enter (middle.files.canonicalPath (Path.join [folder, fileName])))
      rw [ran] at written
      obtain ⟨middle', claimed', retraces'⟩ := claim_again retraces claimed (written.trans grows)
      -- The registry takes the same decision, since the canonical path is the same.
      have canonical := retraces'.canonicalPath_eq (free.grows claims.grows) rooted
      have clash' :
          middle'.session.clash? (middle'.files.canonicalPath (Path.join [folder, fileName])) =
            none := by
        rw [retraces'.session, canonical]
        exact clash
      obtain ⟨again', wrote, retraces''⟩ := writeTo_again (retraces'.enter _) (by simp) ran grows
      refine ⟨again', ?_, retraces''⟩
      rw [runOn_createFile_fresh live claimed' clash', canonical]
      exact wrote

/-- A shared file is created again, or left alone again; what was left alone was emptied before. -/
theorem createFileOnce_again {value : Bool} (live : emitter.skip = false)
    (retraces : world.Retraces made last again) (free : world.files.LinkFree)
    (rooted : Step.Rooted (Path.join [folder, fileName]))
    (known : ∀ existing,
      world.session.clash? (world.files.canonicalPath (Path.join [folder, fileName])) =
        some existing → Path.join [folder, fileName] ∈ made)
    (ran : (emitter.createFileOnce folder fileName body).runOn world = (.ok value, after))
    (grows : after.files.Grows last) :
    Repeats (Path.join [folder, fileName] :: made) last
      (emitter.createFileOnce folder fileName body) value after again := by
  have canonical := retraces.canonicalPath_eq free rooted
  cases clash : world.session.clash? (world.files.canonicalPath (Path.join [folder, fileName])) with
  | some existing =>
      rw [runOn_createFileOnce_again clash] at ran
      cases ran
      rw [← canonical, ← retraces.session] at clash
      refine ⟨again, runOn_createFileOnce_again clash, retraces.cons_of_mem ?_⟩
      rw [canonical, retraces.session] at clash
      exact known existing clash
  | none =>
      rw [runOn_createFileOnce_first live clash] at ran
      rw [← canonical, ← retraces.session] at clash
      unfold Repeats
      rw [runOn_createFileOnce_first live clash, canonical]
      rcases claimed : (claim (Path.forwardSlashes (Path.join [folder, fileName]))).runOn
        (world.enter (world.files.canonicalPath (Path.join [folder, fileName]))) with
        ⟨fault | _, middle⟩
      · rw [runOn_bind_error claimed] at ran
        cases ran
      rw [runOn_bind_ok claimed] at ran
      have written := writeTo_grows emitter .truncate (Path.join [folder, fileName]) body middle
      rw [ran] at written
      obtain ⟨middle', claimed', retraces'⟩ :=
        claim_again (retraces.enter _) claimed (written.trans grows)
      rw [runOn_bind_ok claimed']
      exact writeTo_again retraces' (by simp) ran grows

theorem createFile_again_dry {value : Bool} (dry : emitter.skip = true)
    (retraces : world.Retraces made last again)
    (ran : (emitter.createFile folder fileName body).runOn world = (.ok value, after))
    (grows : after.files.Grows last) :
    Repeats made last (emitter.createFile folder fileName body) value after again := by
  rcases claimed : (claim (Path.forwardSlashes (Path.join [folder, fileName]))).runOn world with
    ⟨fault | _, middle⟩
  · rw [runOn_createFile_unclaimed claimed] at ran
    cases ran
  rw [runOn_createFile_dry dry claimed] at ran
  cases ran
  obtain ⟨again', claimed', retraces'⟩ := claim_again retraces claimed grows
  exact ⟨again', runOn_createFile_dry dry claimed', retraces'⟩

theorem createFileOnce_again_dry {value : Bool} (dry : emitter.skip = true)
    (retraces : world.Retraces made last again) (free : world.files.LinkFree)
    (rooted : Step.Rooted (Path.join [folder, fileName]))
    (ran : (emitter.createFileOnce folder fileName body).runOn world = (.ok value, after))
    (grows : after.files.Grows last) :
    Repeats made last (emitter.createFileOnce folder fileName body) value after again := by
  have canonical := retraces.canonicalPath_eq free rooted
  cases clash : world.session.clash? (world.files.canonicalPath (Path.join [folder, fileName])) with
  | some existing =>
      rw [runOn_createFileOnce_again clash] at ran
      cases ran
      rw [← canonical, ← retraces.session] at clash
      exact ⟨again, runOn_createFileOnce_again clash, retraces⟩
  | none =>
      rw [runOn_createFileOnce_dry dry clash] at ran
      rw [← canonical, ← retraces.session] at clash
      unfold Repeats
      rw [runOn_createFileOnce_dry dry clash, canonical]
      rcases claimed : (claim (Path.forwardSlashes (Path.join [folder, fileName]))).runOn
        (world.enter (world.files.canonicalPath (Path.join [folder, fileName]))) with
        ⟨fault | _, middle⟩
      · rw [runOn_bind_error claimed] at ran
        cases ran
      rw [runOn_bind_ok claimed] at ran
      cases ran
      obtain ⟨again', claimed', retraces'⟩ := claim_again (retraces.enter _) claimed grows
      exact ⟨again', runOn_bind_ok claimed' _, retraces'⟩

theorem createFolder_again {label : String} (live : emitter.skip = false)
    (retraces : world.Retraces made last again) (free : world.files.LinkFree)
    (ran : (emitter.createFolder label folder).runOn world = (.ok (), after))
    (grows : after.files.Grows last) :
    Repeats made last (emitter.createFolder label folder) () after again := by
  obtain ⟨cause, printed, first⟩ := @runOn_createFolder emitter folder world label live
  obtain ⟨cause', printed', second⟩ := @runOn_createFolder emitter folder again label live
  rw [first] at ran
  obtain ⟨result, rfl⟩ := Prod.mk.inj ran
  rcases folders : world.files.makeFolders folder with ⟨files, refused⟩
  rw [folders] at result grows
  obtain ⟨folders', files'⟩ := retraces.files.folders free folders grows
  have isFolder : again.files.isDirectory folder = true := by
    refine (grows.trans retraces.files.alike.1).isDirectory ?_
    unfold folderResult at result
    split at result
    · assumption
    · split at result <;> cases result
  refine ⟨{ again with printed := printed' }, ?_, ?_, retraces.session, retraces.lists⟩
  · rw [second, folders', folderResult, if_pos isFolder]
  · exact files'

end Emitter

/-! ## Steps -/

namespace Step

variable {emitter : Emitter} {step : Step} {steps : List Step}

/-- Of the files `asked` for so far all are registered, and both runs have emptied them. -/
structure Backed (asked made : List String) (world : World) : Prop where
  registered : ∀ file, file ∈ asked ↔ file ∈ world.session.written
  emptied : ∀ file ∈ asked, file ∈ made

/-- A step that succeeded succeeds again. -/
theorem perform_again_live (live : emitter.skip = false)
    (retraces : world.Retraces made last again) (free : world.files.LinkFree)
    (proper : ∀ file ∈ files [step], Proper file) {asked : List String}
    (founded : step.Founded asked) (backed : Backed asked made world)
    (ran : (step.perform emitter).runOn world = (.ok (), after)) (grows : after.files.Grows last) :
    Emission.Repeats (files [step] ++ made) last (step.perform emitter) () after again := by
  cases step with
  | enter slot =>
      cases ran
      exact ⟨_, rfl, retraces.files, retraces.session, retraces.lists⟩
  | announce slot =>
      cases ran
      exact ⟨_, rfl, retraces.files, retraces.session, retraces.lists⟩
  | stop error => cases ran
  | call request =>
      cases request with
      | createFile folder fileName body =>
          obtain ⟨value, created⟩ := Emission.runOn_discard_ok ran
          have rooted := (proper _ List.mem_cons_self).rooted
          exact (Emitter.createFile_again live retraces free rooted created grows).discard
      | createFileOnce folder fileName body =>
          obtain ⟨value, created⟩ := Emission.runOn_discard_ok ran
          have isProper := proper _ List.mem_cons_self
          refine (Emitter.createFileOnce_again live retraces free isProper.rooted ?_ created
            grows).discard
          -- What is registered was asked for, so it is this very file.
          intro existing clash
          rw [isProper.canonicalPath_eq free] at clash
          have among := (backed.registered existing).2 (List.mem_of_find?_eq_some clash)
          have fold : caseFold existing = caseFold (Path.join [folder, fileName]) := by
            simpa using List.find?_some clash
          rw [← founded existing among fold]
          exact backed.emptied existing among
      | appendToFile folder fileName body =>
          obtain ⟨value, added⟩ := Emission.runOn_discard_ok ran
          rw [Emitter.runOn_appendToFile live] at added
          have member := backed.emptied _ founded
          obtain ⟨again', wrote, retraces'⟩ :=
            Emitter.writeTo_again retraces (fun _ => member) added grows
          rw [← Emitter.runOn_appendToFile live] at wrote
          exact Emission.Repeats.discard ⟨again', wrote, retraces'⟩
      | createFolder label folder => exact Emitter.createFolder_again live retraces free ran grows

/-- In a dry run paths are claimed again and nothing else happens. -/
theorem perform_again_dry (dry : emitter.skip = true) (retraces : world.Retraces made last again)
    (free : world.files.LinkFree) (rooted : ∀ file ∈ files [step], Rooted file)
    (ran : (step.perform emitter).runOn world = (.ok (), after)) (grows : after.files.Grows last) :
    Emission.Repeats made last (step.perform emitter) () after again := by
  cases step with
  | enter slot =>
      cases ran
      exact ⟨_, rfl, retraces.files, retraces.session, retraces.lists⟩
  | announce slot =>
      cases ran
      exact ⟨_, rfl, retraces.files, retraces.session, retraces.lists⟩
  | stop error => cases ran
  | call request =>
      cases request with
      | createFile folder fileName body =>
          obtain ⟨value, created⟩ := Emission.runOn_discard_ok ran
          exact (Emitter.createFile_again_dry dry retraces created grows).discard
      | createFileOnce folder fileName body =>
          obtain ⟨value, created⟩ := Emission.runOn_discard_ok ran
          exact (Emitter.createFileOnce_again_dry dry retraces free (rooted _ List.mem_cons_self)
            created grows).discard
      | appendToFile folder fileName body =>
          obtain ⟨value, added⟩ := Emission.runOn_discard_ok ran
          rw [Emitter.runOn_appendToFile_dry dry] at added
          cases added
          have skipped := @Emitter.runOn_appendToFile_dry emitter folder fileName body again dry
          exact Emission.Repeats.discard ⟨again, skipped, retraces⟩
      | createFolder label folder =>
          rw [perform, Call.perform, Emitter.runOn_createFolder_dry dry] at ran
          cases ran
          exact ⟨again, Emitter.runOn_createFolder_dry dry, retraces⟩

theorem perform_again (retraces : world.Retraces made last again) (free : world.files.LinkFree)
    (rooted : ∀ file ∈ files [step], Rooted file)
    (proper : emitter.skip = false → ∀ file ∈ files [step], Proper file) {asked : List String}
    (founded : step.Founded asked) (backed : emitter.skip = false → Backed asked made world)
    (ran : (step.perform emitter).runOn world = (.ok (), after)) (grows : after.files.Grows last) :
    ∃ made', Emission.Repeats made' last (step.perform emitter) () after again ∧
      (emitter.skip = false → Backed (asked ++ files [step]) made' after) := by
  cases mode : emitter.skip with
  | true => exact ⟨made, perform_again_dry mode retraces free rooted ran grows, nofun⟩
  | false =>
      have isProper := proper mode
      have isBacked := backed mode
      have repeats := perform_again_live mode retraces free isProper founded isBacked ran grows
      refine ⟨files [step] ++ made, repeats, fun _ => ⟨?_, ?_⟩⟩
      · exact registered_of_perform mode retraces.ready free isProper founded isBacked.registered
          ran
      · intro file member
        rcases List.mem_append.1 member with old | new
        · exact List.mem_append_right _ (isBacked.emptied file old)
        · exact List.mem_append_left _ new

/-- Founded steps that succeeded succeed again. -/
theorem performAll_again (retraces : world.Retraces made last again) (free : world.files.LinkFree)
    (rooted : ∀ file ∈ files steps, Rooted file)
    (proper : emitter.skip = false → ∀ file ∈ files steps, Proper file) {asked : List String}
    (founded : AllFounded asked steps) (backed : emitter.skip = false → Backed asked made world)
    (ran : (performAll emitter steps).runOn world = (.ok (), after))
    (grows : after.files.Grows last) :
    ∃ made', Emission.Repeats made' last (performAll emitter steps) () after again := by
  induction steps generalizing world again asked made with
  | nil =>
      cases ran
      exact ⟨made, again, rfl, retraces⟩
  | cons step steps ih =>
      obtain ⟨middle, first, rest⟩ := performAll_cons_ok ran
      rw [files_cons step steps] at rooted proper
      obtain ⟨here, there⟩ := List.forall_mem_append.1 rooted
      have reached := step.perform_extends emitter retraces.ready
      rw [first] at reached
      have left := performAll_extends emitter steps (reached.ready retraces.ready)
      rw [rest] at left
      obtain ⟨made', ⟨middle', first', retraces'⟩, backed'⟩ := perform_again retraces free here
        (fun live => (List.forall_mem_append.1 (proper live)).1) founded.1 backed first
        (left.grows.trans grows)
      obtain ⟨made'', again', rest', retraces''⟩ := ih retraces' (free.grows reached.grows) there
        (fun live => (List.forall_mem_append.1 (proper live)).2) founded.2 backed' rest
      refine ⟨made'', again', ?_, retraces''⟩
      rw [performAll_cons, Emission.runOn_bind_ok first']
      exact rest'

end Step

/-! ## Lists of paths -/

namespace Emission

/-- A list of paths is emptied again when it is attached again. -/
theorem attachList_again {path : String} (retraces : world.Retraces made last again)
    (free : world.files.LinkFree) (ran : (attachList path).runOn world = (.ok (), after))
    (grows : after.files.Grows last) :
    Repeats (path :: made) last (attachList path) () after again := by
  obtain ⟨middle, opened, rfl⟩ := attachList_ok_iff.1 ran
  obtain ⟨files, emptied, place, folders, truncated, rfl⟩ := openList_ok_iff.1 opened
  have reached := FileSystem.openFile_grows truncated
  obtain ⟨folders', files'⟩ := retraces.files.folders free folders (reached.trans grows)
  obtain ⟨truncated', files''⟩ := files'.opened (by simp) truncated grows
  have opened' := openList_ok_iff.2 ⟨_, _, place, folders', truncated', rfl⟩
  refine ⟨_, attachList_ok_iff.2 ⟨_, opened', rfl⟩, files'', ?_, fun other attached => ?_⟩
  · exact congrArg (Session.attach · (.file path)) retraces.session
  · rcases List.mem_append.1 attached with old | new
    · exact List.mem_cons_of_mem _ (retraces.lists other old)
    · cases List.mem_singleton.1 new
      exact List.mem_cons_self

theorem startSession_again {options : SessionOptions} {start second : World}
    (free : world.files.LinkFree) (ran : (startSession options).runOn world = (.ok (), start))
    (grows : start.files.Grows second.files) :
    ∃ made, Repeats made second.files (startSession options) () start second := by
  have starts := startSession_ok ran
  have retraces : World.Retraces [] second.files { world with session := options.session }
      { second with session := options.session } :=
    ⟨.start (starts.grows.trans grows), rfl, fun path attached =>
      absurd attached (options.no_list path)⟩
  unfold Repeats
  rw [runOn_startSession] at ran ⊢
  cases listed : options.manifestFile with
  | none =>
      rw [listed] at ran
      cases ran
      exact ⟨[], _, rfl, retraces⟩
  | some path =>
      rw [listed] at ran
      exact ⟨[path], attachList_again retraces free ran grows⟩

end Emission

theorem attachOutFileList_again {config : Config} (retraces : world.Retraces made last again)
    (free : world.files.LinkFree) (ran : (attachOutFileList config).runOn world = (.ok (), after))
    (grows : after.files.Grows last) :
    ∃ made', Emission.Repeats made' last (attachOutFileList config) () after again := by
  unfold Emission.Repeats
  rw [runOn_attachOutFileList] at ran ⊢
  rw [retraces.session]
  split at ran
  · cases ran
    exact ⟨made, again, rfl, retraces⟩
  · next path _ =>
      split at ran
      · next attached =>
          cases ran
          rw [if_pos attached]
          exact ⟨made, again, rfl, retraces⟩
      · next unattached =>
          rw [if_neg unattached]
          exact ⟨path :: made, Emission.attachList_again retraces free ran grows⟩

/-! ## Whole runs -/

/-- A run that succeeds leaves a disk on which the same run, in a new session, succeeds again and
changes nothing: all paths lead to the same, and all files have the same texts. -/
theorem regeneration_idempotent [YamlPackage] {options : Emission.SessionOptions} {base : BaseDir}
    {value : Value} {config : Config} {decls : List TypeDecl} {world after second : World}
    (built : buildConfig base value = .ok config) (unvaried : NoCaseVariant config decls)
    (free : world.files.LinkFree)
    (ran : (freshRun options config decls).runOn world = (.ok none, after))
    (left : second.files = after.files) :
    ∃ again, (freshRun options config decls).runOn second = (.ok none, again) ∧
      after.files.Same again.files := by
  have grounded := grounded_of_buildConfig built
  obtain ⟨start, begun, started, attached, performed⟩ := freshRun_ok_iff.1 ran
  have starts := Emission.startSession_ok started
  have begins := starts.attach attached
  have rooted : ∀ file ∈ Step.files (plan config decls), Step.Rooted file := by
    intro file member
    obtain ⟨slot, output⟩ := mem_files_plan.1 member
    exact Slot.rooted_of_output grounded output
  have proper : config.skipGeneration = false →
      ∀ file ∈ Step.files (plan config decls), Step.Proper file := by
    intro live
    rw [live] at performed
    exact proper_of_run grounded begins.ready performed
  -- The disk grew along the first run, and the second one starts where that ended.
  have attaches : start.files.Grows begun.files := by
    rcases attachOutFileList_cases attached with rfl | ⟨path, attached⟩
    · exact .refl _
    · exact (Emission.attachList_ok attached).2.1
  have performs := Step.performAll_extends { skip := config.skipGeneration } (plan config decls)
    begins.ready
  rw [performed] at performs
  obtain ⟨made, start', started', retraces⟩ := @Emission.startSession_again world options start
    second free started (left ▸ attaches.trans performs.grows)
  obtain ⟨made, begun', attached', retraces⟩ := attachOutFileList_again retraces
    (free.grows starts.grows) attached (left ▸ performs.grows)
  obtain ⟨made, again, performed', retraces⟩ := @Step.performAll_again made second.files begun after
    begun' { skip := config.skipGeneration } (plan config decls) retraces (free.grows begins.grows)
    rooted proper [] (plan_founded unvaried)
    (fun _ => ⟨fun file => by rw [begins.written], nofun⟩) performed (left ▸ .refl _)
  refine ⟨again, freshRun_ok_iff.2 ⟨start', begun', started', attached', performed'⟩, ?_⟩
  have files := retraces.files
  rw [left] at files
  exact files.finish

/-- Settings with three targets. Descriptors share a file, imports are added to a bridging header,
and output files are listed. -/
def sharingSettings : Value :=
  .map [("cpp", .map [("out_folder", .str "cpp")]),
    ("objc", .map [("out_folder", .str "objc"), ("swift_bridging_header_name", .str "bridge")]),
    ("yaml", .map [("out_folder", .str "yaml"), ("out_file", .str "all.yaml")]),
    ("list_out_files", .str "lists/files.txt")]

open scoped Yaml in
theorem sharingSettings_regenerated :
    ∃ config after second again, buildConfig ⟨"/", "/"⟩ sharingSettings = .ok config ∧
      NoCaseVariant config [colorDecl] ∧ emptyWorld.files.LinkFree ∧
      (freshRun {} config [colorDecl]).runOn emptyWorld = (.ok none, after) ∧
      second.files = after.files ∧
      (freshRun {} config [colorDecl]).runOn second = (.ok none, again) ∧
      again.files.node? ["lists", "files.txt"] =
        some (.file "/cpp/color.hpp\n/objc/Color.h\n/objc/bridge.h\n/yaml/all.yaml\n") := by
  have evaluated : ((buildConfig ⟨"/", "/"⟩ sharingSettings).toOption.any fun config =>
      config.yaml.outFolder == some "/yaml" && config.yaml.outFile == some "all.yaml" &&
        (Slot.all.all fun slot => slot == .yaml || (slot.outputs config [colorDecl]).all fun file =>
          caseFold file != caseFold "/yaml/all.yaml") &&
        let run := (freshRun {} config [colorDecl]).runOn emptyWorld
        run.1.toOption.any (·.isNone) &&
          run.2.files.node? ["lists", "files.txt"] ==
            some (.file "/cpp/color.hpp\n/objc/Color.h\n/objc/bridge.h\n/yaml/all.yaml\n")) =
        true := by
    decide +kernel
  cases built : buildConfig ⟨"/", "/"⟩ sharingSettings with
  | error error =>
      rw [built] at evaluated
      cases evaluated
  | ok config =>
      rw [built] at evaluated
      simp only [Except.toOption, Option.any_some, Bool.and_eq_true, Bool.or_eq_true, beq_iff_eq,
        List.all_eq_true, bne_iff_ne] at evaluated
      obtain ⟨⟨⟨hasFolder, hasFile⟩, apart⟩, answer, listed⟩ := evaluated
      have unvaried : NoCaseVariant config [colorDecl] := by
        intro folder name setting shared _ slot ne file output fold
        cases hasFolder.symm.trans setting
        cases hasFile.symm.trans shared
        have joined : Path.join ["/yaml", "all.yaml"] = "/yaml/all.yaml" := by decide +kernel
        rw [joined] at fold
        rcases apart slot slot.mem_all with same | differs
        · exact absurd same ne
        · exact absurd fold (differs file output)
      have ran : (freshRun {} config [colorDecl]).runOn emptyWorld =
          (.ok none, ((freshRun {} config [colorDecl]).runOn emptyWorld).2) :=
        Prod.ext (eq_ok_none_of_any answer) rfl
      obtain ⟨again, ranAgain, same⟩ :=
        regeneration_idempotent built unvaried emptyWorld_linkFree ran rfl
      exact ⟨config, _, _, again, rfl, unvaried, emptyWorld_linkFree, ran, rfl, ranAgain,
        (same.node _).trans listed⟩

end BridgeCode
