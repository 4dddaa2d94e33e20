import BridgeCode.Proofs.Emit.Manifest

/-!
Calls to an emitter, one after the other in one session.

* `World.Extends`: what every call keeps. Registered paths, claims and events stay in front of new
  ones, the sinks stay, and the disk grows.
* `World.Quiet`: a call that opens no output file. It keeps every text besides.
* `World.Writes`: an output file is opened and written.
* `Call.perform_effect`: in a session that is ready, a call is quiet, or adds to a file, or creates
  a file whose canonical path was free. There is no fourth case, and a failure is no case of its
  own.
-/

namespace BridgeCode

/-- A call to an emitter. -/
inductive Call where
  | createFile (folder fileName : String) (body : Writing Unit)
  | createFileOnce (folder fileName : String) (body : Writing Unit)
  | appendToFile (folder fileName : String) (body : Writing Unit)
  | createFolder (label folder : String)

/-- Makes a call. -/
def Call.perform (emitter : Emitter) : Call → Emission Unit
  | .createFile folder fileName body => discard (emitter.createFile folder fileName body)
  | .createFileOnce folder fileName body => discard (emitter.createFileOnce folder fileName body)
  | .appendToFile folder fileName body => discard (emitter.appendToFile folder fileName body)
  | .createFolder label folder => emitter.createFolder label folder

theorem Session.clash?_ne_none_of_mem {session : Session} {canonical : String}
    (member : canonical ∈ session.written) : session.clash? canonical ≠ none :=
  fun free => absurd BEq.rfl (List.find?_eq_none.1 free canonical member)

namespace World

/-! ## What calls keep -/

/-- Before and after calls. -/
structure Extends (world after : World) : Prop where
  written : world.session.written <+: after.session.written
  claimed : world.session.claimed <+: after.session.claimed
  sinks : after.session.sinks = world.session.sinks
  recording : after.session.recording = world.session.recording
  journal : world.journal <+: after.journal
  grows : world.files.Grows after.files

theorem Extends.refl (world : World) : world.Extends world :=
  ⟨List.prefix_refl _, List.prefix_refl _, rfl, rfl, List.prefix_refl _, .refl _⟩

theorem Extends.trans (a b c : World) (first : a.Extends b) (second : b.Extends c) :
    a.Extends c where
  written := first.written.trans second.written
  claimed := first.claimed.trans second.claimed
  sinks := second.sinks.trans first.sinks
  recording := second.recording.trans first.recording
  journal := first.journal.trans second.journal
  grows := first.grows.trans second.grows

theorem Extends.ready {world after : World} (extended : world.Extends after)
    (ready : world.Ready) : after.Ready :=
  ready.of_grows extended.sinks extended.grows

/-- A path that is not in the registry was not in it before. -/
theorem Extends.clash?_eq_none {world after : World} (extended : world.Extends after)
    {canonical : String} (free : after.session.clash? canonical = none) :
    world.session.clash? canonical = none := by
  obtain ⟨more, eq⟩ := extended.written
  rw [Session.clash?, ← eq, List.find?_append, Option.or_eq_none_iff] at free
  exact free.1

/-- Before and after calls that open no output file. -/
structure Quiet (world after : World) : Prop extends Extends world after where
  unopened : after.journal = world.journal
  keeps : ∀ place, FileSystem.Keeps place world.files after.files

theorem Quiet.refl (world : World) : world.Quiet world :=
  ⟨.refl world, rfl, fun place => .refl place _⟩

theorem Quiet.trans {a b c : World} (first : a.Quiet b) (second : b.Quiet c) : a.Quiet c :=
  ⟨.trans a b c first.toExtends second.toExtends, second.unopened.trans first.unopened,
    fun place => (first.keeps place).trans (second.keeps place)⟩

theorem Quiet.enter (world : World) (canonical : String) : world.Quiet (world.enter canonical) where
  written := List.prefix_append _ _
  claimed := List.prefix_refl _
  sinks := rfl
  recording := rfl
  journal := List.prefix_refl _
  grows := .refl _
  unopened := rfl
  keeps place := .refl place _

/-- Before and after an output file is opened and written. -/
def Writes (mode : OpenMode) (file : String) (place : Location) (world after : World) : Prop :=
  ∃ files text, world.files.openFile mode file = .ok (files, place) ∧
    after = { world with
      files := files.appendAt place text
      journal := world.journal ++ [.opened mode file place] }

section Writes

variable {mode : OpenMode} {file : String} {place : Location} {world after : World}

theorem Writes.session_eq (writes : Writes mode file place world after) :
    after.session = world.session := by
  obtain ⟨files, text, -, rfl⟩ := writes
  rfl

theorem Writes.journal_eq (writes : Writes mode file place world after) :
    after.journal = world.journal ++ [.opened mode file place] := by
  obtain ⟨files, text, -, rfl⟩ := writes
  rfl

theorem Writes.grows (writes : Writes mode file place world after) :
    world.files.Grows after.files := by
  obtain ⟨files, text, opened, rfl⟩ := writes
  exact (FileSystem.openFile_grows opened).trans (FileSystem.appendAt_grows files place text)

theorem Writes.extends (writes : Writes mode file place world after) : world.Extends after := by
  obtain ⟨files, text, -, rfl⟩ := id writes
  exact ⟨List.prefix_refl _, List.prefix_refl _, rfl, rfl, List.prefix_append _ _, writes.grows⟩

/-- Only the file that is emptied loses text. -/
theorem Writes.keeps (writes : Writes mode file place world after) {other : Location}
    (spared : mode = .append ∨ other ≠ place) :
    FileSystem.Keeps other world.files after.files := by
  obtain ⟨files, text, opened, rfl⟩ := writes
  exact (FileSystem.openFile_keeps opened spared).trans
    (FileSystem.appendAt_keeps files place other text)

/-- The path leads to the file that was opened, and goes on doing so. -/
theorem Writes.leadsToFile (writes : Writes mode file place world after) :
    after.files.LeadsToFile file := by
  obtain ⟨files, text, opened, rfl⟩ := writes
  exact (FileSystem.openFile_leadsToFile opened).grows (FileSystem.appendAt_grows files place text)

theorem Writes.isFile (writes : Writes mode file place world after) {later : FileSystem}
    (grows : after.files.Grows later) : ∃ content, later.node? place = some (.file content) := by
  obtain ⟨files, text, opened, rfl⟩ := writes
  obtain ⟨content, standing⟩ := FileSystem.openFile_isFile opened
  obtain ⟨content, standing⟩ := (FileSystem.appendAt_grows files place text).file standing
  exact grows.file standing

theorem Writes.located (writes : Writes mode file place world after) {later : FileSystem}
    (grows : after.files.Grows later) : later.locate file = .found place := by
  obtain ⟨files, text, opened, rfl⟩ := writes
  exact FileSystem.Grows.locate_opened opened
    ((FileSystem.appendAt_grows files place text).trans grows)

end Writes

end World

/-! ## What calls do -/

theorem Emission.Claims.quiet {entry : String} {world after : World}
    (claims : Emission.Claims entry world after) : world.Quiet after where
  written := claims.written ▸ List.prefix_refl _
  claimed := by
    rw [claims.session]
    unfold Emission.claimedWith
    split
    · exact List.prefix_append _ _
    · exact List.prefix_refl _
  sinks := by rw [claims.session]
  recording := by rw [claims.session]
  journal := claims.journal ▸ List.prefix_refl _
  grows := claims.grows
  unopened := claims.journal
  keeps := claims.keeps

namespace Emitter

open Emission

variable {emitter : Emitter} {mode : OpenMode} {file folder fileName : String}
  {body : Writing Unit} {world : World}

theorem claim_quiet (entry : String) (world : World) :
    world.Quiet ((claim entry).runOn world).2 :=
  (claim_moves entry world).quiet

/-- A file that cannot be opened changes nothing; one that can is written. -/
theorem writeTo_effect (emitter : Emitter) (mode : OpenMode) (file : String)
    (body : Writing Unit) (world : World) :
    (∃ fault, (emitter.writeTo mode file body).runOn world = (.error fault, world)) ∨
      ∃ place, world.Writes mode file place ((emitter.writeTo mode file body).runOn world).2 := by
  cases opened : world.files.openFile mode file with
  | error error =>
      rw [runOn_writeTo_refused opened]
      exact .inl ⟨_, rfl⟩
  | ok result =>
      obtain ⟨files, place⟩ := result
      rw [runOn_writeTo_opened opened]
      exact .inr ⟨place, files, emitter.bodyText body, opened, rfl⟩

theorem writeTo_session (emitter : Emitter) (mode : OpenMode) (file : String)
    (body : Writing Unit) (world : World) :
    ((emitter.writeTo mode file body).runOn world).2.session = world.session := by
  rcases writeTo_effect emitter mode file body world with ⟨fault, refused⟩ | ⟨place, writes⟩
  · rw [refused]
  · exact writes.session_eq

theorem createFolder_quiet (live : emitter.skip = false) (label folder : String) (world : World) :
    world.Quiet ((emitter.createFolder label folder).runOn world).2 := by
  obtain ⟨cause, printed, ran⟩ :=
    @runOn_createFolder emitter folder world label live
  rw [ran]
  have grows := FileSystem.makeFolders_grows world.files folder
  exact ⟨⟨List.prefix_refl _, List.prefix_refl _, rfl, rfl, List.prefix_refl _, grows⟩, rfl,
    fun place => .of_standing fun node standing => FileSystem.makeFolders_node? standing _⟩

/-- What stands before a file is created: its path was claimed, and its canonical path was free and
is registered now. -/
structure Prepares (file : String) (world before : World) : Prop
    extends World.Quiet world before where
  fresh : world.session.clash? (world.files.canonicalPath file) = none
  entered : before.session.written =
    world.session.written ++ [world.files.canonicalPath file]
  alike : world.files.Alike before.files

/-- A file is created: prepared and then written. -/
def Creates (file : String) (world after : World) : Prop :=
  ∃ before place, Prepares file world before ∧ before.Writes .truncate file place after

/-- A call to create a file fails without opening one, or creates the file. -/
theorem createFile_effect (live : emitter.skip = false) (ready : world.Ready) :
    (∃ fault after, (emitter.createFile folder fileName body).runOn world = (.error fault, after) ∧
        world.Quiet after) ∨
      Creates (Path.join [folder, fileName]) world
        ((emitter.createFile folder fileName body).runOn world).2 := by
  obtain ⟨middle, claimed, alike⟩ :=
    claim_ok ready (Path.forwardSlashes (Path.join [folder, fileName]))
  have claims := claim_moves (Path.forwardSlashes (Path.join [folder, fileName])) world
  rw [claimed] at claims
  have written : middle.session.written = world.session.written := by rw [claims.session]
  have canonical := alike.canonicalPath_eq (Path.join [folder, fileName])
  cases clash :
    middle.session.clash? (middle.files.canonicalPath (Path.join [folder, fileName])) with
  | some existing =>
      rw [runOn_createFile_refused live claimed clash]
      exact .inl ⟨_, middle, rfl, claims.quiet⟩
  | none =>
      rw [runOn_createFile_fresh live claimed clash]
      have entered := claims.quiet.trans
        (.enter middle (middle.files.canonicalPath (Path.join [folder, fileName])))
      rcases writeTo_effect emitter .truncate (Path.join [folder, fileName]) body
        (middle.enter (middle.files.canonicalPath (Path.join [folder, fileName])))
        with ⟨fault, refused⟩ | ⟨place, writes⟩
      · exact .inl ⟨fault, _, refused, entered⟩
      · refine .inr ⟨_, place, ⟨entered, ?_, ?_, alike⟩, writes⟩
        · rw [Session.clash?, ← written, ← canonical]
          exact clash
        · rw [← canonical, ← written]
          rfl

theorem creates_of_ok (live : emitter.skip = false) (ready : world.Ready) {after : World}
    (ran : ((Call.createFile folder fileName body).perform emitter).runOn world = (.ok (), after)) :
    Creates (Path.join [folder, fileName]) world after := by
  rw [Call.perform, runOn_discard] at ran
  rcases createFile_effect live ready with ⟨fault, stopped, failed, -⟩ | creates
  · rw [failed] at ran
    cases ran
  · obtain rfl := congrArg Prod.snd ran
    exact creates

/-- A call to create a shared file fails or leaves the file alone without opening one, or creates
the file. -/
theorem createFileOnce_effect (live : emitter.skip = false) (ready : world.Ready) :
    (∃ result after, (emitter.createFileOnce folder fileName body).runOn world = (result, after) ∧
        world.Quiet after) ∨
      Creates (Path.join [folder, fileName]) world
        ((emitter.createFileOnce folder fileName body).runOn world).2 := by
  cases clash : world.session.clash? (world.files.canonicalPath (Path.join [folder, fileName])) with
  | some existing =>
      rw [runOn_createFileOnce_again clash]
      exact .inl ⟨_, world, rfl, .refl world⟩
  | none =>
      rw [runOn_createFileOnce_first live clash]
      have entered := World.Quiet.enter world
        (world.files.canonicalPath (Path.join [folder, fileName]))
      have readied := entered.toExtends.ready ready
      obtain ⟨middle, claimed, alike⟩ :=
        claim_ok readied (Path.forwardSlashes (Path.join [folder, fileName]))
      have claims := claim_moves (Path.forwardSlashes (Path.join [folder, fileName]))
        (world.enter (world.files.canonicalPath (Path.join [folder, fileName])))
      rw [claimed] at claims
      rw [runOn_bind_ok claimed]
      rcases writeTo_effect emitter .truncate (Path.join [folder, fileName]) body middle
        with ⟨fault, refused⟩ | ⟨place, writes⟩
      · exact .inl ⟨_, middle, refused, entered.trans claims.quiet⟩
      · refine .inr ⟨middle, place, ⟨entered.trans claims.quiet, clash, ?_, alike⟩, writes⟩
        rw [claims.session]
        rfl

/-- A call for a shared file that succeeds finds the path registered and changes nothing, or claims
the path and creates the file. -/
theorem createFileOnce_ok (live : emitter.skip = false) (ready : world.Ready) {after : World}
    (ran : ((Call.createFileOnce folder fileName body).perform emitter).runOn world =
      (.ok (), after)) :
    (∃ existing, world.session.clash? (world.files.canonicalPath (Path.join [folder, fileName])) =
        some existing ∧ after = world) ∨
      Creates (Path.join [folder, fileName]) world after ∧
        after.session.claimed = claimedWith world.session
          (Path.forwardSlashes (Path.join [folder, fileName])) := by
  rw [Call.perform, runOn_discard] at ran
  cases clash : world.session.clash? (world.files.canonicalPath (Path.join [folder, fileName])) with
  | some existing =>
      rw [runOn_createFileOnce_again clash] at ran
      cases ran
      exact .inl ⟨existing, rfl, rfl⟩
  | none =>
      rw [runOn_createFileOnce_first live clash] at ran
      have entered := World.Quiet.enter world
        (world.files.canonicalPath (Path.join [folder, fileName]))
      have readied := entered.toExtends.ready ready
      obtain ⟨middle, claimed, alike⟩ :=
        claim_ok readied (Path.forwardSlashes (Path.join [folder, fileName]))
      have claims := claim_moves (Path.forwardSlashes (Path.join [folder, fileName]))
        (world.enter (world.files.canonicalPath (Path.join [folder, fileName])))
      rw [claimed] at claims
      rw [runOn_bind_ok claimed] at ran
      rcases writeTo_effect emitter .truncate (Path.join [folder, fileName]) body middle
        with ⟨fault, refused⟩ | ⟨place, writes⟩
      · rw [refused] at ran
        cases ran
      · obtain rfl := congrArg Prod.snd ran
        refine .inr ⟨⟨middle, place, ⟨entered.trans claims.quiet, clash, ?_, alike⟩, writes⟩, ?_⟩
        · rw [claims.session]
          rfl
        · rw [writes.session_eq, claims.session]
          rfl

end Emitter

namespace Call

variable {emitter : Emitter} {world : World}

/-- What a call to an emitter that is no dry run does, whether or not it fails. -/
theorem perform_effect (live : emitter.skip = false) (call : Call) (ready : world.Ready) :
    world.Quiet ((call.perform emitter).runOn world).2 ∨
      (∃ file place, world.Writes .append file place ((call.perform emitter).runOn world).2) ∨
      ∃ folder fileName before place, Emitter.Prepares (Path.join [folder, fileName]) world before ∧
        before.Writes .truncate (Path.join [folder, fileName]) place
          ((call.perform emitter).runOn world).2 := by
  cases call with
  | createFile folder fileName body =>
      rw [perform, Emission.runOn_discard]
      rcases Emitter.createFile_effect live ready with
        ⟨fault, after, ran, quiet⟩ | ⟨before, place, prepares, writes⟩
      · rw [ran]
        exact .inl quiet
      · exact .inr (.inr ⟨folder, fileName, before, place, prepares, writes⟩)
  | createFileOnce folder fileName body =>
      rw [perform, Emission.runOn_discard]
      rcases Emitter.createFileOnce_effect live ready with
        ⟨result, after, ran, quiet⟩ | ⟨before, place, prepares, writes⟩
      · rw [ran]
        exact .inl quiet
      · exact .inr (.inr ⟨folder, fileName, before, place, prepares, writes⟩)
  | appendToFile folder fileName body =>
      rw [perform, Emission.runOn_discard, Emitter.runOn_appendToFile live]
      rcases Emitter.writeTo_effect emitter .append (Path.join [folder, fileName]) body world
        with ⟨fault, refused⟩ | ⟨place, writes⟩
      · rw [refused]
        exact .inl (.refl world)
      · exact .inr (.inl ⟨_, place, writes⟩)
  | createFolder label folder =>
      exact .inl (Emitter.createFolder_quiet live label folder world)

/-- A dry run of a call at most registers a path and claims one. -/
theorem moves_of_dry {R : World → World → Prop} (refl : ∀ world, R world world)
    (trans : ∀ a b c, R a b → R b c → R a c)
    (enters : ∀ world canonical, R world (world.enter canonical))
    (claims : ∀ entry, Emission.Moves R (Emission.claim entry)) (dry : emitter.skip = true)
    (call : Call) : Emission.Moves R (call.perform emitter) := by
  intro world
  cases call with
  | createFile folder fileName body =>
      rw [perform, Emission.runOn_discard]
      have moved := claims (Path.forwardSlashes (Path.join [folder, fileName])) world
      rcases claimed : (Emission.claim (Path.forwardSlashes (Path.join [folder, fileName]))).runOn
        world with ⟨fault | _, after⟩
      · rw [Emitter.runOn_createFile_unclaimed claimed]
        rw [claimed] at moved
        exact moved
      · rw [Emitter.runOn_createFile_dry dry claimed]
        rw [claimed] at moved
        exact moved
  | createFileOnce folder fileName body =>
      rw [perform, Emission.runOn_discard]
      cases clash : world.session.clash? (world.files.canonicalPath (Path.join [folder, fileName]))
        with
      | some existing =>
          rw [Emitter.runOn_createFileOnce_again clash]
          exact refl world
      | none =>
          rw [Emitter.runOn_createFileOnce_dry dry clash]
          have entered := enters world
            (world.files.canonicalPath (Path.join [folder, fileName]))
          have moved : Emission.Moves R
              (Emission.claim (Path.forwardSlashes (Path.join [folder, fileName])) >>= fun _ =>
                (pure false : Emission Bool)) :=
            .bind trans (claims _) fun _ => .pure refl false
          exact trans _ _ _ entered (moved _)
  | appendToFile folder fileName body =>
      rw [perform, Emission.runOn_discard, Emitter.runOn_appendToFile_dry dry]
      exact refl world
  | createFolder label folder =>
      rw [perform, Emitter.runOn_createFolder_dry dry]
      exact refl world

/-- In a dry run no output file is opened. -/
theorem perform_quiet_of_dry (dry : emitter.skip = true) (call : Call) (world : World) :
    world.Quiet ((call.perform emitter).runOn world).2 :=
  moves_of_dry .refl (fun _ _ _ => .trans) .enter Emitter.claim_quiet dry call world

theorem perform_extends (emitter : Emitter) (call : Call) (ready : world.Ready) :
    world.Extends ((call.perform emitter).runOn world).2 := by
  cases mode : emitter.skip with
  | true => exact (call.perform_quiet_of_dry mode world).toExtends
  | false =>
      rcases call.perform_effect mode ready with
        quiet | ⟨file, place, writes⟩ | ⟨folder, fileName, before, place, prepares, writes⟩
      · exact quiet.toExtends
      · exact writes.extends
      · exact .trans _ before _ prepares.toExtends writes.extends

/-! ## Calls in a row -/

/-- The world after a call, whatever comes of it. -/
def after (emitter : Emitter) (world : World) (call : Call) : World :=
  ((call.perform emitter).runOn world).2

/-- The world after calls. -/
def afterAll (emitter : Emitter) (world : World) (calls : List Call) : World :=
  calls.foldl (after emitter) world

theorem afterAll_extends (emitter : Emitter) (calls : List Call) (ready : world.Ready) :
    world.Extends (afterAll emitter world calls) := by
  induction calls generalizing world with
  | nil => exact .refl world
  | cons call calls ih =>
      have first := call.perform_extends emitter ready
      exact .trans _ _ _ first (ih (first.ready ready))

end Call

end BridgeCode
