import BridgeCode.Proofs.Emit.Registry

/-!
Which files can be emptied twice in one session.

A file is registered under the canonical path that it has before it is opened. A link that leads
nowhere is followed when the file is opened, so such a file is registered under the name of the link
and stands somewhere else.

* `Truncates.unregistered`, `keeps_afterAll`: a file whose own location is registered is not emptied
  again, and its text is kept.
* `truncated_again_iff_dangles`: a file that a call emptied can be emptied again exactly if it was
  opened through a link that led nowhere and its own location is not registered. In all other cases
  its text is kept by all later calls, and a shared file is created at most once.
-/

namespace BridgeCode

/-- A call empties the file at a place, which it opens as `file`. -/
def Call.Truncates (emitter : Emitter) (world : World) (call : Call) (file : String)
    (place : Location) : Prop :=
  (call.after emitter world).journal = world.journal ++ [.opened .truncate file place]

instance (emitter : Emitter) (world : World) (call : Call) (file : String) (place : Location) :
    Decidable (call.Truncates emitter world file place) :=
  inferInstanceAs (Decidable (_ = _))

namespace Call

variable {emitter : Emitter} {world : World} {call : Call} {file : String} {place : Location}

/-- A call that empties a file has found its canonical path free. -/
theorem Truncates.prepares (truncates : call.Truncates emitter world file place)
    (live : emitter.skip = false) (ready : world.Ready) :
    ∃ folder fileName before, file = Path.join [folder, fileName] ∧
      Emitter.Prepares file world before ∧
      before.Writes .truncate file place (call.after emitter world) := by
  have noted : (call.after emitter world).journal =
      world.journal ++ [.opened .truncate file place] := truncates
  rcases call.perform_effect live ready with
    quiet | ⟨other, spot, writes⟩ | ⟨folder, fileName, before, spot, prepares, writes⟩
  · have same : (call.after emitter world).journal = world.journal := quiet.unopened
    simp [same] at noted
  · have added : (call.after emitter world).journal = _ := writes.journal_eq
    simp [added] at noted
  · have opened : (call.after emitter world).journal = _ := writes.journal_eq
    rw [prepares.unopened, noted] at opened
    obtain ⟨rfl, rfl⟩ : file = Path.join [folder, fileName] ∧ place = spot := by
      simpa using opened
    exact ⟨folder, fileName, before, rfl, prepares, writes⟩

/-- A path that leads to a place has it for its canonical path. -/
theorem canonicalPath_of_located {fs : FileSystem} (cwd : fs.HasCwd) {folder fileName : String}
    (noSlash : Path.endsInSlash (Path.join [folder, fileName]) = false)
    (located : fs.locate (Path.join [folder, fileName]) = .found place) :
    fs.canonicalPath (Path.join [folder, fileName]) = Path.render place := by
  rw [FileSystem.canonicalPath, FileSystem.canonicalSegments_of_found cwd noSlash
    (Path.upsFirst_join noSlash) located]

/-- A file that is there is emptied only where its own location is free in the registry. -/
theorem Truncates.unregistered (truncates : call.Truncates emitter world file place)
    (live : emitter.skip = false) (ready : world.Ready) (cwd : world.files.HasCwd)
    {content : String} (standing : world.files.node? place = some (.file content)) :
    world.session.clash? (Path.render place) = none := by
  obtain ⟨folder, fileName, before, rfl, prepares, writes⟩ := truncates.prepares live ready
  obtain ⟨files, text, opened, -⟩ := writes
  obtain ⟨noSlash, cases⟩ := FileSystem.openFile_ok opened
  obtain ⟨content', standing'⟩ := prepares.grows.file standing
  have located : before.files.locate (Path.join [folder, fileName]) = .found place := by
    rcases cases with ⟨outer, name, located, rfl, -⟩ | ⟨_, located, -, -⟩
    · rw [FileSystem.locate_absent_free located] at standing'
      cases standing'
    · exact located
  have canonical := canonicalPath_of_located (cwd.grows prepares.grows) noSlash located
  rw [prepares.alike.canonicalPath_eq] at canonical
  rw [← canonical]
  exact prepares.fresh

/-- A registered file keeps its text whatever is called. -/
theorem keeps_after (live : emitter.skip = false) (ready : world.Ready) (cwd : world.files.HasCwd)
    (call : Call) (registered : world.session.clash? (Path.render place) ≠ none) :
    FileSystem.Keeps place world.files (call.after emitter world).files := by
  intro content standing
  rcases call.perform_effect live ready with
    quiet | ⟨file, spot, writes⟩ | ⟨folder, fileName, before, spot, prepares, writes⟩
  · exact quiet.keeps place content standing
  · exact writes.keeps (.inl rfl) content standing
  · have ne : place ≠ spot := by
      rintro rfl
      have truncates : call.Truncates emitter world (Path.join [folder, fileName]) place := by
        rw [Truncates, ← prepares.unopened]
        exact writes.journal_eq
      exact registered (truncates.unregistered live ready cwd standing)
    exact ((prepares.keeps place).trans (writes.keeps (.inr ne))) content standing

theorem keeps_afterAll (live : emitter.skip = false) (ready : world.Ready)
    (cwd : world.files.HasCwd) (calls : List Call)
    (registered : world.session.clash? (Path.render place) ≠ none) :
    FileSystem.Keeps place world.files (afterAll emitter world calls).files := by
  induction calls generalizing world with
  | nil => exact .refl place _
  | cons call calls ih =>
      have extended : world.Extends (call.after emitter world) := call.perform_extends emitter ready
      have first := keeps_after live ready cwd call registered
      have rest := ih (extended.ready ready) (cwd.grows extended.grows)
        fun free => registered (extended.clash?_eq_none free)
      exact first.trans rest

/-! ## Files that are opened through a link -/

/-- A file that is opened where no link dangles is registered under its own location. -/
theorem Truncates.registered (truncates : call.Truncates emitter world file place)
    (live : emitter.skip = false) (ready : world.Ready) (cwd : world.files.HasCwd)
    (settled : ¬ world.files.Dangles file) :
    (call.after emitter world).session.clash? (Path.render place) ≠ none := by
  obtain ⟨folder, fileName, before, rfl, prepares, writes⟩ := truncates.prepares live ready
  have entered := prepares.entered
  rw [← writes.session_eq] at entered
  obtain ⟨files, text, opened, -⟩ := writes
  have noSlash := (FileSystem.openFile_ok opened).1
  have canonical :
      world.files.canonicalPath (Path.join [folder, fileName]) = Path.render place := by
    rw [← prepares.alike.canonicalPath_eq, FileSystem.canonicalPath,
      FileSystem.canonicalSegments_of_opened (cwd.grows prepares.grows)
        (Path.upsFirst_join noSlash) opened
        fun dangles => settled (prepares.alike.symm.dangles dangles)]
  rw [canonical] at entered
  exact Session.clash?_ne_none_of_mem (by simp [entered])

/-- A file whose own location is not registered is emptied again by the next request for it. -/
theorem Truncates.again (truncates : call.Truncates emitter world file place)
    (live : emitter.skip = false) (ready : world.Ready) (cwd : world.files.HasCwd)
    (free : (call.after emitter world).session.clash? (Path.render place) = none) :
    ∃ next : Call, ((next.perform emitter).runOn (call.after emitter world)).1 = .ok () ∧
      next.Truncates emitter (call.after emitter world) file place := by
  have extended : world.Extends (call.after emitter world) := call.perform_extends emitter ready
  obtain ⟨folder, fileName, before, rfl, prepares, writes⟩ := truncates.prepares live ready
  generalize call.after emitter world = after at *
  obtain ⟨noSlash, -⟩ := writes.leadsToFile
  have canonical := canonicalPath_of_located (cwd.grows extended.grows) noSlash
    (writes.located (.refl after.files))
  obtain ⟨middle, claimed, alike⟩ := Emission.claim_ok
    ((World.Quiet.enter after (Path.render place)).toExtends.ready (extended.ready ready))
    (Path.forwardSlashes (Path.join [folder, fileName]))
  have claims := Emission.claim_moves (Path.forwardSlashes (Path.join [folder, fileName]))
    (after.enter (Path.render place))
  rw [claimed] at claims
  have unopened : middle.journal = after.journal := claims.journal
  -- The file stands where it was, so it can be opened again.
  obtain ⟨-, spot, content, located, standing⟩ := writes.leadsToFile.grows alike.1
  obtain rfl : place = spot := by
    have same := (writes.located alike.1).symm.trans located
    cases same
    rfl
  have opened := FileSystem.openFile_of_found noSlash located standing .truncate
  rw [← canonical] at claimed free
  refine ⟨.createFileOnce folder fileName (pure ()), ?_⟩
  rw [Truncates, Call.after, perform, Emission.runOn_discard,
    Emitter.runOn_createFileOnce_first live free, Emission.runOn_bind_ok claimed,
    Emitter.runOn_writeTo_opened opened, ← unopened]
  exact ⟨rfl, rfl⟩

/-! ## Shared files -/

/-- After a request for a shared file its canonical path is registered, by this request or before. -/
theorem createFileOnce_registers (live : emitter.skip = false) {folder fileName : String}
    (body : Writing Unit) :
    ((createFileOnce folder fileName body).after emitter world).session.clash?
      (world.files.canonicalPath (Path.join [folder, fileName])) ≠ none := by
  rw [Call.after, perform, Emission.runOn_discard, Session.clash?,
    Emitter.createFileOnce_written live]
  simp only [Deed.asks?]
  cases clash :
    world.session.clash? (world.files.canonicalPath (Path.join [folder, fileName])) with
  | some existing =>
      rw [Session.writtenWith_clash clash]
      exact fun free => by simp [Session.clash?, free] at clash
  | none =>
      rw [Session.writtenWith_fresh clash]
      simp

/-- A shared file that was asked for where no link dangles is not asked for a second time. -/
theorem createFileOnce_settled (live : emitter.skip = false) (ready : world.Ready)
    {folder fileName : String} {body : Writing Unit}
    (settled : ¬ world.files.Dangles (Path.join [folder, fileName])) {more : List Call}
    {later : World}
    (reached : afterAll emitter ((createFileOnce folder fileName body).after emitter world) more =
      later) (other : Writing Unit) :
    (emitter.createFileOnce folder fileName other).runOn later = (.ok false, later) := by
  have first : world.Extends ((createFileOnce folder fileName body).after emitter world) :=
    perform_extends emitter _ ready
  have rest := afterAll_extends emitter more (first.ready ready)
  rw [reached] at rest
  have canonical : later.files.canonicalPath (Path.join [folder, fileName]) =
      world.files.canonicalPath (Path.join [folder, fileName]) := by
    rw [FileSystem.canonicalPath, FileSystem.canonicalPath,
      (first.grows.trans rest.grows).canonicalSegments_eq settled]
  obtain ⟨existing, clash⟩ := Option.ne_none_iff_exists'.1
    fun free => createFileOnce_registers live body (rest.clash?_eq_none free)
  rw [← canonical] at clash
  exact Emitter.runOn_createFileOnce_again clash

/-! ## Histories of a session -/

/-- The calls of one session lead to this world. -/
def Reached (emitter : Emitter) (world : World) : Prop :=
  ∃ options origin start calls, origin.files.HasCwd ∧
    (Emission.startSession options).runOn origin = (.ok (), start) ∧
    world = afterAll emitter start calls

theorem Reached.ready (reached : Reached emitter world) :
    world.Ready ∧ world.files.HasCwd := by
  obtain ⟨options, origin, start, calls, cwd, started, rfl⟩ := reached
  have starts := Emission.startSession_ok started
  have extended := afterAll_extends emitter calls starts.ready
  exact ⟨extended.ready starts.ready, cwd.grows (starts.grows.trans extended.grows)⟩

/-- A later call empties the file again. -/
theorem Truncates.dangles_of_again (truncates : call.Truncates emitter world file place)
    (live : emitter.skip = false) (ready : world.Ready) (cwd : world.files.HasCwd)
    {more : List Call} {next : Call} {other : String}
    (later :
      next.Truncates emitter (afterAll emitter (call.after emitter world) more) other place) :
    world.files.Dangles file ∧
      (call.after emitter world).session.clash? (Path.render place) = none := by
  have first : world.Extends (call.after emitter world) := call.perform_extends emitter ready
  have rest := afterAll_extends emitter more (first.ready ready)
  obtain ⟨folder, fileName, before, -, -, writes⟩ := truncates.prepares live ready
  obtain ⟨content, standing⟩ := writes.isFile rest.grows
  have free := later.unregistered live (rest.ready (first.ready ready))
    (cwd.grows (first.grows.trans rest.grows)) standing
  have unregistered := rest.clash?_eq_none free
  refine ⟨Classical.byContradiction fun settled => ?_, unregistered⟩
  exact truncates.registered live ready cwd settled unregistered

/-- A file that a call emptied can be emptied by a later call exactly if a link dangled on its path
and its own location is not registered; then the next request for it does so and succeeds. Otherwise
its text is kept by all later calls. A shared file that was asked for where no link dangles is left
alone by every later request for it. The names of files are Unicode texts here, so files with
different names are different files. -/
theorem truncated_again_iff_dangles (live : emitter.skip = false)
    (reached : Reached emitter world) :
    (∀ call file place, Truncates emitter world call file place →
      ((∃ more next other,
          Truncates emitter (afterAll emitter (call.after emitter world) more) next other place) ↔
        world.files.Dangles file ∧
          (call.after emitter world).session.clash? (Path.render place) = none) ∧
      (world.files.Dangles file →
        (call.after emitter world).session.clash? (Path.render place) = none →
        ∃ next, ((next.perform emitter).runOn (call.after emitter world)).1 = .ok () ∧
          Truncates emitter (call.after emitter world) next file place) ∧
      (¬ (world.files.Dangles file ∧
          (call.after emitter world).session.clash? (Path.render place) = none) →
        ∀ more, FileSystem.Keeps place (call.after emitter world).files
          (afterAll emitter (call.after emitter world) more).files)) ∧
    (∀ folder fileName body, ¬ world.files.Dangles (Path.join [folder, fileName]) →
      ∀ more other, (emitter.createFileOnce folder fileName other).runOn
          (afterAll emitter ((createFileOnce folder fileName body).after emitter world) more) =
        (.ok false,
          afterAll emitter ((createFileOnce folder fileName body).after emitter world) more)) := by
  obtain ⟨ready, cwd⟩ := reached.ready
  refine ⟨fun call file place truncates => ⟨⟨?_, ?_⟩, ?_, ?_⟩, ?_⟩
  · rintro ⟨more, next, other, later⟩
    exact truncates.dangles_of_again live ready cwd later
  · rintro ⟨-, free⟩
    obtain ⟨next, -, later⟩ := truncates.again live ready cwd free
    exact ⟨[], next, file, later⟩
  · intro _ free
    exact truncates.again live ready cwd free
  · intro safe more
    have first : world.Extends (call.after emitter world) := call.perform_extends emitter ready
    refine keeps_afterAll live (first.ready ready) (cwd.grows first.grows) more fun free => ?_
    by_cases dangles : world.files.Dangles file
    · exact safe ⟨dangles, free⟩
    · exact truncates.registered live ready cwd dangles free
  · intro folder fileName body settled more other
    exact createFileOnce_settled live ready settled rfl other

/-- A disk with a link that leads nowhere. -/
def danglingStart : World where
  files :=
    { cwd := []
      entries := [(["real"], .directory), (["out"], .directory),
        (["out", "a.txt"], .link "/real/b.txt")] }

/-- Creates the file behind the link. -/
def createLinked (text : String) : Call := .createFileOnce "/out" "a.txt" (.line text)

/-- Adds to the file behind the link. -/
def extendLinked (text : String) : Call := .appendToFile "/out" "a.txt" (.line text)

theorem danglingStart_reached : Reached {} danglingStart :=
  ⟨{}, danglingStart, danglingStart, [], ⟨nofun, fun front _ _ eq => by cases front <;> cases eq⟩,
    rfl, rfl⟩

theorem danglingStart_dangles :
    Reached {} danglingStart ∧ danglingStart.files.Dangles "/out/a.txt" := by
  refine ⟨danglingStart_reached, ?_⟩
  have truncates : Truncates {} danglingStart (createLinked "first") "/out/a.txt"
      ["real", "b.txt"] := by decide +kernel
  have again : Truncates {}
      (afterAll {} ((createLinked "first").after {} danglingStart) [extendLinked "added"])
      (createLinked "second") "/out/a.txt" ["real", "b.txt"] := by decide +kernel
  obtain ⟨twice, -, -⟩ := (truncated_again_iff_dangles rfl danglingStart_reached).1
    (createLinked "first") "/out/a.txt" ["real", "b.txt"] truncates
  exact (twice.1 ⟨_, _, _, again⟩).1

/-- A shared file behind such a link is created twice: both calls succeed and empty it, and what
was added in between is lost. -/
theorem danglingStart_truncated_twice :
    (((createLinked "first").perform {}).runOn danglingStart).1.isOk ∧
      Truncates {} danglingStart (createLinked "first") "/out/a.txt" ["real", "b.txt"] ∧
      (afterAll {} danglingStart [createLinked "first", extendLinked "added"]).files.node?
        ["real", "b.txt"] = some (.file "first\nadded\n") ∧
      (((createLinked "second").perform {}).runOn
        (afterAll {} danglingStart [createLinked "first", extendLinked "added"])).1.isOk ∧
      Truncates {} (afterAll {} danglingStart [createLinked "first", extendLinked "added"])
        (createLinked "second") "/out/a.txt" ["real", "b.txt"] ∧
      (afterAll {} danglingStart
        [createLinked "first", extendLinked "added", createLinked "second"]).files.node?
        ["real", "b.txt"] = some (.file "second\n") := by
  decide +kernel

end Call

end BridgeCode
