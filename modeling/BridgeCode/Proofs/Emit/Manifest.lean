import BridgeCode.Proofs.Emit.Operations
import BridgeCode.Proofs.FileSystem.Canonical

/-!
What claiming a path changes.

A claim adds one entry to the manifest and one line to every list of paths that is attached, and
nothing else (`claim_moves`). It can fail only where a list cannot be written (`claim_error`), so it
never fails while all lists are there (`claim_ok`). A list that was opened stays there: a session
that has started is ready to claim (`startSession_ok`).
-/

namespace BridgeCode

/-- Before and after a claimed path is reported to `sinks`: lists of paths have grown. -/
structure World.Reported (sinks : List ManifestSink) (world after : World) : Prop where
  session : after.session = { world.session with piped := after.session.piped }
  journal : after.journal = world.journal
  grows : world.files.Grows after.files
  keeps : ∀ place, FileSystem.Keeps place world.files after.files
  elsewhere : ∀ place,
    (∀ path, ManifestSink.file path ∈ sinks → after.files.locate path ≠ .found place) →
      after.files.node? place = world.files.node? place

namespace World

theorem Reported.refl (sinks : List ManifestSink) (world : World) : Reported sinks world world :=
  ⟨rfl, rfl, .refl _, fun place => .refl place _, fun _ _ => rfl⟩

theorem Reported.trans {sinks : List ManifestSink} (a b c : World) (first : Reported sinks a b)
    (second : Reported sinks b c) : Reported sinks a c := by
  refine ⟨?_, second.journal.trans first.journal, first.grows.trans second.grows,
    fun place => (first.keeps place).trans (second.keeps place), fun place spared => ?_⟩
  · rw [second.session, first.session]
  · rw [second.elsewhere place spared, first.elsewhere place]
    -- What a list's path leads to at last, it led to in between.
    exact fun path attached located => spared path attached (second.grows.locate_found located)

/-- Every attached list of paths is there to be written. -/
def Ready (world : World) : Prop :=
  ∀ path, ManifestSink.file path ∈ world.session.sinks → world.files.LeadsToFile path

/-- No list of paths is attached. -/
def Listless (world : World) : Prop := ∀ path, .file path ∉ world.session.sinks

theorem Ready.of_grows {world after : World} (ready : world.Ready)
    (sinks : after.session.sinks = world.session.sinks) (grows : world.files.Grows after.files) :
    after.Ready := by
  intro path attached
  rw [sinks] at attached
  exact (ready path attached).grows grows

end World

namespace Emission

variable {world : World} {entry path : String}

theorem runOn_addToList_opened {files : FileSystem} {place : Location}
    (opened : world.files.openFile .append path = .ok (files, place)) :
    (addToList path entry).runOn world =
      (.ok (), { world with files := files.appendAt place (entry ++ "\n") }) := by
  unfold addToList
  rw [runOn_bind_ok (runOn_get world), opened]
  rfl

theorem runOn_addToList_refused {error : OsError}
    (refused : world.files.openFile .append path = .error error) :
    (addToList path entry).runOn world =
      (.error (.generate (.manifestFailed path (error.message "open" path))), world) := by
  unfold addToList
  rw [runOn_bind_ok (runOn_get world), refused]
  rfl

/-- A line in a list of paths changes the file that the list's path leads to. -/
theorem addToList_moves {sinks : List ManifestSink} (attached : .file path ∈ sinks)
    (entry : String) : Moves (World.Reported sinks) (addToList path entry) := by
  intro world
  cases opened : world.files.openFile .append path with
  | error error =>
      rw [runOn_addToList_refused opened]
      exact .refl sinks world
  | ok result =>
      obtain ⟨files, place⟩ := result
      rw [runOn_addToList_opened opened]
      have grows := FileSystem.appendAt_grows files place (entry ++ "\n")
      refine ⟨rfl, rfl, (FileSystem.openFile_grows opened).trans grows, fun other => ?_,
        fun other spared => ?_⟩
      · exact (FileSystem.openFile_keeps opened (.inl rfl)).trans
          (FileSystem.appendAt_keeps files place other _)
      · have ne : other ≠ place := by
          rintro rfl
          exact spared path attached (FileSystem.Grows.locate_opened opened grows)
        have later : (files.appendAt place (entry ++ "\n")).node? other = files.node? other := by
          rw [FileSystem.node?_appendAt]
          split
          · rw [if_neg ne]
          · rfl
        exact later.trans (FileSystem.openFile_node?_ne opened ne)

theorem report_moves {sinks : List ManifestSink} {sink : ManifestSink} (attached : sink ∈ sinks)
    (entry : String) : Moves (World.Reported sinks) (report entry sink) := by
  cases sink with
  | file path => exact addToList_moves attached entry
  | pipe =>
      intro world
      exact ⟨rfl, rfl, .refl _, fun place => .refl place _, fun _ _ => rfl⟩

/-- Reporting fails only at a list that cannot be written. -/
theorem forM_report_error {sinks : List ManifestSink} {fault : Fault} {start after : World}
    (failed : (sinks.forM (report entry)).runOn start = (.error fault, after)) :
    ∃ path reason, .file path ∈ sinks ∧ fault = .generate (.manifestFailed path reason) := by
  induction sinks generalizing start with
  | nil => cases failed
  | cons sink sinks ih =>
      rw [runOn_forM_cons] at failed
      cases sink with
      | pipe =>
          obtain ⟨path, reason, attached, same⟩ := ih failed
          exact ⟨path, reason, List.mem_cons_of_mem _ attached, same⟩
      | file path =>
          cases opened : start.files.openFile .append path with
          | error error =>
              rw [report, runOn_addToList_refused opened] at failed
              cases failed
              exact ⟨path, _, List.mem_cons_self, rfl⟩
          | ok result =>
              rw [report, runOn_addToList_opened opened] at failed
              obtain ⟨path, reason, attached, same⟩ := ih failed
              exact ⟨path, reason, List.mem_cons_of_mem _ attached, same⟩

/-- Reporting goes through while every list is there; a line in one list keeps the others. -/
theorem forM_report_ok {sinks : List ManifestSink} {start : World}
    (ready : ∀ path, .file path ∈ sinks → start.files.LeadsToFile path) :
    ∃ after, (sinks.forM (report entry)).runOn start = (.ok (), after) ∧
      start.files.Alike after.files := by
  induction sinks generalizing start with
  | nil => exact ⟨start, rfl, .refl _⟩
  | cons sink sinks ih =>
      rw [runOn_forM_cons]
      cases sink with
      | pipe => exact ih fun path attached => ready path (List.mem_cons_of_mem _ attached)
      | file path =>
          obtain ⟨noSlash, place, content, located, standing⟩ := ready path List.mem_cons_self
          have opened := FileSystem.openFile_of_found noSlash located standing .append
          rw [report, runOn_addToList_opened opened]
          have alike := FileSystem.appendAt_alike start.files place (entry ++ "\n")
          obtain ⟨after, ran, alike'⟩ := @ih
            { start with files := start.files.appendAt place (entry ++ "\n") }
            fun other attached => (ready other (List.mem_cons_of_mem _ attached)).grows alike.1
          exact ⟨after, ran, alike.trans alike'⟩

/-! ## Claims -/

theorem runOn_claim_off (off : world.session.recording = false) :
    (claim entry).runOn world = (.ok (), world) := by
  unfold claim
  rw [runOn_bind_ok (runOn_get world)]
  simp [off]

theorem runOn_claim_on (recording : world.session.recording = true) :
    (claim entry).runOn world =
      (world.session.sinks.forM (report entry)).runOn
        { world with
          session := { world.session with claimed := world.session.claimed ++ [entry] } } := by
  unfold claim
  rw [runOn_bind_ok (runOn_get world)]
  dsimp only
  rw [if_pos recording, runOn_bind_ok (runOn_modifySession _ world)]

/-- What a claim does to the manifest. -/
def claimedWith (session : Session) (entry : String) : List String :=
  if session.recording then session.claimed ++ [entry] else session.claimed

/-- Before and after a path is claimed. -/
structure Claims (entry : String) (world after : World) : Prop where
  session : after.session =
    { world.session with
      claimed := claimedWith world.session entry, piped := after.session.piped }
  journal : after.journal = world.journal
  grows : world.files.Grows after.files
  keeps : ∀ place, FileSystem.Keeps place world.files after.files
  elsewhere : ∀ place,
    (∀ path, .file path ∈ world.session.sinks → after.files.locate path ≠ .found place) →
      after.files.node? place = world.files.node? place

theorem Claims.written {world claimed : World} (claims : Claims entry world claimed) :
    claimed.session.written = world.session.written := by
  rw [claims.session]

/-- A claim changes the manifest and the lists, whether or not all lists could be written. -/
theorem claim_moves (entry : String) : Moves (Claims entry) (claim entry) := by
  intro world
  cases recording : world.session.recording with
  | false =>
      rw [runOn_claim_off recording]
      refine ⟨?_, rfl, .refl _, fun place => .refl place _, fun _ _ => rfl⟩
      rw [claimedWith, if_neg (by simp [recording])]
  | true =>
      rw [runOn_claim_on recording]
      have reported := Moves.forM (.refl world.session.sinks) World.Reported.trans
        (fun sink attached => report_moves attached entry)
        { world with
          session := { world.session with claimed := world.session.claimed ++ [entry] } }
      refine ⟨?_, reported.journal, reported.grows, reported.keeps, reported.elsewhere⟩
      rw [reported.session, claimedWith, if_pos recording]

/-- A claim fails only at a list that cannot be written. -/
theorem claim_error {fault : Fault} {after : World}
    (failed : (claim entry).runOn world = (.error fault, after)) :
    ∃ path reason, .file path ∈ world.session.sinks ∧
      fault = .generate (.manifestFailed path reason) := by
  cases recording : world.session.recording with
  | false =>
      rw [runOn_claim_off recording] at failed
      cases failed
  | true =>
      rw [runOn_claim_on recording] at failed
      exact forM_report_error failed

/-- A claim goes through while every list is there, and changes no more than the lists' texts. -/
theorem claim_ok (ready : world.Ready) (entry : String) :
    ∃ after, (claim entry).runOn world = (.ok (), after) ∧ world.files.Alike after.files := by
  cases recording : world.session.recording with
  | false => exact ⟨world, runOn_claim_off recording, .refl _⟩
  | true =>
      rw [runOn_claim_on recording]
      exact forM_report_ok ready

/-! ## Claims that are listed nowhere -/

theorem forM_report_listless {entry : String} {sinks : List ManifestSink}
    (listless : ∀ path, .file path ∉ sinks) (world : World) :
    ∃ piped, (sinks.forM (report entry)).runOn world =
      (.ok (), { world with session := { world.session with piped } }) := by
  induction sinks generalizing world with
  | nil => exact ⟨world.session.piped, rfl⟩
  | cons sink sinks ih =>
      cases sink with
      | file path => exact absurd List.mem_cons_self (listless path)
      | pipe =>
          have others : ∀ path, .file path ∉ sinks :=
            fun path member => listless path (List.mem_cons_of_mem _ member)
          obtain ⟨piped, ran⟩ := ih others { world with
            session := { world.session with piped := world.session.piped ++ [entry] } }
          refine ⟨piped, ?_⟩
          rw [runOn_forM_cons]
          exact ran

/-- Without lists a claim always goes through and changes the manifest alone. -/
theorem claim_listless {world : World} (listless : world.Listless) (entry : String) :
    ∃ claimed, (claim entry).runOn world = (.ok (), claimed) ∧ claimed.files = world.files ∧
      claimed.session.written = world.session.written ∧
      claimed.session.sinks = world.session.sinks := by
  cases recording : world.session.recording with
  | false => exact ⟨world, runOn_claim_off recording, rfl, rfl, rfl⟩
  | true =>
      rw [runOn_claim_on recording]
      obtain ⟨piped, ran⟩ := @forM_report_listless entry world.session.sinks listless { world with
        session := { world.session with claimed := world.session.claimed ++ [entry] } }
      exact ⟨_, ran, rfl, rfl, rfl⟩

/-! ## Lists that are attached -/

/-- A list is opened if its folder can be created and the list can be emptied then. -/
theorem openList_ok_iff {after : World} :
    (openList path).runOn world = (.ok (), after) ↔
      ∃ files emptied place, world.files.makeFolders (Path.dirname path) = (files, none) ∧
        files.openFile .truncate path = .ok (emptied, place) ∧
        after = { world with files := emptied } := by
  unfold openList
  rw [runOn_bind_ok (runOn_get world)]
  rcases world.files.makeFolders (Path.dirname path) with ⟨files, refused⟩
  dsimp only
  rw [runOn_bind_ok (runOn_modify _ world)]
  cases refused with
  | some error =>
      refine ⟨nofun, ?_⟩
      rintro ⟨_, _, _, made, -, -⟩
      cases made
  | none =>
      dsimp only
      cases truncated : files.openFile .truncate path with
      | error error =>
          refine ⟨nofun, ?_⟩
          rintro ⟨_, _, _, made, opened, -⟩
          cases made
          rw [truncated] at opened
          cases opened
      | ok result =>
          obtain ⟨emptied, place⟩ := result
          constructor
          · intro opened
            cases opened
            exact ⟨files, emptied, place, rfl, truncated, rfl⟩
          · rintro ⟨_, _, _, made, opened, rfl⟩
            cases made
            rw [truncated] at opened
            cases opened
            rfl

/-- A list that was opened is there, and so is what was there before. -/
theorem openList_ok {after : World} (opened : (openList path).runOn world = (.ok (), after)) :
    after = { world with files := after.files } ∧ world.files.Grows after.files ∧
      after.files.LeadsToFile path := by
  obtain ⟨files, emptied, place, folders, truncated, rfl⟩ := openList_ok_iff.1 opened
  have made := FileSystem.makeFolders_grows world.files (Path.dirname path)
  rw [folders] at made
  exact ⟨rfl, made.trans (FileSystem.openFile_grows truncated),
    FileSystem.openFile_leadsToFile truncated⟩

/-- A list is attached once it is open. -/
theorem attachList_ok_iff {after : World} :
    (attachList path).runOn world = (.ok (), after) ↔
      ∃ middle, (openList path).runOn world = (.ok (), middle) ∧
        after = { middle with session := middle.session.attach (.file path) } := by
  unfold attachList
  rw [runOn_bind]
  rcases (openList path).runOn world with ⟨fault | _, middle⟩
  · refine ⟨nofun, ?_⟩
    rintro ⟨_, opened, -⟩
    cases opened
  · constructor
    · intro attached
      cases attached
      exact ⟨middle, rfl, rfl⟩
    · rintro ⟨_, opened, rfl⟩
      cases opened
      rfl

theorem attachList_ok {after : World} (attached : (attachList path).runOn world = (.ok (), after)) :
    after = { world with files := after.files, session := world.session.attach (.file path) } ∧
      world.files.Grows after.files ∧ after.files.LeadsToFile path := by
  obtain ⟨middle, opened, rfl⟩ := attachList_ok_iff.1 attached
  obtain ⟨same, grows, there⟩ := openList_ok opened
  refine ⟨?_, grows, there⟩
  rw [same]

theorem attachList_ready {after : World} (ready : world.Ready)
    (attached : (attachList path).runOn world = (.ok (), after)) : after.Ready := by
  obtain ⟨same, grows, there⟩ := attachList_ok attached
  intro other member
  rw [same] at member
  rcases List.mem_append.1 member with old | new
  · exact (ready other old).grows grows
  · cases List.mem_singleton.1 new
    exact there

/-- The session before any list is attached. -/
def SessionOptions.session (options : SessionOptions) : Session :=
  if options.pipe then ({ recording := options.recordManifest } : Session).attach .pipe
  else { recording := options.recordManifest }

theorem SessionOptions.no_list (options : SessionOptions) (path : String) :
    .file path ∉ options.session.sinks := by
  unfold SessionOptions.session Session.attach
  split <;> simp

theorem runOn_startSession (options : SessionOptions) (world : World) :
    (startSession options).runOn world =
      (match options.manifestFile with
        | some path => attachList path
        | none => pure ()).runOn { world with session := options.session } := by
  unfold startSession SessionOptions.session attachPipe
  rw [runOn_bind_ok (runOn_modifySession _ world)]
  dsimp only
  cases options.pipe with
  | false => rfl
  | true =>
      rw [if_pos rfl, runOn_bind_ok (runOn_modifySession _ _)]
      rfl

/-- Before and after a session is started. -/
structure Starts (world after : World) : Prop where
  ready : after.Ready
  grows : world.files.Grows after.files
  written : after.session.written = []
  claimed : after.session.claimed = []
  journal : after.journal = world.journal

theorem startSession_ok {options : SessionOptions} {after : World}
    (started : (startSession options).runOn world = (.ok (), after)) : Starts world after := by
  have ready : ({ world with session := options.session } : World).Ready :=
    fun path attached => absurd attached (options.no_list path)
  have empty : options.session.written = [] ∧ options.session.claimed = [] := by
    unfold SessionOptions.session Session.attach
    split <;> exact ⟨rfl, rfl⟩
  rw [runOn_startSession] at started
  cases listed : options.manifestFile with
  | none =>
      rw [listed] at started
      cases started
      exact ⟨ready, .refl _, empty.1, empty.2, rfl⟩
  | some path =>
      rw [listed] at started
      obtain ⟨same, grows, -⟩ := attachList_ok started
      refine ⟨attachList_ready ready started, grows, ?_, ?_, ?_⟩
      · rw [same]
        exact empty.1
      · rw [same]
        exact empty.2
      · rw [same]

end Emission

end BridgeCode
