import BridgeCode.Proofs.Emit.Calls
import BridgeCode.Proofs.FileSystem.Apart

/-!
What files hold after a call.

In a plain world, with no list of paths attached and no links on the disk, calls are exact: a file
that is created holds the text of its body and nothing else changes (`Emitter.makes_of_ok`), and a
file that is added to holds the addition behind its old text (`Emitter.holds_of_append`). A file of
the run is registered, so creating another file is creating it elsewhere (`World.Makes.apart`), and
the text stays (`World.Holds.makes`).
-/

namespace BridgeCode

namespace World

/-- No list of paths is attached, the disk has no links, and the current folder is there. -/
structure Plain (world : World) : Prop where
  listless : world.Listless
  linkFree : world.files.LinkFree
  cwd : world.files.HasCwd

theorem Plain.ready {world : World} (plain : world.Plain) : world.Ready :=
  fun path attached => absurd attached (plain.listless path)

theorem Plain.extends {world after : World} (plain : world.Plain)
    (extended : world.Extends after) : after.Plain := by
  refine ⟨fun path => ?_, plain.linkFree.grows extended.grows, plain.cwd.grows extended.grows⟩
  rw [extended.sinks]
  exact plain.listless path

/-- Before and after a file is created: its place was free of files of the run, it holds the text,
and the place is registered. -/
structure Makes (file text : String) (place : Location) (world after : World) : Prop where
  fresh : world.session.clash? (Path.render place) = none
  files : FileSystem.WritesAt place text world.files after.files
  grows : world.files.Grows after.files
  located : after.files.locate file = .found place
  written : after.session.written = world.session.written ++ [Path.render place]
  journal : after.journal = world.journal ++ [.opened .truncate file place]

/-- The path leads to a file of the run. -/
def Registers (file : String) (world : World) : Prop :=
  ∃ place, world.files.locate file = .found place ∧ Path.render place ∈ world.session.written

theorem Registers.extends {file : String} {world after : World} (registers : world.Registers file)
    (extended : world.Extends after) : after.Registers file := by
  obtain ⟨place, located, entered⟩ := registers
  exact ⟨place, extended.grows.locate_found located, extended.written.subset entered⟩

theorem Makes.registers {file text : String} {place : Location} {world after : World}
    (makes : world.Makes file text place after) : after.Registers file := by
  refine ⟨place, makes.located, ?_⟩
  rw [makes.written]
  exact List.mem_append_right _ (List.mem_singleton_self _)

theorem Makes.unwritten {file text : String} {place : Location} {world after : World}
    (makes : world.Makes file text place after) : Path.render place ∉ world.session.written :=
  fun entered => Session.clash?_ne_none_of_mem entered makes.fresh

/-- A file is created elsewhere than the files of the run, and stays elsewhere. -/
theorem Makes.apart {file text other : String} {place : Location} {world after : World}
    (makes : world.Makes file text place after) (registers : world.Registers other)
    {later : FileSystem} (grows : after.files.Grows later) :
    later.locate other ≠ later.locate file := by
  obtain ⟨own, located, entered⟩ := registers
  rw [(makes.grows.trans grows).locate_found located, grows.locate_found makes.located]
  intro same
  cases same
  exact makes.unwritten entered

/-- A file of the run with the given text. -/
def Holds (file text : String) (world : World) : Prop :=
  Path.endsInSlash file = false ∧ ∃ place, world.files.locate file = .found place ∧
    world.files.node? place = some (.file text) ∧ Path.render place ∈ world.session.written

theorem Holds.read_eq {file text : String} {world : World} (holds : world.Holds file text) :
    world.files.read file = .ok text := by
  obtain ⟨-, place, located, standing, -⟩ := holds
  exact FileSystem.read_of_found located standing

theorem Holds.of_makes {file text : String} {place : Location} {world after : World}
    (noSlash : Path.endsInSlash file = false) (makes : world.Makes file text place after) :
    after.Holds file text := by
  refine ⟨noSlash, place, makes.located, makes.files.here, ?_⟩
  rw [makes.written]
  exact List.mem_append_right _ (List.mem_singleton_self _)

/-- A file keeps its text while other files are created. -/
theorem Holds.makes {file text other otherText : String} {place : Location} {world after : World}
    (holds : world.Holds file text) (makes : world.Makes other otherText place after) :
    after.Holds file text := by
  obtain ⟨noSlash, own, located, standing, entered⟩ := holds
  have apart : own ≠ place := by
    rintro rfl
    exact makes.unwritten entered
  refine ⟨noSlash, own, makes.grows.locate_found located, ?_, ?_⟩
  · rw [makes.files.elsewhere own apart]
    exact standing
  · rw [makes.written]
    exact List.mem_append_left _ entered

end World

namespace Emitter

variable {emitter : Emitter} {folder fileName : String} {body : Writing Unit} {world after : World}

/-- A file that is created in a plain world. -/
theorem makes_of_ok (live : emitter.skip = false) (plain : world.Plain)
    (ran : ((Call.createFile folder fileName body).perform emitter).runOn world = (.ok (), after)) :
    Path.endsInSlash (Path.join [folder, fileName]) = false ∧
      ∃ place, world.Makes (Path.join [folder, fileName]) (emitter.bodyText body) place after := by
  have extended := Call.perform_extends emitter (.createFile folder fileName body) plain.ready
  rw [ran] at extended
  obtain ⟨claimed, claims, files, written, sinks⟩ := Emission.claim_listless plain.listless
    (Path.forwardSlashes (Path.join [folder, fileName]))
  have moved := Emission.claim_moves (Path.forwardSlashes (Path.join [folder, fileName])) world
  rw [claims] at moved
  rw [Call.perform, Emission.runOn_discard] at ran
  cases clash : claimed.session.clash?
    (claimed.files.canonicalPath (Path.join [folder, fileName])) with
  | some existing =>
      rw [runOn_createFile_refused live claims clash] at ran
      cases ran
  | none =>
      rw [runOn_createFile_fresh live claims clash] at ran
      cases opened : claimed.files.openFile .truncate (Path.join [folder, fileName]) with
      | error error =>
          have refused := @runOn_writeTo_refused emitter .truncate _ body
            (claimed.enter (claimed.files.canonicalPath (Path.join [folder, fileName]))) _ opened
          rw [refused] at ran
          cases ran
      | ok result =>
          obtain ⟨opened', place⟩ := result
          have wrote := @runOn_writeTo_opened emitter .truncate _ body
            (claimed.enter (claimed.files.canonicalPath (Path.join [folder, fileName]))) _ _ opened
          rw [wrote] at ran
          obtain rfl := congrArg Prod.snd ran
          rw [files] at opened clash
          have noSlash := (FileSystem.openFile_ok opened).1
          -- Without links the path under which a file is registered tells its place.
          have canonical : world.files.canonicalPath (Path.join [folder, fileName]) =
              Path.render place := by
            rw [FileSystem.canonicalPath, FileSystem.canonicalSegments_of_opened plain.cwd
              (Path.upsFirst_join noSlash) opened (plain.linkFree.not_dangles _)]
          rw [canonical] at clash
          refine ⟨noSlash, place, ?_, .of_truncate opened, extended.grows, ?_, ?_, ?_⟩
          · rw [Session.clash?, ← written]
            exact clash
          · exact FileSystem.Grows.locate_opened opened (FileSystem.appendAt_grows _ _ _)
          · show claimed.session.written ++
              [claimed.files.canonicalPath (Path.join [folder, fileName])] = _
            rw [written, files, canonical]
          · show claimed.journal ++ _ = _
            rw [moved.journal]

/-- A file of the run that is added to. -/
theorem holds_of_append {text : String} (live : emitter.skip = false)
    (holds : world.Holds (Path.join [folder, fileName]) text)
    (ran : ((Call.appendToFile folder fileName body).perform emitter).runOn world =
      (.ok (), after)) :
    after.Holds (Path.join [folder, fileName]) (text ++ emitter.bodyText body) := by
  obtain ⟨noSlash, place, located, standing, entered⟩ := holds
  have opened := FileSystem.openFile_of_found noSlash located standing .append
  rw [Call.perform, Emission.runOn_discard, runOn_appendToFile live,
    runOn_writeTo_opened opened] at ran
  obtain rfl := congrArg Prod.snd ran
  have grows := FileSystem.appendAt_grows world.files place (emitter.bodyText body)
  refine ⟨noSlash, place, grows.locate_found located, ?_, entered⟩
  show (world.files.appendAt place (emitter.bodyText body)).node? place = _
  rw [FileSystem.node?_appendAt, standing]
  exact if_pos rfl

/-- A file of the run keeps its text while folders are created. -/
theorem holds_of_folder {file text label : String} (live : emitter.skip = false)
    (holds : world.Holds file text)
    (ran : ((Call.createFolder label folder).perform emitter).runOn world = (.ok (), after)) :
    after.Holds file text := by
  obtain ⟨noSlash, place, located, standing, entered⟩ := holds
  obtain ⟨cause, printed, created⟩ := @runOn_createFolder emitter folder world label live
  rw [Call.perform, created] at ran
  obtain rfl := congrArg Prod.snd ran
  have grows := FileSystem.makeFolders_grows world.files folder
  exact ⟨noSlash, place, grows.locate_found located,
    FileSystem.makeFolders_node? standing folder, entered⟩

end Emitter

end BridgeCode
