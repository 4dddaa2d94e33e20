import BridgeCode.Proofs.Emission
import BridgeCode.Proofs.Emit.Portions
import BridgeCode.Proofs.FileSystem.Growth

/-!
What each emitter operation does, as equations.

Every operation of an emitter is said once here, with its failures: in which world it leaves off
and with which result. Later proofs use these equations and never unfold an operation. A body of a
file enters only through its result and its text (`bodyResult`, `bodyText`).
-/

namespace BridgeCode

/-- The world with one more registered path. -/
def World.enter (world : World) (canonical : String) : World :=
  { world with
    session := { world.session with written := world.session.written ++ [canonical] } }

namespace Emission

theorem runOn_register_clash {canonical existing : String} {world : World}
    (clash : world.session.clash? canonical = some existing) :
    (register canonical).runOn world = (.ok (some existing), world) := by
  unfold register
  rw [runOn_bind_ok (runOn_get world)]
  simp only [Session.register, clash]
  rfl

theorem runOn_register_fresh {canonical : String} {world : World}
    (fresh : world.session.clash? canonical = none) :
    (register canonical).runOn world = (.ok none, world.enter canonical) := by
  unfold register
  rw [runOn_bind_ok (runOn_get world)]
  simp only [Session.register, fresh]
  rfl

end Emission

namespace Emitter

open Emission

/-- Whether a body runs to its end. -/
def bodyResult (emitter : Emitter) (body : Writing Unit) : Except Fault Bool :=
  (body.runOn { unit := emitter.unit }).1.map fun _ => true

/-- The portions in which a body is written, up to its end or to where it fails. -/
def bodyPortions (emitter : Emitter) (body : Writing Unit) : List Text.Raw :=
  Buffer.output (body.runOn { unit := emitter.unit }).2.chunks.toList

/-- What a body puts in its file. -/
def bodyText (emitter : Emitter) (body : Writing Unit) : String :=
  String.join ((emitter.bodyPortions body).map Text.decode)

theorem deliver_eq (place : Location) (portions : List Text.Raw) (files : FileSystem) :
    deliver place portions files =
      files.appendAt place (String.join (portions.map Text.decode)) := by
  rw [deliver, ← FileSystem.foldl_appendAt, List.foldl_map]

variable {emitter : Emitter} {mode : OpenMode} {file folder fileName : String}
  {body : Writing Unit} {world after : World}

theorem runOn_writeTo_refused {error : OsError}
    (refused : world.files.openFile mode file = .error error) :
    (emitter.writeTo mode file body).runOn world =
      (.error (.generate (.openFailed file (error.message "open" file))), world) := by
  unfold writeTo
  rw [runOn_bind_ok (runOn_get world), refused]
  rfl

theorem runOn_writeTo_opened {files : FileSystem} {place : Location}
    (opened : world.files.openFile mode file = .ok (files, place)) :
    (emitter.writeTo mode file body).runOn world =
      (emitter.bodyResult body,
        { world with
          files := files.appendAt place (emitter.bodyText body)
          journal := world.journal ++ [.opened mode file place] }) := by
  unfold writeTo bodyResult bodyText bodyPortions
  rw [← deliver_eq, runOn_bind_ok (runOn_get world), opened]
  rcases body.runOn { unit := emitter.unit } with ⟨fault | value, writer⟩ <;> rfl

/-- The error of a file whose path clashes with one that is registered. -/
def refusal (file canonical existing : String) : GenerateError :=
  if existing = canonical then .duplicateOutput file canonical
  else .caseCollision file canonical existing

theorem runOn_createFile_unclaimed {fault : Fault}
    (unclaimed : (claim (Path.forwardSlashes (Path.join [folder, fileName]))).runOn world =
      (.error fault, after)) :
    (emitter.createFile folder fileName body).runOn world = (.error fault, after) := by
  unfold createFile
  exact runOn_bind_error unclaimed _

theorem runOn_createFile_dry (dry : emitter.skip = true)
    (claimed : (claim (Path.forwardSlashes (Path.join [folder, fileName]))).runOn world =
      (.ok (), after)) :
    (emitter.createFile folder fileName body).runOn world = (.ok false, after) := by
  unfold createFile
  rw [runOn_bind_ok claimed, if_pos dry]
  rfl

/-- A claimed path that clashes with a registered one is refused. -/
theorem runOn_createFile_refused {existing : String} (live : emitter.skip = false)
    (claimed : (claim (Path.forwardSlashes (Path.join [folder, fileName]))).runOn world =
      (.ok (), after))
    (clash : after.session.clash? (after.files.canonicalPath (Path.join [folder, fileName])) =
      some existing) :
    (emitter.createFile folder fileName body).runOn world =
      (.error (.generate (refusal (Path.join [folder, fileName])
        (after.files.canonicalPath (Path.join [folder, fileName])) existing)), after) := by
  unfold createFile refusal
  rw [runOn_bind_ok claimed, if_neg (by simp [live]), runOn_bind_ok (runOn_get after),
    runOn_bind_ok (runOn_register_clash clash)]
  dsimp only
  split <;> rfl

/-- A claimed path that clashes with none is registered and written. -/
theorem runOn_createFile_fresh (live : emitter.skip = false)
    (claimed : (claim (Path.forwardSlashes (Path.join [folder, fileName]))).runOn world =
      (.ok (), after))
    (fresh : after.session.clash? (after.files.canonicalPath (Path.join [folder, fileName])) =
      none) :
    (emitter.createFile folder fileName body).runOn world =
      (emitter.writeTo .truncate (Path.join [folder, fileName]) body).runOn
        (after.enter (after.files.canonicalPath (Path.join [folder, fileName]))) := by
  unfold createFile
  rw [runOn_bind_ok claimed, if_neg (by simp [live]), runOn_bind_ok (runOn_get after),
    runOn_bind_ok (runOn_register_fresh fresh)]

/-- A shared file is left alone if its path clashes with a registered one. -/
theorem runOn_createFileOnce_again {existing : String}
    (clash : world.session.clash? (world.files.canonicalPath (Path.join [folder, fileName])) =
      some existing) :
    (emitter.createFileOnce folder fileName body).runOn world = (.ok false, world) := by
  unfold createFileOnce
  rw [runOn_bind_ok (runOn_get world), runOn_bind_ok (runOn_register_clash clash)]
  rfl

/-- A shared file whose path clashes with none is registered, then claimed, then written. -/
theorem runOn_createFileOnce_first (live : emitter.skip = false)
    (fresh : world.session.clash? (world.files.canonicalPath (Path.join [folder, fileName])) =
      none) :
    (emitter.createFileOnce folder fileName body).runOn world =
      (claim (Path.forwardSlashes (Path.join [folder, fileName])) >>= fun _ =>
        emitter.writeTo .truncate (Path.join [folder, fileName]) body).runOn
        (world.enter (world.files.canonicalPath (Path.join [folder, fileName]))) := by
  unfold createFileOnce
  rw [runOn_bind_ok (runOn_get world), runOn_bind_ok (runOn_register_fresh fresh)]
  simp [live]

/-- In a dry run a shared file is registered and claimed all the same. -/
theorem runOn_createFileOnce_dry (dry : emitter.skip = true)
    (fresh : world.session.clash? (world.files.canonicalPath (Path.join [folder, fileName])) =
      none) :
    (emitter.createFileOnce folder fileName body).runOn world =
      (claim (Path.forwardSlashes (Path.join [folder, fileName])) >>= fun _ =>
        (pure false : Emission Bool)).runOn
        (world.enter (world.files.canonicalPath (Path.join [folder, fileName]))) := by
  unfold createFileOnce
  rw [runOn_bind_ok (runOn_get world), runOn_bind_ok (runOn_register_fresh fresh)]
  simp [dry]

theorem runOn_appendToFile (live : emitter.skip = false) :
    (emitter.appendToFile folder fileName body).runOn world =
      (emitter.writeTo .append (Path.join [folder, fileName]) body).runOn world := by
  unfold appendToFile
  rw [if_neg (by simp [live])]

theorem runOn_appendToFile_dry (dry : emitter.skip = true) :
    (emitter.appendToFile folder fileName body).runOn world = (.ok false, world) := by
  unfold appendToFile
  rw [if_pos dry]
  rfl

theorem runOn_createFolder_dry {label : String} (dry : emitter.skip = true) :
    (emitter.createFolder label folder).runOn world = (.ok (), world) := by
  unfold createFolder
  rw [if_pos dry]
  rfl

/-- What is at the path of a folder after the attempt to create it decides the result. -/
def folderResult (files : FileSystem) (label folder : String) (cause : Option String) :
    Except Fault Unit :=
  if files.isDirectory folder then .ok ()
  else if files.isPresent folder then .error (.generate (.folderBlocked label folder cause))
  else .error (.generate (.folderCreateFailed label folder cause))

theorem runOn_createFolder {label : String} (live : emitter.skip = false) :
    ∃ cause printed,
      (emitter.createFolder label folder).runOn world =
        (folderResult (world.files.makeFolders folder).1 label folder cause,
          { world with files := (world.files.makeFolders folder).1, printed }) := by
  unfold createFolder folderResult
  rw [if_neg (by simp [live]), runOn_bind_ok (runOn_get world)]
  rcases world.files.makeFolders folder with ⟨files, - | error⟩
  · refine ⟨none,
      world.printed ++ world.logger.debug ("Created " ++ label ++ " folder " ++ folder) none, ?_⟩
    rw [runOn_bind_ok (runOn_modify _ world)]
    simp only [Option.map_none, Option.isNone_none, if_true]
    rw [runOn_bind_ok (runOn_say _ _)]
    split
    · rfl
    · split <;> rfl
  · refine ⟨some (error.message "mkdir" folder), world.printed, ?_⟩
    rw [runOn_bind_ok (runOn_modify _ world)]
    simp only [Option.map_some, Option.isNone_some, Bool.false_eq_true, if_false]
    split
    · rfl
    · split <;> rfl

end Emitter

end BridgeCode
