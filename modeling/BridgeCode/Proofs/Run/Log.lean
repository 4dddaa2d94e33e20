import BridgeCode.Proofs.Run.Plan

/-!
A run and its log.

What a run does to files and how it ends does not depend on the log, and all it says is meant for
those who look for a fault.

* `Emission.Discreet`: an action is of this kind. Sequences of such actions are
  (`Discreet.bind`), and so is every step of a run with the bundled generators.
* `discreet_generateFresh`: the whole run is.
-/

namespace BridgeCode

/-- The world with another logger and other lines printed so far. -/
def World.withLog (world : World) (logger : Logger) (printed : List LogLine) : World :=
  { world with logger, printed }

/-- A line that the logger prints for those who look for a fault. -/
def Logger.Chats (logger : Logger) (line : LogLine) : Prop :=
  ∃ message, line ∈ logger.debug message none

namespace Emission

variable {α β : Type}

/-- Whatever the log, the action ends in the same way and does the same besides. It prints only
lines for those who look for a fault. -/
def Discreet (action : Emission α) : Prop :=
  ∀ world logger printed, ∃ lines, (∀ line ∈ lines, logger.Chats line) ∧
    action.runOn (world.withLog logger printed) =
      ((action.runOn world).1, (action.runOn world).2.withLog logger (printed ++ lines))

namespace Discreet

/-- An action that says nothing. -/
theorem of_silent {action : Emission α}
    (silent : ∀ world logger printed, action.runOn (world.withLog logger printed) =
      ((action.runOn world).1, (action.runOn world).2.withLog logger printed)) :
    Discreet action := by
  intro world logger printed
  refine ⟨[], nofun, ?_⟩
  rw [List.append_nil]
  exact silent world logger printed

theorem pure (value : α) : Discreet (Pure.pure value) := .of_silent fun _ _ _ => rfl

theorem throw (fault : Fault) : Discreet (MonadExcept.throw fault : Emission α) :=
  .of_silent fun _ _ _ => rfl

theorem failWith (error : GenerateError) : Discreet (failWith error : Emission α) := .throw _

theorem note (event : Event) : Discreet (note event) := .of_silent fun _ _ _ => rfl

theorem modifySession (change : Session → Session) : Discreet (modifySession change) :=
  .of_silent fun _ _ _ => rfl

/-- The disk may be changed by what was computed before. -/
theorem putFiles (files : FileSystem) :
    Discreet (modify fun world => { world with files } : Emission Unit) :=
  .of_silent fun _ _ _ => rfl

theorem debug (message : String) : Discreet (say (·.debug message none)) := by
  intro world logger printed
  exact ⟨logger.debug message none, fun line member => ⟨message, member⟩, rfl⟩

theorem bind {action : Emission α} {next : α → Emission β} (first : Discreet action)
    (second : ∀ value, Discreet (next value)) : Discreet (action >>= next) := by
  intro world logger printed
  obtain ⟨lines, chats, ran⟩ := first world logger printed
  rw [runOn_bind, runOn_bind, ran]
  rcases action.runOn world with ⟨fault | value, middle⟩
  · exact ⟨lines, chats, rfl⟩
  · obtain ⟨more, chats', ran'⟩ := second value middle logger (printed ++ lines)
    refine ⟨lines ++ more, fun line member => ?_, ?_⟩
    · rcases List.mem_append.1 member with member | member
      · exact chats line member
      · exact chats' line member
    · dsimp only
      rw [ran', List.append_assoc]

/-- Looking at the world, the log aside. -/
theorem inspect {next : World → Emission α}
    (blind : ∀ world logger printed, next (world.withLog logger printed) = next world)
    (each : ∀ world, Discreet (next world)) : Discreet (get >>= next) := by
  intro world logger printed
  rw [runOn_bind_ok (runOn_get _), runOn_bind_ok (runOn_get world), blind]
  exact each world world logger printed

theorem forM {items : List α} {action : α → Emission PUnit}
    (each : ∀ item, Discreet (action item)) : Discreet (items.forM action) := by
  induction items with
  | nil => exact .pure _
  | cons item items ih => exact .bind (each item) fun _ => ih

theorem discard {action : Emission α} (discreet : Discreet action) : Discreet (discard action) :=
  .bind discreet fun _ => .pure _

end Discreet

/-! ## Steps of a run -/

theorem discreet_openList (path : String) : Discreet (openList path) := by
  refine .inspect (fun _ _ _ => rfl) fun world => .bind (.putFiles _) fun _ => ?_
  split
  · exact .failWith _
  · split
    · exact .putFiles _
    · exact .failWith _

theorem discreet_attachList (path : String) : Discreet (attachList path) :=
  .bind (discreet_openList path) fun _ => .modifySession _

theorem discreet_report (entry : String) (sink : ManifestSink) :
    Discreet (report entry sink) := by
  cases sink with
  | pipe =>
      exact Discreet.modifySession fun session =>
        { session with piped := session.piped ++ [entry] }
  | file path =>
      refine .inspect (fun _ _ _ => rfl) fun world => ?_
      split
      · exact .putFiles _
      · exact .failWith _

theorem discreet_claim (entry : String) : Discreet (claim entry) := by
  refine .inspect (fun _ _ _ => rfl) fun world => ?_
  dsimp only
  split
  · exact .bind (.modifySession _) fun _ => .forM (discreet_report entry)
  · exact .pure ()

theorem discreet_register (canonical : String) : Discreet (register canonical) :=
  .inspect (fun _ _ _ => rfl) fun _ => .bind (.modifySession _) fun _ => .pure _

end Emission

namespace Emitter

open Emission

variable (emitter : Emitter)

theorem discreet_writeTo (mode : OpenMode) (file : String) (body : Writing Unit) :
    Discreet (emitter.writeTo mode file body) := by
  refine .inspect (fun _ _ _ => rfl) fun world => ?_
  split
  · exact .failWith _
  · refine .bind (.note _) fun _ => .bind (.putFiles _) fun _ => ?_
    split
    · exact .pure _
    · exact .throw _

theorem discreet_createFile (folder fileName : String) (body : Writing Unit) :
    Discreet (emitter.createFile folder fileName body) := by
  refine .bind (discreet_claim _) fun _ => ?_
  split
  · exact .pure _
  · refine .inspect (fun _ _ _ => rfl) fun world => .bind (discreet_register _) fun clash => ?_
    split
    · split
      · exact .failWith _
      · exact .failWith _
    · exact emitter.discreet_writeTo _ _ _

theorem discreet_createFileOnce (folder fileName : String) (body : Writing Unit) :
    Discreet (emitter.createFileOnce folder fileName body) := by
  refine .inspect (fun _ _ _ => rfl) fun world => .bind (discreet_register _) fun clash => ?_
  split
  · exact .pure _
  · refine .bind (discreet_claim _) fun _ => ?_
    split
    · exact .pure _
    · exact emitter.discreet_writeTo _ _ _

theorem discreet_appendToFile (folder fileName : String) (body : Writing Unit) :
    Discreet (emitter.appendToFile folder fileName body) := by
  unfold appendToFile
  split
  · exact .pure _
  · exact emitter.discreet_writeTo _ _ _

theorem discreet_createFolder (label folder : String) :
    Discreet (emitter.createFolder label folder) := by
  unfold createFolder
  split
  · exact .pure _
  · refine .inspect (fun _ _ _ => rfl) fun world => .bind (.putFiles _) fun _ => ?_
    have tail : Discreet (if (world.files.makeFolders folder).1.isDirectory folder then pure ()
        else if (world.files.makeFolders folder).1.isPresent folder then
          failWith (.folderBlocked label folder
            ((world.files.makeFolders folder).2.map (·.message "mkdir" folder)))
        else failWith (.folderCreateFailed label folder
            ((world.files.makeFolders folder).2.map (·.message "mkdir" folder)))) := by
      split
      · exact .pure _
      · split
        · exact .failWith _
        · exact .failWith _
    dsimp only
    split
    · exact .bind (.debug _) fun _ => tail
    · exact tail

end Emitter

theorem Call.discreet_perform (emitter : Emitter) (request : Call) :
    Emission.Discreet (request.perform emitter) := by
  cases request with
  | createFile folder fileName body => exact .discard (emitter.discreet_createFile _ _ _)
  | createFileOnce folder fileName body => exact .discard (emitter.discreet_createFileOnce _ _ _)
  | appendToFile folder fileName body => exact .discard (emitter.discreet_appendToFile _ _ _)
  | createFolder label folder => exact emitter.discreet_createFolder label folder

theorem Step.discreet_perform (emitter : Emitter) (step : Step) :
    Emission.Discreet (step.perform emitter) := by
  cases step with
  | enter slot => exact .note _
  | announce slot => exact .debug _
  | call request => exact request.discreet_perform emitter
  | stop error => exact .failWith error

/-! ## Whole runs -/

theorem discreet_attachOutFileList (config : Config) :
    Emission.Discreet (attachOutFileList config) := by
  unfold attachOutFileList
  split
  · exact .pure _
  · refine .inspect (fun _ _ _ => rfl) fun world => ?_
    split
    · exact .pure _
    · exact Emission.discreet_attachList _

section

variable [YamlPackage]

theorem discreet_runSlots (config : Config) (decls : List TypeDecl) :
    Emission.Discreet (runSlots .bundled config decls) := by
  rw [runSlots_bundled]
  exact .bind (discreet_attachOutFileList config) fun _ => .forM (Step.discreet_perform _)

theorem discreet_generate (config : Config) (decls : List TypeDecl) :
    Emission.Discreet (generate .bundled config decls) := by
  intro world logger printed
  obtain ⟨lines, chats, ran⟩ := discreet_runSlots config decls world logger printed
  refine ⟨lines, chats, ?_⟩
  rw [runOn_generate, runOn_generate, ran]
  rcases (runSlots .bundled config decls).runOn world with ⟨fault | _, after⟩
  · cases fault <;> rfl
  · rfl

/-- Whatever the log, a run with the bundled generators does the same, and it says only what is
meant for those who look for a fault. -/
theorem discreet_generateFresh (config : Config) (decls : List TypeDecl) :
    Emission.Discreet (generateFresh .bundled config decls) :=
  .bind (.modifySession _) fun _ => discreet_generate config decls

end

end BridgeCode
