import BridgeCode.Proofs.Run.Plan

/-!
The journal of a run that succeeds.

* `Step.Notes`, `Step.Traces`: the events that a step, and steps in a row, leave if they succeed.
* `openedBy`: the files that a slot opened, read off the journal. A slot opens what it is asked for
  (`mem_filesOf_of_opened`), and if it is asked outright it does open it (`opened_of_mem_filesOf`).
* `Step.filesOf_plan`: for a plan, what a slot is asked for is found among its own steps.
-/

namespace BridgeCode

/-- The file that a call is for. -/
def Call.file? : Call → Option String
  | .createFile folder fileName _ => some (Path.join [folder, fileName])
  | .createFileOnce folder fileName _ => some (Path.join [folder, fileName])
  | .appendToFile folder fileName _ => some (Path.join [folder, fileName])
  | .createFolder .. => none

/-- The file that a call opens whenever it succeeds. -/
def Call.opens? : Call → Option String
  | .createFile folder fileName _ => some (Path.join [folder, fileName])
  | .appendToFile folder fileName _ => some (Path.join [folder, fileName])
  | _ => none

namespace Step

/-- The events of a step that succeeds. -/
inductive Notes : Step → List Event → Prop where
  | enter (slot : Slot) : Notes (.enter slot) [.entered slot]
  | announce (slot : Slot) : Notes (.announce slot) []
  | folder (label path : String) : Notes (.call (.createFolder label path)) []
  | again (folder fileName : String) (body : Writing Unit) :
      Notes (.call (.createFileOnce folder fileName body)) []
  | opened {request : Call} {file : String} (asked : request.file? = some file)
      (mode : OpenMode) (place : Location) :
      Notes (.call request) [.opened mode file place]

/-- The events of steps that succeed. -/
inductive Traces : List Step → List Event → Prop where
  | nil : Traces [] []
  | cons {step : Step} {steps : List Step} {first rest : List Event} :
      step.Notes first → Traces steps rest → Traces (step :: steps) (first ++ rest)

variable {emitter : Emitter} {step : Step} {steps : List Step} {world after : World}

/-- A call that succeeds opens its file, a request for a shared file that is there aside. -/
theorem notes_of_call (live : emitter.skip = false) (ready : world.Ready) {request : Call}
    (ran : (request.perform emitter).runOn world = (.ok (), after)) :
    ∃ events, Notes (.call request) events ∧ after.journal = world.journal ++ events := by
  cases request with
  | createFile folder fileName body =>
      obtain ⟨before, place, prepares, writes⟩ := Emitter.creates_of_ok live ready ran
      refine ⟨_, .opened rfl .truncate place, ?_⟩
      rw [writes.journal_eq, prepares.unopened]
  | createFileOnce folder fileName body =>
      rw [Call.perform, Emission.runOn_discard] at ran
      rcases Emitter.createFileOnce_effect live ready with
        ⟨result, same, left, quiet⟩ | ⟨before, place, prepares, writes⟩
      · rw [left] at ran
        obtain rfl : same = after := congrArg Prod.snd ran
        exact ⟨[], .again folder fileName body, by rw [quiet.unopened, List.append_nil]⟩
      · obtain rfl := congrArg Prod.snd ran
        refine ⟨_, .opened rfl .truncate place, ?_⟩
        rw [writes.journal_eq, prepares.unopened]
  | appendToFile folder fileName body =>
      rw [Call.perform, Emission.runOn_discard, Emitter.runOn_appendToFile live] at ran
      rcases Emitter.writeTo_effect emitter .append (Path.join [folder, fileName]) body world with
        ⟨fault, failed⟩ | ⟨place, writes⟩
      · rw [failed] at ran
        cases ran
      · obtain rfl := congrArg Prod.snd ran
        exact ⟨_, .opened rfl .append place, writes.journal_eq⟩
  | createFolder label folder =>
      have quiet := Emitter.createFolder_quiet live label folder world
      rw [Call.perform] at ran
      rw [ran] at quiet
      exact ⟨[], .folder label folder, by rw [quiet.unopened, List.append_nil]⟩

theorem notes_of_perform (live : emitter.skip = false) (ready : world.Ready)
    (ran : (step.perform emitter).runOn world = (.ok (), after)) :
    ∃ events, step.Notes events ∧ after.journal = world.journal ++ events := by
  cases step with
  | enter slot =>
      cases ran
      exact ⟨_, .enter slot, rfl⟩
  | announce slot =>
      cases ran
      exact ⟨[], .announce slot, (List.append_nil _).symm⟩
  | call request => exact notes_of_call live ready ran
  | stop error => cases ran

theorem extends_of_perform {result : Except Fault Unit} (ready : world.Ready)
    (ran : (step.perform emitter).runOn world = (result, after)) : world.Extends after := by
  have extended := step.perform_extends emitter ready
  rwa [ran] at extended

theorem extends_of_performAll {result : Except Fault Unit} (ready : world.Ready)
    (ran : (performAll emitter steps).runOn world = (result, after)) : world.Extends after := by
  have extended := performAll_extends emitter steps ready
  rwa [ran] at extended

/-- Steps in a row succeed only if the first does and the others do after it. -/
theorem performAll_cons_ok
    (ran : (performAll emitter (step :: steps)).runOn world = (.ok (), after)) :
    ∃ middle, (step.perform emitter).runOn world = (.ok (), middle) ∧
      (performAll emitter steps).runOn middle = (.ok (), after) := by
  rw [performAll_cons, Emission.runOn_bind] at ran
  rcases first : (step.perform emitter).runOn world with ⟨fault | _, middle⟩
  · rw [first] at ran
    cases ran
  · rw [first] at ran
    exact ⟨middle, rfl, ran⟩

theorem performAll_append_ok {front back : List Step}
    (ran : (performAll emitter (front ++ back)).runOn world = (.ok (), after)) :
    ∃ middle, (performAll emitter front).runOn world = (.ok (), middle) ∧
      (performAll emitter back).runOn middle = (.ok (), after) := by
  rw [performAll_append, Emission.runOn_bind] at ran
  rcases first : (performAll emitter front).runOn world with ⟨fault | _, middle⟩
  · rw [first] at ran
    cases ran
  · rw [first] at ran
    exact ⟨middle, rfl, ran⟩

/-- A run that succeeds adds the events of its steps to the journal. -/
theorem traces_of_performAll (live : emitter.skip = false) (ready : world.Ready)
    (ran : (performAll emitter steps).runOn world = (.ok (), after)) :
    ∃ events, Traces steps events ∧ after.journal = world.journal ++ events := by
  induction steps generalizing world with
  | nil =>
      cases ran
      exact ⟨[], .nil, (List.append_nil _).symm⟩
  | cons step steps ih =>
      obtain ⟨middle, first, rest⟩ := performAll_cons_ok ran
      obtain ⟨events, notes, journal⟩ := notes_of_perform live ready first
      have extended := extends_of_perform ready first
      obtain ⟨more, traces, journal'⟩ := ih (extended.ready ready) rest
      refine ⟨events ++ more, .cons notes traces, ?_⟩
      rw [journal', journal, List.append_assoc]

end Step

/-! ## The files of a slot -/

/-- The files that a slot opened, where `active` is the slot that was entered last. -/
def openedBy (slot : Slot) : Option Slot → List Event → List String
  | _, [] => []
  | _, .entered other :: rest => openedBy slot (some other) rest
  | active, .opened _ file _ :: rest =>
    if active = some slot then file :: openedBy slot active rest else openedBy slot active rest
  | active, .called _ :: rest => openedBy slot active rest

namespace Step

/-- The file of a step, where `pick` gives those of calls. -/
def pick? (pick : Call → Option String) : Step → Option String
  | .call request => pick request
  | _ => none

/-- The files that the steps of a slot are for, where `active` is the slot that was entered last. -/
def filesOf (pick : Call → Option String) (slot : Slot) : Option Slot → List Step → List String
  | _, [] => []
  | _, .enter other :: rest => filesOf pick slot (some other) rest
  | active, .call request :: rest =>
    if active = some slot then (pick request).toList ++ filesOf pick slot active rest
    else filesOf pick slot active rest
  | active, .announce _ :: rest => filesOf pick slot active rest
  | active, .stop _ :: rest => filesOf pick slot active rest

variable {slot : Slot} {active : Option Slot} {file : String} {steps : List Step}
  {events : List Event} {pick : Call → Option String}

theorem mem_filesOf_call {request : Call} :
    file ∈ filesOf pick slot active (.call request :: steps) ↔
      (active = some slot ∧ pick request = some file) ∨ file ∈ filesOf pick slot active steps := by
  rw [filesOf]
  split
  · next here => simp [here]
  · next elsewhere => simp [elsewhere]

theorem mem_openedBy_opened {mode : OpenMode} {other : String} {place : Location} :
    file ∈ openedBy slot active (.opened mode other place :: events) ↔
      (active = some slot ∧ file = other) ∨ file ∈ openedBy slot active events := by
  rw [openedBy]
  split
  · next here => simp [here]
  · next elsewhere => simp [elsewhere]

/-- A slot opens only what it is asked for. -/
theorem mem_filesOf_of_opened (traces : Traces steps events)
    (opened : file ∈ openedBy slot active events) :
    file ∈ filesOf Call.file? slot active steps := by
  induction traces generalizing active with
  | nil => cases opened
  | cons notes traces ih =>
      cases notes with
      | enter other => exact ih opened
      | announce other => exact ih opened
      | folder label path => exact mem_filesOf_call.2 (.inr (ih opened))
      | again folder fileName body => exact mem_filesOf_call.2 (.inr (ih opened))
      | opened asked mode place =>
          rcases mem_openedBy_opened.1 opened with ⟨here, rfl⟩ | opened
          · exact mem_filesOf_call.2 (.inl ⟨here, asked⟩)
          · exact mem_filesOf_call.2 (.inr (ih opened))

theorem file?_of_opens? {request : Call} (opens : request.opens? = some file) :
    request.file? = some file := by
  cases request with
  | createFile folder fileName body => exact opens
  | appendToFile folder fileName body => exact opens
  | createFileOnce folder fileName body => cases opens
  | createFolder label folder => cases opens

/-- What a slot is asked outright to open, it opens. -/
theorem opened_of_mem_filesOf (traces : Traces steps events)
    (member : file ∈ filesOf Call.opens? slot active steps) :
    file ∈ openedBy slot active events := by
  induction traces generalizing active with
  | nil => cases member
  | cons notes traces ih =>
      cases notes with
      | enter other => exact ih member
      | announce other => exact ih member
      | folder label path =>
          rcases mem_filesOf_call.1 member with ⟨-, none⟩ | member
          · cases none
          · exact ih member
      | again folder fileName body =>
          rcases mem_filesOf_call.1 member with ⟨-, none⟩ | member
          · cases none
          · exact ih member
      | opened asked mode place =>
          rcases mem_filesOf_call.1 member with ⟨here, opens⟩ | member
          · have same := (file?_of_opens? opens).symm.trans asked
            cases same
            exact mem_openedBy_opened.2 (.inl ⟨here, rfl⟩)
          · exact mem_openedBy_opened.2 (.inr (ih member))

/-! ## The files of a plan -/

/-- Steps that enter no slot belong to the one that was entered last. -/
theorem filesOf_append (unentered : ∀ step ∈ steps, ∀ other, step ≠ .enter other)
    (rest : List Step) :
    filesOf pick slot active (steps ++ rest) =
      (if active = some slot then steps.filterMap (pick? pick) else []) ++
        filesOf pick slot active rest := by
  induction steps with
  | nil => simp
  | cons step steps ih =>
      have later := ih fun other member => unentered other (List.mem_cons_of_mem _ member)
      rw [List.cons_append]
      cases step with
      | enter other => exact absurd rfl (unentered _ List.mem_cons_self other)
      | announce other => exact later
      | stop error => exact later
      | call request =>
          rw [filesOf, later, List.filterMap_cons, pick?]
          split
          · cases pick request <;> simp
          · rfl

end Step

section

variable [YamlPackage]

/-- The steps of a slot after it is entered enter no other. -/
theorem Slot.unentered {config : Config} {decls : List TypeDecl} {slot : Slot} :
    ∀ step ∈ ((slot.folders config).map fun folder =>
        Step.call (.createFolder folder.name folder.path)) ++
      .announce slot :: slot.backendSteps config decls, ∀ other, step ≠ .enter other := by
  intro step member other
  rcases List.mem_append.1 member with member | member
  · obtain ⟨_, -, rfl⟩ := List.mem_map.1 member
    nofun
  rcases List.mem_cons.1 member with rfl | member
  · nofun
  · cases Slot.asks_of_mem member <;> nofun

namespace Step

/-- The steps of a slot are for files of that slot alone, whatever was entered before them. -/
theorem filesOf_steps (pick : Call → Option String) (slot : Slot) (active : Option Slot)
    (config : Config) (decls : List TypeDecl) (other : Slot) (rest : List Step) :
    ∃ active', filesOf pick slot active (other.steps config decls ++ rest) =
      (if other = slot then (other.steps config decls).filterMap (pick? pick) else []) ++
        filesOf pick slot active' rest := by
  unfold Slot.steps
  split
  · split
    · exact ⟨active, by simp [filesOf, pick?]⟩
    · refine ⟨some other, ?_⟩
      rw [List.cons_append, filesOf, filesOf_append Slot.unentered]
      simp only [Option.some.injEq]
      rfl
  · exact ⟨active, by simp⟩

/-- What slots in a row ask for as one of them is found among the steps of that slot. -/
theorem filesOf_flatMap {config : Config} {decls : List TypeDecl} (slots : List Slot) :
    filesOf pick slot active (slots.flatMap (Slot.steps config decls)) =
      (slots.filter (· = slot)).flatMap fun other =>
        (other.steps config decls).filterMap (pick? pick) := by
  induction slots generalizing active with
  | nil => rfl
  | cons other slots ih =>
      rw [List.flatMap_cons]
      obtain ⟨active', split⟩ := filesOf_steps pick slot active config decls other
        (slots.flatMap (Slot.steps config decls))
      rw [split, ih]
      by_cases here : other = slot
      · rw [if_pos here, List.filter_cons_of_pos (by simp [here]), List.flatMap_cons]
      · rw [if_neg here, List.filter_cons_of_neg (by simp [here]), List.nil_append]

/-- What a plan asks a slot for is found among the steps of that slot. -/
theorem filesOf_plan {config : Config} {decls : List TypeDecl} :
    filesOf pick slot active (plan config decls) =
      (slot.steps config decls).filterMap (pick? pick) := by
  have alone : Slot.all.filter (· = slot) = [slot] := by cases slot <;> decide
  rw [plan, filesOf_flatMap, alone, List.flatMap_singleton]

end Step

end

end BridgeCode
