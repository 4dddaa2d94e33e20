import BridgeCode.Proofs.FileSystem.Apart
import BridgeCode.Proofs.Run.Foundation
import BridgeCode.Proofs.Target.Kinds

/-!
The order of declarations.

Where every declaration has files of its own, a generator is a list of requests to create files.
Whether they all succeed, and which disk they leave, can be said without regard to their order:
every request must be permitted in the world before the first of them, no two of their files may be
the same in lower case (`Step.performAll_orderly`), and each file then has its text
(`Step.Outcome`).

* `Step.follows_of_perm`: requests in another order succeed as well and leave the same disk.
* `declaration_order_irrelevant`: so do declarations with different names.
-/

namespace BridgeCode

/-! ## Creating one file -/

/-- Without links, a file that can be opened is opened where its path says. -/
theorem Step.Rooted.proper_of_opensAt {file : String} (rooted : Step.Rooted file) {fs : FileSystem}
    (free : fs.LinkFree) {place : Location} (opens : fs.OpensAt file place) :
    Step.Proper file ∧ place = Path.location file := by
  refine ⟨⟨rooted, opens.1⟩, ?_⟩
  obtain ⟨folder, name, absolute, rfl⟩ := rooted
  obtain ⟨names, isName, rendered⟩ := Path.join_absolute absolute opens.1
  rw [rendered] at opens ⊢
  rw [Path.location_render isName]
  exact free.place_eq isName opens

/-- Files at the same location have the same path. -/
theorem Step.Proper.eq_of_location {file other : String} (proper : Step.Proper file)
    (proper' : Step.Proper other) (same : Path.location file = Path.location other) :
    file = other := by
  have render_location : ∀ {file}, Step.Proper file → Path.render (Path.location file) = file := by
    intro file proper
    have noSlash := proper.noSlash
    obtain ⟨folder, name, absolute, rfl⟩ := proper.rooted
    obtain ⟨names, isName, rendered⟩ := Path.join_absolute absolute noSlash
    rw [rendered, Path.location_render isName]
  rw [← render_location proper, ← render_location proper', same]

/-- A file may be created: its body runs to the end, its path is not registered, and it can be
opened. -/
structure Emitter.Permits (emitter : Emitter) (file : String) (body : Writing Unit)
    (world : World) : Prop where
  runs : emitter.bodyResult body = .ok true
  fresh : world.session.clash? file = none
  opens : world.files.OpensAt file (Path.location file)

/-- Before and after a file is created. -/
structure World.Adds (file text : String) (world after : World) : Prop where
  files : FileSystem.WritesAt (Path.location file) text world.files after.files
  written : after.session.written = world.session.written ++ [file]
  sinks : after.session.sinks = world.session.sinks

namespace Emitter

theorem bodyResult_ok {emitter : Emitter} {body : Writing Unit} {value : Bool}
    (ran : emitter.bodyResult body = .ok value) : value = true := by
  unfold bodyResult at ran
  cases done : (body.runOn { unit := emitter.unit }).1 with
  | error fault =>
      rw [done] at ran
      cases ran
  | ok _ =>
      rw [done] at ran
      cases ran
      rfl

/-- A request to create a file adds it if it is permitted, and fails if it is not. -/
theorem createFile_cases {emitter : Emitter} (live : emitter.skip = false) {world : World}
    (listless : world.Listless) (free : world.files.LinkFree) {folder fileName : String}
    (rooted : Step.Rooted (Path.join [folder, fileName])) (body : Writing Unit) :
    (emitter.Permits (Path.join [folder, fileName]) body world ∧
      ∃ after, ((Call.createFile folder fileName body).perform emitter).runOn world =
          (.ok (), after) ∧
        world.Adds (Path.join [folder, fileName]) (emitter.bodyText body) after) ∨
    (¬ emitter.Permits (Path.join [folder, fileName]) body world ∧
      ∃ fault after, ((Call.createFile folder fileName body).perform emitter).runOn world =
        (.error fault, after)) := by
  obtain ⟨claimed, ran, files, written, sinks⟩ := Emission.claim_listless listless
    (Path.forwardSlashes (Path.join [folder, fileName]))
  rw [Call.perform, Emission.runOn_discard]
  -- The path is claimed, then registered, then opened; the claim leaves registry and disk alone.
  have clashes : ∀ canonical, claimed.session.clash? canonical = world.session.clash? canonical :=
    fun canonical => by rw [Session.clash?, Session.clash?, written]
  cases opened : world.files.openFile .truncate (Path.join [folder, fileName]) with
  | error error =>
      refine .inr ⟨fun permits => ?_, ?_⟩
      · obtain ⟨_, opens⟩ := FileSystem.openFile_ok_iff.2 permits.opens
        cases opened.symm.trans opens
      · rw [← files] at opened
        cases clash : claimed.session.clash?
          (claimed.files.canonicalPath (Path.join [folder, fileName])) with
        | some existing =>
            rw [runOn_createFile_refused live ran clash]
            exact ⟨_, _, rfl⟩
        | none =>
            have refused := @runOn_writeTo_refused emitter .truncate _ body
              (claimed.enter (claimed.files.canonicalPath (Path.join [folder, fileName]))) _ opened
            rw [runOn_createFile_fresh live ran clash, refused]
            exact ⟨_, _, rfl⟩
  | ok result =>
      obtain ⟨files', place⟩ := result
      have opens := FileSystem.openFile_ok_iff.1 ⟨files', opened⟩
      obtain ⟨proper, rfl⟩ := rooted.proper_of_opensAt free opens
      have canonical : claimed.files.canonicalPath (Path.join [folder, fileName]) =
          Path.join [folder, fileName] := by
        rw [files]
        exact proper.canonicalPath_eq free
      cases clash : world.session.clash? (Path.join [folder, fileName]) with
      | some existing =>
          refine .inr ⟨fun permits => ?_, ?_⟩
          · cases clash.symm.trans permits.fresh
          · rw [← clashes, ← canonical] at clash
            rw [runOn_createFile_refused live ran clash]
            exact ⟨_, _, rfl⟩
      | none =>
          have fresh := clash
          rw [← clashes, ← canonical] at clash
          rw [← files] at opened
          have wrote := @runOn_writeTo_opened emitter .truncate _ body
            (claimed.enter (claimed.files.canonicalPath (Path.join [folder, fileName]))) _ _ opened
          rw [runOn_createFile_fresh live ran clash, wrote]
          cases finished : emitter.bodyResult body with
          | error fault =>
              refine .inr ⟨fun permits => ?_, fault, _, rfl⟩
              cases finished.symm.trans permits.runs
          | ok value =>
              cases bodyResult_ok finished
              refine .inl ⟨⟨finished, fresh, opens⟩, _, rfl, ?_, ?_, sinks⟩
              · rw [files] at opened
                exact .of_truncate opened
              · exact congrArg₂ (fun old new => old ++ [new]) written canonical

end Emitter

/-- What is permitted once a file was created was permitted before, and differs from that file in
lower case. -/
theorem World.Adds.permits_iff {world after : World} {file text : String}
    (adds : world.Adds file text after) (proper : Step.Proper file) (free : world.files.LinkFree)
    (free' : after.files.LinkFree) {emitter : Emitter} {other : String}
    (rooted : Step.Rooted other) {body : Writing Unit} :
    emitter.Permits other body after ↔
      emitter.Permits other body world ∧ caseFold file ≠ caseFold other := by
  have clash : after.session.clash? other = none ↔
      world.session.clash? other = none ∧ caseFold file ≠ caseFold other := by
    rw [Session.clash?, Session.clash?, adds.written, List.find?_append, Option.or_eq_none_iff]
    simp
  have apart : Step.Proper other → caseFold file ≠ caseFold other →
      Path.location other ≠ Path.location file := by
    intro proper' differ same
    exact differ (congrArg caseFold (proper'.eq_of_location proper same).symm)
  constructor
  · intro permits
    obtain ⟨fresh, differ⟩ := clash.1 permits.fresh
    have proper' := (rooted.proper_of_opensAt free' permits.opens).1
    exact ⟨⟨permits.runs, fresh, (adds.files.opensAt_iff (apart proper' differ)).1 permits.opens⟩,
      differ⟩
  · rintro ⟨permits, differ⟩
    have proper' := (rooted.proper_of_opensAt free permits.opens).1
    exact ⟨permits.runs, clash.2 ⟨permits.fresh, differ⟩,
      (adds.files.opensAt_iff (apart proper' differ)).2 permits.opens⟩

/-! ## Creating files in a row -/

namespace Step

/-- A step that creates a file of its own below an absolute folder, or stops. -/
def Orderly : Step → Prop
  | .call (.createFile folder fileName _) => Rooted (Path.join [folder, fileName])
  | .stop _ => True
  | _ => False

/-- A step that creates a file which may be created. -/
def Permitted (emitter : Emitter) (world : World) : Step → Prop
  | .call (.createFile folder fileName body) =>
    emitter.Permits (Path.join [folder, fileName]) body world
  | _ => False

/-- Steps that can all be taken, in whichever order: each is permitted, and no two of their files
are the same in lower case. -/
structure AllPermitted (emitter : Emitter) (world : World) (steps : List Step) : Prop where
  each : ∀ step ∈ steps, step.Permitted emitter world
  apart : ((files steps).map caseFold).Nodup

/-- Before and after files are created: they have their texts, and all else is as it was. -/
structure Outcome (emitter : Emitter) (steps : List Step) (world after : World) : Prop where
  cwd : after.files.cwd = world.files.cwd
  created : ∀ folder fileName body, .call (.createFile folder fileName body) ∈ steps →
    after.files.node? (Path.location (Path.join [folder, fileName])) =
      some (.file (emitter.bodyText body))
  kept : ∀ place, (∀ folder fileName body, .call (.createFile folder fileName body) ∈ steps →
      Path.location (Path.join [folder, fileName]) ≠ place) →
    after.files.node? place = world.files.node? place
  written : after.session.written = world.session.written ++ files steps
  sinks : after.session.sinks = world.session.sinks

variable {emitter : Emitter} {steps steps' : List Step} {world after : World}

theorem Orderly.cases {step : Step} (orderly : step.Orderly) :
    (∃ error, step = .stop error) ∨
      ∃ folder fileName body, step = .call (.createFile folder fileName body) ∧
        Rooted (Path.join [folder, fileName]) := by
  cases step with
  | stop error => exact .inl ⟨error, rfl⟩
  | call request =>
      cases request with
      | createFile folder fileName body => exact .inr ⟨folder, fileName, body, rfl, orderly⟩
      | createFileOnce folder fileName body => cases orderly
      | appendToFile folder fileName body => cases orderly
      | createFolder label folder => cases orderly
  | enter slot => cases orderly
  | announce slot => cases orderly

theorem Permitted.exists {step : Step} (permitted : step.Permitted emitter world) :
    ∃ folder fileName body, step = .call (.createFile folder fileName body) ∧
      emitter.Permits (Path.join [folder, fileName]) body world := by
  cases step with
  | call request =>
      cases request with
      | createFile folder fileName body => exact ⟨folder, fileName, body, rfl, permitted⟩
      | createFileOnce folder fileName body => cases permitted
      | appendToFile folder fileName body => cases permitted
      | createFolder label folder => cases permitted
  | _ => cases permitted

theorem files_cons_create (folder fileName : String) (body : Writing Unit) (steps : List Step) :
    files (.call (.createFile folder fileName body) :: steps) =
      Path.join [folder, fileName] :: files steps :=
  rfl

/-- A step is permitted after a file was created if it was permitted before and its own file differs
from that file in lower case. -/
theorem permitted_iff_of_adds {file text : String} (adds : world.Adds file text after)
    (proper : Proper file) (free : world.files.LinkFree) (free' : after.files.LinkFree)
    {step : Step} (orderly : step.Orderly) :
    step.Permitted emitter after ↔
      step.Permitted emitter world ∧ ∀ other ∈ files [step], caseFold file ≠ caseFold other := by
  rcases orderly.cases with ⟨error, rfl⟩ | ⟨folder, fileName, body, rfl, rooted⟩
  · simp [Permitted]
  · have single : files [.call (.createFile folder fileName body)] =
        [Path.join [folder, fileName]] := rfl
    rw [single, List.forall_mem_singleton]
    exact adds.permits_iff proper free free' rooted

/-- Once a file was created, the other steps can be taken if all of them could be before. -/
theorem allPermitted_cons_iff {folder fileName text : String} {body : Writing Unit}
    (adds : world.Adds (Path.join [folder, fileName]) text after)
    (permits : emitter.Permits (Path.join [folder, fileName]) body world)
    (proper : Proper (Path.join [folder, fileName])) (free : world.files.LinkFree)
    (free' : after.files.LinkFree) (orderly : ∀ step ∈ steps, step.Orderly) :
    AllPermitted emitter world (.call (.createFile folder fileName body) :: steps) ↔
      AllPermitted emitter after steps := by
  have differ : (∀ step ∈ steps, ∀ other ∈ files [step],
      caseFold (Path.join [folder, fileName]) ≠ caseFold other) ↔
        caseFold (Path.join [folder, fileName]) ∉ (files steps).map caseFold := by
    constructor
    · intro each member
      obtain ⟨other, among, same⟩ := List.mem_map.1 member
      obtain ⟨step, asked, own⟩ := mem_files_iff.1 among
      exact each step asked other own same.symm
    · intro absent step asked other own same
      exact absent (List.mem_map.2 ⟨other, mem_files_iff.2 ⟨step, asked, own⟩, same.symm⟩)
  constructor
  · rintro ⟨each, apart⟩
    rw [files_cons_create, List.map_cons, List.nodup_cons, ← differ] at apart
    refine ⟨fun step member => ?_, apart.2⟩
    refine (permitted_iff_of_adds adds proper free free' (orderly step member)).2 ⟨?_, ?_⟩
    · exact each step (List.mem_cons_of_mem _ member)
    · exact apart.1 step member
  · rintro ⟨each, apart⟩
    have before : ∀ step ∈ steps, step.Permitted emitter world ∧
        ∀ other ∈ files [step], caseFold (Path.join [folder, fileName]) ≠ caseFold other :=
      fun step member => (permitted_iff_of_adds adds proper free free' (orderly step member)).1
        (each step member)
    refine ⟨List.forall_mem_cons.2 ⟨permits, fun step member => (before step member).1⟩, ?_⟩
    rw [files_cons_create, List.map_cons, List.nodup_cons, ← differ]
    exact ⟨fun step member => (before step member).2, apart⟩

/-- Files that may be created have proper paths. -/
theorem proper_of_permitted (free : world.files.LinkFree) (orderly : ∀ step ∈ steps, step.Orderly)
    (permitted : ∀ step ∈ steps, step.Permitted emitter world) :
    ∀ file ∈ files steps, Proper file := by
  intro file member
  obtain ⟨step, among, picked⟩ := List.mem_filterMap.1 member
  obtain ⟨folder, fileName, body, rfl, permits⟩ := (permitted step among).exists
  have rooted : Rooted (Path.join [folder, fileName]) := orderly _ among
  cases picked
  exact (rooted.proper_of_opensAt free permits.opens).1

/-- The first file keeps its text while the others, which differ from it, are created. -/
theorem Outcome.cons {folder fileName : String} {body : Writing Unit} {middle : World}
    (adds : world.Adds (Path.join [folder, fileName]) (emitter.bodyText body) middle)
    (apart : ∀ folder' fileName' body', .call (.createFile folder' fileName' body') ∈ steps →
      Path.location (Path.join [folder', fileName']) ≠
        Path.location (Path.join [folder, fileName]))
    (outcome : Outcome emitter steps middle after) :
    Outcome emitter (.call (.createFile folder fileName body) :: steps) world after := by
  refine ⟨outcome.cwd.trans adds.files.cwd, ?_, ?_, ?_, outcome.sinks.trans adds.sinks⟩
  · intro folder' fileName' body' member
    rcases List.mem_cons.1 member with same | member
    · cases same
      rw [outcome.kept _ apart]
      exact adds.files.here
    · exact outcome.created folder' fileName' body' member
  · intro place spared
    have away := spared folder fileName body List.mem_cons_self
    rw [outcome.kept place fun folder' fileName' body' member =>
      spared folder' fileName' body' (List.mem_cons_of_mem _ member)]
    exact adds.files.elsewhere place (Ne.symm away)
  · rw [outcome.written, adds.written, files_cons_create]
    simp

/-- Orderly steps succeed together exactly if they are all permitted at the start. -/
theorem performAll_orderly (live : emitter.skip = false) (listless : world.Listless)
    (free : world.files.LinkFree) (orderly : ∀ step ∈ steps, step.Orderly) :
    (AllPermitted emitter world steps ∧
      ∃ after, (performAll emitter steps).runOn world = (.ok (), after) ∧
        Outcome emitter steps world after) ∨
    (¬ AllPermitted emitter world steps ∧
      ∃ fault after, (performAll emitter steps).runOn world = (.error fault, after)) := by
  induction steps generalizing world with
  | nil =>
      refine .inl ⟨⟨nofun, List.nodup_nil⟩, world, rfl, rfl, nofun, fun _ _ => rfl, ?_, rfl⟩
      exact (List.append_nil _).symm
  | cons step steps ih =>
      obtain ⟨here, others⟩ := List.forall_mem_cons.1 orderly
      rw [performAll_cons]
      rcases here.cases with ⟨error, rfl⟩ | ⟨folder, fileName, body, rfl, rooted⟩
      · refine .inr ⟨fun permitted => ?_, _, world, Emission.runOn_bind_error rfl _⟩
        cases permitted.each _ List.mem_cons_self
      rcases Emitter.createFile_cases live listless free rooted body with
        ⟨permits, middle, ran, adds⟩ | ⟨refuses, fault, middle, ran⟩
      · have first : (perform emitter (.call (.createFile folder fileName body))).runOn world =
            (.ok (), middle) := ran
        have proper := (rooted.proper_of_opensAt free permits.opens).1
        have free' : middle.files.LinkFree :=
          fun place target entry => free place target (adds.files.link_iff.1 entry)
        have listless' : middle.Listless := fun path => adds.sinks ▸ listless path
        have split := allPermitted_cons_iff adds permits proper free free' others
        rw [Emission.runOn_bind_ok first, split]
        rcases ih listless' free' others with ⟨permitted, after, rest, outcome⟩ |
          ⟨refused, fault, after, rest⟩
        · refine .inl ⟨permitted, after, rest, outcome.cons adds ?_⟩
          -- A file at the same location would have the same path, and so clash.
          intro folder' fileName' body' among same
          have member : Path.join [folder', fileName'] ∈ files steps :=
            List.mem_filterMap.2 ⟨_, among, rfl⟩
          have isProper := proper_of_permitted free' others permitted.each _ member
          rw [isProper.eq_of_location proper same] at member
          have apart := (split.2 permitted).apart
          exact (List.nodup_cons.1 apart).1 (List.mem_map_of_mem member)
        · exact .inr ⟨refused, fault, after, rest⟩
      · refine .inr ⟨fun permitted => ?_, fault, middle, Emission.runOn_bind_error ran _⟩
        exact refuses (permitted.each _ List.mem_cons_self)

end Step

/-! ## Two runs side by side -/

/-- Two worlds with the same disk, in which the same paths are registered in any order. -/
structure World.Matches (world other : World) : Prop where
  files : world.files.Same other.files
  written : world.session.written.Perm other.session.written
  listless : world.Listless
  listless' : other.Listless
  free : world.files.LinkFree

theorem World.Matches.free' {world other : World} (matched : world.Matches other) :
    other.files.LinkFree := by
  intro place target entry
  rw [matched.files.node] at entry
  exact matched.free place target entry

theorem World.Matches.permits {world other : World} (matched : world.Matches other)
    {emitter : Emitter} {file : String} {body : Writing Unit}
    (permits : emitter.Permits file body world) : emitter.Permits file body other := by
  refine ⟨permits.runs, ?_, matched.files.opensAt permits.opens⟩
  have fresh := List.find?_eq_none.1 permits.fresh
  exact List.find?_eq_none.2 fun path member => fresh path (matched.written.mem_iff.2 member)

namespace Step

variable {emitter : Emitter}

/-- Where the first steps succeed, the second ones succeed in a matching world, and the worlds match
afterwards. -/
def Follows (emitter : Emitter) (steps steps' : List Step) : Prop :=
  ∀ world other after, world.Matches other →
    (performAll emitter steps).runOn world = (.ok (), after) →
    ∃ after', (performAll emitter steps').runOn other = (.ok (), after') ∧ after.Matches after'

theorem Follows.append {front front' back back' : List Step}
    (first : Follows emitter front front') (second : Follows emitter back back') :
    Follows emitter (front ++ back) (front' ++ back') := by
  intro world other after matched ran
  obtain ⟨middle, began, rest⟩ := performAll_append_ok ran
  obtain ⟨middle', began', matched'⟩ := first world other middle matched began
  obtain ⟨after', ended, matched''⟩ := second middle middle' after matched' rest
  refine ⟨after', ?_, matched''⟩
  rw [performAll_append, Emission.runOn_bind_ok began']
  exact ended

theorem Follows.flatMap {α : Type} {items : List α} {steps steps' : α → List Step}
    (each : ∀ item ∈ items, Follows emitter (steps item) (steps' item)) :
    Follows emitter (items.flatMap steps) (items.flatMap steps') := by
  induction items with
  | nil =>
      intro world other after matched ran
      cases ran
      exact ⟨other, rfl, matched⟩
  | cons item items ih =>
      obtain ⟨here, others⟩ := List.forall_mem_cons.1 each
      exact here.append (ih others)

theorem follows_stop (error : GenerateError) (steps : List Step) :
    Follows emitter [.stop error] steps := by
  intro world other after matched ran
  cases ran

/-- A step that leaves disk and session alone. -/
theorem follows_idle {step : Step} (idle : ∀ world, ∃ journal printed,
      (step.perform emitter).runOn world = (.ok (), { world with journal, printed })) :
    Follows emitter [step] [step] := by
  intro world other after matched ran
  rw [performAll_singleton] at ran ⊢
  obtain ⟨journal, printed, done⟩ := idle world
  obtain ⟨journal', printed', done'⟩ := idle other
  cases ran.symm.trans done
  exact ⟨_, done', matched.files, matched.written, matched.listless, matched.listless',
    matched.free⟩

/-- The same folders are created on the same disk. -/
theorem follows_folder (live : emitter.skip = false) (label folder : String) :
    Follows emitter [.call (.createFolder label folder)] [.call (.createFolder label folder)] := by
  intro world other after matched ran
  rw [performAll_singleton, perform, Call.perform] at ran ⊢
  obtain ⟨cause, printed, made⟩ := @Emitter.runOn_createFolder emitter folder world label live
  obtain ⟨cause', printed', made'⟩ := @Emitter.runOn_createFolder emitter folder other label live
  have same := matched.files.makeFolders folder
  rw [made] at ran
  obtain ⟨result, rfl⟩ := Prod.mk.inj ran
  have isFolder : (other.files.makeFolders folder).1.isDirectory folder = true := by
    rw [same.isDirectory_eq]
    unfold Emitter.folderResult at result
    split at result
    · assumption
    · split at result <;> cases result
  rw [made', Emitter.folderResult, if_pos isFolder]
  refine ⟨_, rfl, same, matched.written, matched.listless, matched.listless', ?_⟩
  exact matched.free.grows (FileSystem.makeFolders_grows world.files folder)

/-- What files in a row leave is the same in any order. -/
theorem Outcome.matches {steps steps' : List Step} (perm : steps.Perm steps')
    {world other after after' : World} (matched : world.Matches other)
    (free : after.files.LinkFree) (outcome : Outcome emitter steps world after)
    (outcome' : Outcome emitter steps' other after') : after.Matches after' := by
  have asked : (files steps).Perm (files steps') := perm.filterMap _
  refine ⟨⟨?_, fun place => ?_⟩, ?_, ?_, ?_, free⟩
  · rw [outcome'.cwd, outcome.cwd, matched.files.cwd]
  · by_cases made : ∃ folder fileName body, .call (.createFile folder fileName body) ∈ steps ∧
        Path.location (Path.join [folder, fileName]) = place
    · obtain ⟨folder, fileName, body, member, rfl⟩ := made
      rw [outcome.created folder fileName body member,
        outcome'.created folder fileName body (perm.mem_iff.1 member)]
    · have spared : ∀ folder fileName body, .call (.createFile folder fileName body) ∈ steps →
          Path.location (Path.join [folder, fileName]) ≠ place :=
        fun folder fileName body member same => made ⟨folder, fileName, body, member, same⟩
      rw [outcome.kept place spared, outcome'.kept place fun folder fileName body member =>
        spared folder fileName body (perm.mem_iff.2 member), matched.files.node]
  · rw [outcome.written, outcome'.written]
    exact matched.written.append asked
  · exact fun path => outcome.sinks ▸ matched.listless path
  · exact fun path => outcome'.sinks ▸ matched.listless' path

theorem AllPermitted.of_perm {steps steps' : List Step} {world other : World}
    (permitted : AllPermitted emitter world steps) (perm : steps.Perm steps')
    (matched : world.Matches other) : AllPermitted emitter other steps' := by
  refine ⟨fun step member => ?_, ?_⟩
  · obtain ⟨folder, fileName, body, rfl, permits⟩ :=
      (permitted.each step (perm.mem_iff.2 member)).exists
    exact matched.permits permits
  · exact ((perm.filterMap _).map caseFold).nodup_iff.1 permitted.apart

/-- Orderly steps can be taken in any order. -/
theorem follows_of_perm (live : emitter.skip = false) {steps steps' : List Step}
    (orderly : ∀ step ∈ steps, step.Orderly) (perm : steps.Perm steps') :
    Follows emitter steps steps' := by
  intro world other after matched ran
  have ready : world.Ready := fun path attached => absurd attached (matched.listless path)
  have extended := extends_of_performAll ready ran
  rcases performAll_orderly live matched.listless matched.free orderly with
    ⟨permitted, _, ended, outcome⟩ | ⟨-, _, _, ended⟩
  · cases ran.symm.trans ended
    have orderly' : ∀ step ∈ steps', step.Orderly :=
      fun step member => orderly step (perm.mem_iff.2 member)
    rcases performAll_orderly live matched.listless' matched.free' orderly' with
      ⟨-, after', ran', outcome'⟩ | ⟨refused, -⟩
    · have free := matched.free.grows extended.grows
      exact ⟨after', ran', outcome.matches perm matched free outcome'⟩
    · exact absurd (permitted.of_perm perm matched) refused
  · cases ran.symm.trans ended

end Step

/-! ## Slots -/

section

variable [YamlPackage]

/-- Where every declaration has files of its own, generators ask for nothing but files below
absolute folders. -/
theorem Slot.orderly_of_mem {config : Config} (grounded : config.Grounded)
    (unbridged : config.objc.swiftBridgingHeaderName = none)
    (unshared : config.yaml.outFile = none) {decls : List TypeDecl} {slot : Slot} {step : Step}
    (member : step ∈ slot.backendSteps config decls) : step.Orderly := by
  cases asks_of_mem member with
  | stop error => trivial
  | cpp setting => exact ⟨_, _, grounded.cpp _ setting, rfl⟩
  | objc setting => exact ⟨_, _, grounded.objc _ setting, rfl⟩
  | descriptor setting => exact ⟨_, _, grounded.yaml _ setting, rfl⟩
  | bridge setting named => simp [unbridged] at named
  | bridgeImport setting named => simp [unbridged] at named
  | sharedTop setting shared => simp [unshared] at shared
  | sharedDocument setting shared => simp [unshared] at shared

/-- A slot does the same for declarations in another order. -/
theorem Slot.steps_follows {config : Config} (grounded : config.Grounded)
    (unbridged : config.objc.swiftBridgingHeaderName = none)
    (unshared : config.yaml.outFile = none) {emitter : Emitter} (live : emitter.skip = false)
    {decls decls' : List TypeDecl} (nodup : (decls.map (·.name)).Nodup)
    (perm : decls.Perm decls') (slot : Slot) :
    Step.Follows emitter (slot.steps config decls) (slot.steps config decls') := by
  unfold Slot.steps
  split
  · split
    · exact Step.follows_stop _ _
    · have generates := Step.follows_of_perm live
        (fun step => Slot.orderly_of_mem grounded unbridged unshared)
        (slot.backendSteps_perm config nodup perm)
      have folders := @Step.Follows.flatMap emitter _ (slot.folders config) _ _ fun folder _ =>
        Step.follows_folder live folder.name folder.path
      rw [← List.map_eq_flatMap] at folders
      have enters := @Step.follows_idle emitter (.enter slot) fun world => ⟨_, _, rfl⟩
      have announces := @Step.follows_idle emitter (.announce slot) fun world => ⟨_, _, rfl⟩
      exact enters.append (folders.append (announces.append generates))
  · intro world other after matched ran
    cases ran
    exact ⟨other, rfl, matched⟩

/-! ## Whole runs -/

/-- A session without a list of its own starts with no effect on the disk. -/
theorem runOn_freshRun_unlisted {options : Emission.SessionOptions}
    (unlisted : options.manifestFile = none) (config : Config) (decls : List TypeDecl)
    (world : World) :
    (freshRun options config decls).runOn world =
      answered ((attachOutFileList config >>= fun _ =>
        Step.performAll { skip := config.skipGeneration } (plan config decls)).runOn
          { world with session := options.session }) := by
  have started : (Emission.startSession options).runOn world =
      (.ok (), { world with session := options.session }) := by
    rw [Emission.runOn_startSession, unlisted]
    rfl
  unfold freshRun
  rw [Emission.runOn_bind_ok started, runOn_generate, runSlots_bundled]

/-- Without lists, a run follows its plan from the disk as it is. -/
theorem freshRun_unlisted {options : Emission.SessionOptions}
    (unlisted : options.manifestFile = none) {config : Config}
    (unattached : config.outFileList = none) (decls : List TypeDecl) (world after : World) :
    (freshRun options config decls).runOn world = (.ok none, after) ↔
      (Step.performAll { skip := config.skipGeneration } (plan config decls)).runOn
        { world with session := options.session } = (.ok (), after) := by
  rw [runOn_freshRun_unlisted unlisted, answered_eq_iff, Emission.runOn_bind,
    runOn_attachOutFileList, unattached]

/-- A run over declarations with different names succeeds in any order of them. -/
theorem freshRun_perm {options : Emission.SessionOptions} (unlisted : options.manifestFile = none)
    {config : Config} (grounded : config.Grounded) (live : config.skipGeneration = false)
    (unbridged : config.objc.swiftBridgingHeaderName = none)
    (unshared : config.yaml.outFile = none) (unattached : config.outFileList = none)
    {decls decls' : List TypeDecl} (nodup : (decls.map (·.name)).Nodup)
    (perm : decls.Perm decls') {world after : World} (free : world.files.LinkFree)
    (ran : (freshRun options config decls).runOn world = (.ok none, after)) :
    ∃ after', (freshRun options config decls').runOn world = (.ok none, after') ∧
      after.files.Same after'.files := by
  have start : World.Matches { world with session := options.session }
      { world with session := options.session } :=
    ⟨.refl _, .refl _, options.no_list, options.no_list, free⟩
  rw [freshRun_unlisted unlisted unattached] at ran
  obtain ⟨after', ran', matched⟩ := @Step.Follows.flatMap { skip := config.skipGeneration } _
    Slot.all _ _ (fun slot _ => slot.steps_follows grounded unbridged unshared live nodup perm)
    _ _ after start ran
  exact ⟨after', (freshRun_unlisted unlisted unattached decls' world after').2 ran', matched.files⟩

/-- The order of declarations with different names makes no difference where each has files of its
own and no list of paths is kept: a run succeeds in both orders or in none, and leaves the same
disk. Names are Unicode texts, so different names are different on the disk. Of names with unpaired
surrogates this would not hold. -/
theorem declaration_order_irrelevant {options : Emission.SessionOptions} {base : BaseDir}
    {value : Value} {config : Config} {decls decls' : List TypeDecl} {world : World}
    (built : buildConfig base value = .ok config) (live : config.skipGeneration = false)
    (unbridged : config.objc.swiftBridgingHeaderName = none)
    (unshared : config.yaml.outFile = none) (unattached : config.outFileList = none)
    (unlisted : options.manifestFile = none) (nodup : (decls.map (·.name)).Nodup)
    (perm : decls.Perm decls') (free : world.files.LinkFree) :
    (((freshRun options config decls).runOn world).1 = .ok none ↔
      ((freshRun options config decls').runOn world).1 = .ok none) ∧
    (((freshRun options config decls).runOn world).1 = .ok none →
      ((freshRun options config decls).runOn world).2.files.Same
        ((freshRun options config decls').runOn world).2.files) := by
  have grounded := grounded_of_buildConfig built
  have nodup' : (decls'.map (·.name)).Nodup := (perm.map _).nodup_iff.1 nodup
  refine ⟨⟨fun ran => ?_, fun ran => ?_⟩, fun ran => ?_⟩
  · obtain ⟨after', ran', -⟩ := freshRun_perm unlisted grounded live unbridged unshared unattached
      nodup perm free (Prod.ext ran rfl)
    rw [ran']
  · obtain ⟨after, ran', -⟩ := freshRun_perm unlisted grounded live unbridged unshared unattached
      nodup' perm.symm free (Prod.ext ran rfl)
    rw [ran']
  · obtain ⟨after', ran', same⟩ := freshRun_perm unlisted grounded live unbridged unshared
      unattached nodup perm free (Prod.ext ran rfl)
    rw [ran']
    exact same

end

/-- A record with a field whose type is the enum. -/
def pixelDecl : TypeDecl where
  name := "pixel"
  params := []
  doc := []
  origin := "color.yaml"
  scope := .defined
  body := .record [⟨"shade", .mk "color" [], []⟩]

/-- Settings with three targets, each with files of its own. -/
def threeTargets : Value :=
  .map [("cpp", .map [("out_folder", .str "cpp")]), ("objc", .map [("out_folder", .str "objc")]),
    ("yaml", .map [("out_folder", .str "yaml")])]

open scoped Yaml in
theorem threeTargets_reordered :
    ∃ config, buildConfig ⟨"/", "/"⟩ threeTargets = .ok config ∧ config.skipGeneration = false ∧
      config.objc.swiftBridgingHeaderName = none ∧ config.yaml.outFile = none ∧
      config.outFileList = none ∧ ([colorDecl, pixelDecl].map (·.name)).Nodup ∧
      [colorDecl, pixelDecl].Perm [pixelDecl, colorDecl] ∧ emptyWorld.files.LinkFree ∧
      ((freshRun {} config [colorDecl, pixelDecl]).runOn emptyWorld).1 = .ok none ∧
      ((freshRun {} config [pixelDecl, colorDecl]).runOn emptyWorld).1 = .ok none ∧
      ((freshRun {} config [colorDecl, pixelDecl]).runOn emptyWorld).2.files.Same
        ((freshRun {} config [pixelDecl, colorDecl]).runOn emptyWorld).2.files := by
  have evaluated : ((buildConfig ⟨"/", "/"⟩ threeTargets).toOption.any fun config =>
      !config.skipGeneration && config.objc.swiftBridgingHeaderName.isNone &&
        config.yaml.outFile.isNone && config.outFileList.isNone &&
        ((freshRun {} config [colorDecl, pixelDecl]).runOn emptyWorld).1.toOption.any
          (·.isNone)) = true := by
    decide +kernel
  cases built : buildConfig ⟨"/", "/"⟩ threeTargets with
  | error error =>
      rw [built] at evaluated
      cases evaluated
  | ok config =>
      rw [built] at evaluated
      simp only [Except.toOption, Option.any_some, Bool.and_eq_true, Bool.not_eq_true',
        Option.isNone_iff_eq_none] at evaluated
      obtain ⟨⟨⟨⟨live, unbridged⟩, unshared⟩, unattached⟩, answer⟩ := evaluated
      have ran := eq_ok_none_of_any answer
      have nodup : ([colorDecl, pixelDecl].map (·.name)).Nodup := by decide
      have perm : [colorDecl, pixelDecl].Perm [pixelDecl, colorDecl] := .swap _ _ _
      obtain ⟨succeeds, same⟩ := @declaration_order_irrelevant _ {} _ _ _ _ _ emptyWorld built live
        unbridged unshared unattached rfl nodup perm emptyWorld_linkFree
      exact ⟨config, rfl, live, unbridged, unshared, unattached, nodup, perm, emptyWorld_linkFree,
        ran, succeeds.1 ran, same ran⟩

end BridgeCode
