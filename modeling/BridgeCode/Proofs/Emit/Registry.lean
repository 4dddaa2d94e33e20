import BridgeCode.Proofs.Emit.Calls

/-!
The registry of written files over whole histories of a session.

A history is a list of deeds: calls to the emitter, whatever comes of them, and changes of the disk
from outside between them. The paths that a history asked for are kept beside it (`Deed.asked`),
with their repetitions and without a look at the registry.

* `clash?_afterAll`: the registry answers a path with the first path asked for that is the same in
  lower case.
* `nodup_written`, `written_prefix`: no two registered paths are the same in lower case, and the
  registry grows at its end.
* `createFile_refused_iff_first_asked`: so the answer to a request is decided by the first path
  asked for, in both directions, and a refusal changes nothing but the manifest.
-/

namespace BridgeCode

/-- Something that happens during a session. -/
inductive Deed where
  | call (call : Call)
  /-- The disk was changed from outside. -/
  | outside (files : FileSystem)

namespace Deed

open Emission

variable {emitter : Emitter} {world start : World}

/-- The world after a deed. -/
def after (emitter : Emitter) (world : World) : Deed → World
  | .call request => request.after emitter world
  | .outside files => { world with files }

/-- The canonical path that a deed asks the registry for. A path that cannot be claimed is not asked
for; a shared file is asked for before it is claimed. -/
def asks? (world : World) : Deed → Option String
  | .call (.createFile folder fileName _) =>
    let file := Path.join [folder, fileName]
    match (claim (Path.forwardSlashes file)).runOn world with
    | (.ok _, claimed) => some (claimed.files.canonicalPath file)
    | (.error _, _) => none
  | .call (.createFileOnce folder fileName _) =>
    some (world.files.canonicalPath (Path.join [folder, fileName]))
  | _ => none

/-- The world after a history. -/
def afterAll (emitter : Emitter) (world : World) (deeds : List Deed) : World :=
  deeds.foldl (after emitter) world

/-- All paths that a history asks for, in order. -/
def asked (emitter : Emitter) : World → List Deed → List String
  | _, [] => []
  | world, deed :: deeds =>
    (deed.asks? world).toList ++ asked emitter (deed.after emitter world) deeds

/-- The first path asked for that is the same in lower case. -/
def firstAsked? (emitter : Emitter) (start : World) (deeds : List Deed) (canonical : String) :
    Option String :=
  (asked emitter start deeds).find? fun path => caseFold path == caseFold canonical

theorem afterAll_append (world : World) (deeds more : List Deed) :
    afterAll emitter world (deeds ++ more) = afterAll emitter (afterAll emitter world deeds) more :=
  List.foldl_append

end Deed

/-! ## One deed -/

/-- The registered paths after one more was asked for. -/
def Session.writtenWith (session : Session) (asked : Option String) : List String :=
  match asked with
  | none => session.written
  | some canonical => (session.register canonical).2.written

theorem Session.writtenWith_clash {session : Session} {canonical existing : String}
    (clash : session.clash? canonical = some existing) :
    session.writtenWith (some canonical) = session.written := by
  simp only [writtenWith, register, clash]

theorem Session.writtenWith_fresh {session : Session} {canonical : String}
    (fresh : session.clash? canonical = none) :
    session.writtenWith (some canonical) = session.written ++ [canonical] := by
  simp only [writtenWith, register, fresh]

namespace Emitter

open Emission

variable {emitter : Emitter} {folder fileName : String} {body : Writing Unit} {world : World}

theorem createFile_written (live : emitter.skip = false) :
    ((emitter.createFile folder fileName body).runOn world).2.session.written =
      world.session.writtenWith ((Deed.call (.createFile folder fileName body)).asks? world) := by
  have claims := claim_moves (Path.forwardSlashes (Path.join [folder, fileName])) world
  rcases claimed : (claim (Path.forwardSlashes (Path.join [folder, fileName]))).runOn world with
    ⟨fault | _, middle⟩
  · rw [runOn_createFile_unclaimed claimed]
    rw [claimed] at claims
    simp only [Deed.asks?, claimed]
    exact claims.written
  rw [claimed] at claims
  simp only [Deed.asks?, claimed]
  have same : ∀ canonical, world.session.clash? canonical = middle.session.clash? canonical :=
    fun canonical => by rw [Session.clash?, Session.clash?, claims.written]
  cases clash :
    middle.session.clash? (middle.files.canonicalPath (Path.join [folder, fileName])) with
  | some existing =>
      rw [runOn_createFile_refused live claimed clash,
        Session.writtenWith_clash ((same _).trans clash)]
      exact claims.written
  | none =>
      rw [runOn_createFile_fresh live claimed clash, writeTo_session,
        Session.writtenWith_fresh ((same _).trans clash), ← claims.written]
      rfl

theorem createFileOnce_written (live : emitter.skip = false) :
    ((emitter.createFileOnce folder fileName body).runOn world).2.session.written =
      world.session.writtenWith
        ((Deed.call (.createFileOnce folder fileName body)).asks? world) := by
  simp only [Deed.asks?]
  cases clash : world.session.clash? (world.files.canonicalPath (Path.join [folder, fileName])) with
  | some existing =>
      rw [runOn_createFileOnce_again clash, Session.writtenWith_clash clash]
  | none =>
      rw [runOn_createFileOnce_first live clash, Session.writtenWith_fresh clash]
      have claims := claim_moves (Path.forwardSlashes (Path.join [folder, fileName]))
        (world.enter (world.files.canonicalPath (Path.join [folder, fileName])))
      rcases claimed : (claim (Path.forwardSlashes (Path.join [folder, fileName]))).runOn
        (world.enter (world.files.canonicalPath (Path.join [folder, fileName]))) with
        ⟨fault | _, middle⟩
      · rw [claimed] at claims
        rw [runOn_bind_error claimed]
        exact claims.written
      · rw [claimed] at claims
        rw [runOn_bind_ok claimed, writeTo_session]
        exact claims.written

end Emitter

/-- A deed registers what it asks for, unless that is a registered path in lower case. -/
theorem Deed.after_written {emitter : Emitter} (live : emitter.skip = false) (world : World)
    (deed : Deed) :
    (deed.after emitter world).session.written = world.session.writtenWith (deed.asks? world) := by
  cases deed with
  | outside files => rfl
  | call request =>
      rw [after, Call.after]
      cases request with
      | createFile folder fileName body =>
          rw [Call.perform, Emission.runOn_discard]
          exact Emitter.createFile_written live
      | createFileOnce folder fileName body =>
          rw [Call.perform, Emission.runOn_discard]
          exact Emitter.createFileOnce_written live
      | appendToFile folder fileName body =>
          rw [Call.perform, Emission.runOn_discard, Emitter.runOn_appendToFile live,
            Emitter.writeTo_session]
          rfl
      | createFolder label folder =>
          obtain ⟨cause, printed, ran⟩ :=
            @Emitter.runOn_createFolder emitter folder world label live
          rw [Call.perform, ran]
          rfl

/-! ## Histories -/

namespace Deed

variable {emitter : Emitter} {start : World}

theorem written_prefix_after (live : emitter.skip = false) (world : World) (deed : Deed) :
    world.session.written <+: (deed.after emitter world).session.written := by
  rw [deed.after_written live]
  cases deed.asks? world with
  | none => exact List.prefix_refl _
  | some canonical =>
      cases clash : world.session.clash? canonical with
      | some existing => exact Session.writtenWith_clash clash ▸ List.prefix_refl _
      | none =>
          rw [Session.writtenWith_fresh clash]
          exact List.prefix_append _ _

/-- The registry grows at its end. -/
theorem written_prefix (live : emitter.skip = false) (world : World) (deeds : List Deed) :
    world.session.written <+: (afterAll emitter world deeds).session.written := by
  induction deeds generalizing world with
  | nil => exact List.prefix_refl _
  | cons deed deeds ih => exact (written_prefix_after live world deed).trans (ih _)

/-- No two registered paths are the same in lower case. -/
theorem nodup_written (live : emitter.skip = false)
    (nodup : (start.session.written.map caseFold).Nodup) (deeds : List Deed) :
    ((afterAll emitter start deeds).session.written.map caseFold).Nodup := by
  induction deeds generalizing start with
  | nil => exact nodup
  | cons deed deeds ih =>
      refine @ih (deed.after emitter start) ?_
      rw [deed.after_written live]
      cases deed.asks? start with
      | none => exact nodup
      | some canonical =>
          cases clash : start.session.clash? canonical with
          | some existing =>
              rw [Session.writtenWith_clash clash]
              exact nodup
          | none =>
              have free := List.find?_eq_none.1 clash
              rw [Session.writtenWith_fresh clash, List.map_append, List.nodup_append]
              refine ⟨nodup, by simp, ?_⟩
              intro fold registered other single
              obtain ⟨path, member, rfl⟩ := List.mem_map.1 registered
              rw [List.mem_singleton.1 single]
              simpa using free path member

/-- The registry answers as if all of `asked` were in it. -/
def Answers (session : Session) (asked : List String) : Prop :=
  ∀ canonical,
    session.clash? canonical = asked.find? fun path => caseFold path == caseFold canonical

theorem answers_after (live : emitter.skip = false) {world : World} {asked : List String}
    (answers : Answers world.session asked) (deed : Deed) :
    Answers (deed.after emitter world).session (asked ++ (deed.asks? world).toList) := by
  intro canonical
  rw [List.find?_append, ← answers canonical, Session.clash?, deed.after_written live]
  cases deed.asks? world with
  | none => exact (Option.or_none).symm
  | some other =>
      cases clash : world.session.clash? other with
      | none =>
          rw [Session.writtenWith_fresh clash, List.find?_append]
          rfl
      | some existing =>
          rw [Session.writtenWith_clash clash, Option.toList_some, List.find?_singleton]
          -- What is the same as `other` is the same as `existing`, which was there before.
          by_cases same : caseFold other = caseFold canonical
          · rw [Session.clash?, same] at clash
            rw [Session.clash?, clash]
            rfl
          · rw [if_neg (by simpa using same), Option.or_none]
            rfl

theorem answers_afterAll (live : emitter.skip = false) {world : World} {earlier : List String}
    (answers : Answers world.session earlier) (deeds : List Deed) :
    Answers (afterAll emitter world deeds).session (earlier ++ asked emitter world deeds) := by
  induction deeds generalizing world earlier with
  | nil =>
      rw [asked, List.append_nil]
      exact answers
  | cons deed deeds ih =>
      rw [asked, ← List.append_assoc]
      exact ih (answers_after live answers deed)

/-- The registry answers with the first path asked for that is the same in lower case. -/
theorem clash?_afterAll (live : emitter.skip = false) (fresh : start.session.written = [])
    (deeds : List Deed) (canonical : String) :
    (afterAll emitter start deeds).session.clash? canonical =
      firstAsked? emitter start deeds canonical := by
  have none : Answers start.session [] := fun canonical => by
    rw [Session.clash?, fresh]
  exact answers_afterAll live none deeds canonical

theorem ready_afterAll (emitter : Emitter) (ready : start.Ready) {deeds : List Deed}
    (calls : ∀ deed ∈ deeds, ∃ request, deed = .call request) :
    (afterAll emitter start deeds).Ready := by
  induction deeds generalizing start with
  | nil => exact ready
  | cons deed deeds ih =>
      obtain ⟨request, rfl⟩ := calls deed List.mem_cons_self
      exact ih ((request.perform_extends emitter ready).ready ready)
        fun other member => calls other (List.mem_cons_of_mem _ member)

end Deed

/-! ## Requests to create a file -/

/-- How a request to create a file is answered: `first` is the path that stands in its way, and
`claimed` is the world after the claim. In that world a refusal leaves off, so no body is run. -/
structure Emitter.Decides (emitter : Emitter) (folder fileName : String) (world claimed : World)
    (canonical : String) (first : Option String) : Prop where
  duplicate : ∀ body, (emitter.createFile folder fileName body).runOn world =
      (.error (.generate (.duplicateOutput (Path.join [folder, fileName]) canonical)), claimed) ↔
    first = some canonical
  collision : ∀ body existing, (emitter.createFile folder fileName body).runOn world =
      (.error (.generate (.caseCollision (Path.join [folder, fileName]) canonical existing)),
        claimed) ↔
    first = some existing ∧ existing ≠ canonical
  registers : ∀ body,
    ((emitter.createFile folder fileName body).runOn world).2.session.written =
        world.session.written ++ [canonical] ↔
      first = none

theorem Emitter.createFile_decides {emitter : Emitter} (live : emitter.skip = false)
    {folder fileName : String} {world claimed : World}
    (ran : (Emission.claim (Path.forwardSlashes (Path.join [folder, fileName]))).runOn world =
      (.ok (), claimed)) :
    emitter.Decides folder fileName world claimed
      (claimed.files.canonicalPath (Path.join [folder, fileName]))
      (world.session.clash? (claimed.files.canonicalPath (Path.join [folder, fileName]))) := by
  have claims := Emission.claim_moves (Path.forwardSlashes (Path.join [folder, fileName])) world
  rw [ran] at claims
  have written : claimed.session.written = world.session.written := claims.written
  have same : ∀ canonical, claimed.session.clash? canonical = world.session.clash? canonical :=
    fun canonical => by rw [Session.clash?, Session.clash?, written]
  generalize eq : claimed.files.canonicalPath (Path.join [folder, fileName]) = canonical
  cases clash : world.session.clash? canonical with
  | some existing =>
      have refused : ∀ body, (emitter.createFile folder fileName body).runOn world =
          (.error (.generate (refusal (Path.join [folder, fileName]) canonical existing)),
            claimed) := by
        intro body
        rw [runOn_createFile_refused live ran (by rw [eq, same, clash]), eq]
      refine ⟨fun body => ?_, fun body other => ?_, fun body => ?_⟩
      · rw [refused body, refusal]
        split
        · next equal => simp [equal]
        · next differ => simpa using differ
      · rw [refused body, refusal]
        split
        · next equal => simpa using fun h => h ▸ equal
        · next differ =>
            constructor
            · intro stopped
              cases stopped
              exact ⟨rfl, differ⟩
            · rintro ⟨found, -⟩
              cases found
              rfl
      · rw [refused body]
        simp [written]
  | none =>
      have entered : ∀ body,
          ((emitter.createFile folder fileName body).runOn world).2.session.written =
            world.session.written ++ [canonical] := by
        intro body
        rw [runOn_createFile_fresh live ran (by rw [eq, same, clash]), writeTo_session, eq,
          ← written]
        rfl
      have moved : ∀ body fault,
          (emitter.createFile folder fileName body).runOn world ≠ (.error fault, claimed) := by
        intro body fault stopped
        have longer := entered body
        rw [stopped, written] at longer
        simp at longer
      refine ⟨fun body => ?_, fun body other => ?_, fun body => ?_⟩
      · simp [moved body]
      · simp [moved body]
      · simp [entered body]

namespace Deed

open Emission

/-- After any history of a fresh session, the first path asked for, which is the first registered,
decides how a request to create a file is answered, once its path is claimed: the same path is a
duplicate, another one that is the same in lower case is a collision that names it, and where there
is none the path is registered. A refusal leaves the world as the claim left it. Only a list of
paths that cannot be written keeps a path from being claimed, which does not happen while the disk
is changed by calls alone. -/
theorem createFile_refused_iff_first_asked {emitter : Emitter} (live : emitter.skip = false)
    {start : World} (fresh : start.session.written = []) (deeds : List Deed)
    (folder fileName : String) :
    ((afterAll emitter start deeds).session.written.map caseFold).Nodup ∧
    (∀ more, (afterAll emitter start deeds).session.written <+:
      (afterAll emitter start (deeds ++ more)).session.written) ∧
    (∀ canonical, (afterAll emitter start deeds).session.written.find?
        (fun path => caseFold path == caseFold canonical) =
      firstAsked? emitter start deeds canonical) ∧
    (∀ claimed, (claim (Path.forwardSlashes (Path.join [folder, fileName]))).runOn
          (afterAll emitter start deeds) = (.ok (), claimed) →
      Claims (Path.forwardSlashes (Path.join [folder, fileName])) (afterAll emitter start deeds)
        claimed ∧
      emitter.Decides folder fileName (afterAll emitter start deeds) claimed
        (claimed.files.canonicalPath (Path.join [folder, fileName]))
        (firstAsked? emitter start deeds
          (claimed.files.canonicalPath (Path.join [folder, fileName])))) ∧
    (∀ fault claimed, (claim (Path.forwardSlashes (Path.join [folder, fileName]))).runOn
          (afterAll emitter start deeds) = (.error fault, claimed) →
      Claims (Path.forwardSlashes (Path.join [folder, fileName])) (afterAll emitter start deeds)
        claimed ∧
      (∃ path reason, .file path ∈ (afterAll emitter start deeds).session.sinks ∧
        fault = .generate (.manifestFailed path reason)) ∧
      ∀ body, (emitter.createFile folder fileName body).runOn (afterAll emitter start deeds) =
        (.error fault, claimed)) ∧
    (start.Ready → (∀ deed ∈ deeds, ∃ request, deed = .call request) →
      ∃ claimed, (claim (Path.forwardSlashes (Path.join [folder, fileName]))).runOn
        (afterAll emitter start deeds) = (.ok (), claimed)) := by
  have nodup : ((afterAll emitter start deeds).session.written.map caseFold).Nodup :=
    nodup_written live (by simp [fresh]) deeds
  have claims := claim_moves (Path.forwardSlashes (Path.join [folder, fileName]))
    (afterAll emitter start deeds)
  refine ⟨nodup, fun more => ?_, clash?_afterAll live fresh deeds, fun claimed ran => ?_,
    fun fault claimed ran => ?_, fun ready calls => ?_⟩
  · rw [afterAll_append]
    exact written_prefix live _ more
  · rw [ran] at claims
    rw [← clash?_afterAll live fresh]
    exact ⟨claims, Emitter.createFile_decides live ran⟩
  · rw [ran] at claims
    exact ⟨claims, claim_error ran, fun body => Emitter.runOn_createFile_unclaimed ran⟩
  · obtain ⟨claimed, ran, -⟩ := claim_ok (ready_afterAll emitter ready calls)
      (Path.forwardSlashes (Path.join [folder, fileName]))
    exact ⟨claimed, ran⟩

/-- A session that has claims recorded, on a disk with one folder. -/
def recordingStart : World where
  files := { cwd := [], entries := [(["out"], .directory)] }
  session := { recording := true }

/-- One file is created, and something is added to it. -/
def oneFileHistory : List Deed :=
  [.call (.createFile "/out" "a.txt" (.line "first")),
    .call (.appendToFile "/out" "a.txt" (.line "second"))]

theorem createFile_refused_upper_case :
    (({} : Emitter).createFile "/out" "A.txt" (.line "third")).runOn
        (afterAll {} recordingStart oneFileHistory) =
      (.error (.generate (.caseCollision "/out/A.txt" "/out/A.txt" "/out/a.txt")),
        ((claim "/out/A.txt").runOn (afterAll {} recordingStart oneFileHistory)).2) := by
  have file : Path.join ["/out", "A.txt"] = "/out/A.txt" := by decide +kernel
  have entry : Path.forwardSlashes "/out/A.txt" = "/out/A.txt" := by decide +kernel
  have canonical : ((claim "/out/A.txt").runOn
      (afterAll {} recordingStart oneFileHistory)).2.files.canonicalPath "/out/A.txt" =
        "/out/A.txt" := by decide +kernel
  have first : firstAsked? {} recordingStart oneFileHistory "/out/A.txt" = some "/out/a.txt" := by
    decide +kernel
  have claimed : (claim "/out/A.txt").runOn (afterAll {} recordingStart oneFileHistory) =
      (.ok (), ((claim "/out/A.txt").runOn (afterAll {} recordingStart oneFileHistory)).2) := rfl
  obtain ⟨-, -, -, decides, -, -⟩ :=
    @createFile_refused_iff_first_asked {} rfl recordingStart rfl oneFileHistory "/out" "A.txt"
  rw [file, entry] at decides
  have decided := (decides _ claimed).2
  rw [canonical, first] at decided
  have refused := (decided.collision (.line "third") "/out/a.txt").2 ⟨rfl, by decide⟩
  rw [file] at refused
  exact refused

end Deed

end BridgeCode
