import BridgeCode.Proofs.Run.Bridging
import BridgeCode.Proofs.Run.Manifest

/-!
The file that descriptors share.

For every declaration the generator asks to create the file and then adds a document to it. Only the
first request finds the path free: it claims the path and writes the banner, over whatever stood
there. Every later request finds the path registered and changes nothing.

* `LinkFree.canonicalPath_grows`: without links, a path is registered and found again under the same
  canonical path, whatever is written in between.
* `World.Collects`: the file is registered and holds the text, and its path is all that is claimed.
  One declaration hands that on to the next (`Descriptor.collects_of_documents`).
* `shared_file_holds_documents`: after a run the file is the banner of the first declaration and the
  documents of all, in their order, and its path was claimed once.
-/

namespace BridgeCode

/-! ## Canonical paths without links -/

namespace FileSystem

/-- Without links, a canonical path stays the same as the disk grows. -/
theorem LinkFree.canonicalPath_grows {fs fs' : FileSystem} (free : fs.LinkFree)
    (grows : fs.Grows fs') (path : String) : fs'.canonicalPath path = fs.canonicalPath path := by
  rw [canonicalPath, canonicalPath, free.canonicalSegments_eq,
    (free.grows grows).canonicalSegments_eq, grows.resolved_eq]

end FileSystem

/-! ## A file that collects texts -/

/-- The disk has no links, the file is registered and holds the text, and its path is the only one
that is claimed. -/
structure World.Collects (file text : String) (world : World) : Prop where
  linkFree : world.files.LinkFree
  noSlash : Path.endsInSlash file = false
  stands : ∃ place, world.files.locate file = .found place ∧
    world.files.node? place = some (.file text)
  registered : world.files.canonicalPath file ∈ world.session.written
  claimed : world.session.claimed = [Path.forwardSlashes file]

theorem World.Collects.read_eq {file text : String} {world : World}
    (collects : world.Collects file text) : world.files.read file = .ok text := by
  obtain ⟨place, located, standing⟩ := collects.stands
  exact FileSystem.read_of_found located standing

namespace Emitter

variable {emitter : Emitter} {folder fileName : String} {body : Writing Unit}
  {world after : World}

/-- The first request for a shared file writes the top of it, over whatever stood there. -/
theorem collects_of_first (live : emitter.skip = false) (ready : world.Ready)
    (free : world.files.LinkFree) (recording : world.session.recording = true)
    (unwritten : world.session.written = []) (unclaimed : world.session.claimed = [])
    (ran : ((Call.createFileOnce folder fileName body).perform emitter).runOn world =
      (.ok (), after)) :
    after.Collects (Path.join [folder, fileName]) (emitter.bodyText body) := by
  have fresh : world.session.clash? (world.files.canonicalPath (Path.join [folder, fileName])) =
      none := by
    rw [Session.clash?, unwritten]
    rfl
  have entered := World.Quiet.enter world (world.files.canonicalPath (Path.join [folder, fileName]))
  obtain ⟨middle, claims, -⟩ := Emission.claim_ok (entered.toExtends.ready ready)
    (Path.forwardSlashes (Path.join [folder, fileName]))
  have moved := Emission.claim_moves (Path.forwardSlashes (Path.join [folder, fileName]))
    (world.enter (world.files.canonicalPath (Path.join [folder, fileName])))
  rw [claims] at moved
  rw [Call.perform, Emission.runOn_discard, runOn_createFileOnce_first live fresh,
    Emission.runOn_bind_ok claims] at ran
  -- A list of paths that is this very file got its line before the file is emptied.
  cases opened : middle.files.openFile .truncate (Path.join [folder, fileName]) with
  | error error =>
      rw [runOn_writeTo_refused opened] at ran
      cases ran
  | ok result =>
      obtain ⟨files, place⟩ := result
      rw [runOn_writeTo_opened opened] at ran
      obtain rfl := congrArg Prod.snd ran
      have filled := FileSystem.appendAt_grows files place (emitter.bodyText body)
      have grows := moved.grows.trans ((FileSystem.openFile_grows opened).trans filled)
      refine ⟨free.grows grows, (FileSystem.openFile_ok opened).1,
        ⟨place, FileSystem.Grows.locate_opened opened filled, ?_⟩, ?_, ?_⟩
      · exact (FileSystem.WritesAt.of_truncate opened).here
      · show (files.appendAt place (emitter.bodyText body)).canonicalPath _ ∈ middle.session.written
        rw [free.canonicalPath_grows grows, moved.written]
        exact List.mem_append_right _ (List.mem_singleton_self _)
      · have claimed : middle.session.claimed = world.session.claimed ++
            [Path.forwardSlashes (Path.join [folder, fileName])] := by
          rw [moved.session]
          exact if_pos recording
        rw [unclaimed] at claimed
        exact claimed

/-- A later request for a shared file changes nothing. -/
theorem eq_of_again {text : String} (collects : world.Collects (Path.join [folder, fileName]) text)
    (ran : ((Call.createFileOnce folder fileName body).perform emitter).runOn world =
      (.ok (), after)) : after = world := by
  have taken := Session.clash?_ne_none_of_mem collects.registered
  obtain ⟨existing, clash⟩ := Option.ne_none_iff_exists'.1 taken
  rw [Call.perform, Emission.runOn_discard, runOn_createFileOnce_again clash] at ran
  exact (congrArg Prod.snd ran).symm

/-- An addition follows the text that was collected. -/
theorem collects_of_append (live : emitter.skip = false) {text : String}
    (collects : world.Collects (Path.join [folder, fileName]) text)
    (ran : ((Call.appendToFile folder fileName body).perform emitter).runOn world =
      (.ok (), after)) :
    after.Collects (Path.join [folder, fileName]) (text ++ emitter.bodyText body) := by
  obtain ⟨free, noSlash, ⟨place, located, standing⟩, registered, claimed⟩ := collects
  have opened := FileSystem.openFile_of_found noSlash located standing .append
  rw [Call.perform, Emission.runOn_discard, runOn_appendToFile live,
    runOn_writeTo_opened opened] at ran
  obtain rfl := congrArg Prod.snd ran
  have grows := FileSystem.appendAt_grows world.files place (emitter.bodyText body)
  refine ⟨free.grows grows, noSlash, ⟨place, grows.locate_found located, ?_⟩, ?_, claimed⟩
  · show (world.files.appendAt place (emitter.bodyText body)).node? place = _
    rw [FileSystem.node?_appendAt, standing]
    exact if_pos rfl
  · show (world.files.appendAt place (emitter.bodyText body)).canonicalPath _ ∈ _
    rw [free.canonicalPath_grows grows]
    exact registered

end Emitter

/-! ## Documents of declarations -/

namespace Descriptor

variable [YamlPackage] {config : Config} {folder outFile : String} {emitter : Emitter}
  {world after : World}

/-- The document of a declaration as a text. -/
def documentText (config : Config) (decl : TypeDecl) : String :=
  "---\n" ++ YamlPackage.print (describe config decl.name decl.params decl.body).toValue

theorem bodyText_document (emitter : Emitter) (descriptor : Descriptor) :
    emitter.bodyText descriptor.document = "---\n" ++ YamlPackage.print descriptor.toValue := by
  have adds : descriptor.document.Adds := .bind (.line "---") fun _ => .write _
  obtain ⟨marked, ran, margin, text⟩ :=
    (Writing.Prints.line "---").runs { unit := emitter.unit } ⟨rfl, rfl⟩
  rw [Emitter.bodyText_eq emitter adds, document, Writing.runOn_bind_ok ran,
    Writing.text_write margin, text, Text.ofLines_singleton]
  rfl

/-- The steps for a declaration whose document goes to a shared file. -/
def sharedSteps (config : Config) (folder outFile : String) (decl : TypeDecl) : List Step :=
  .call (.createFileOnce folder outFile (Render.banner decl.origin "#")) ::
    Step.extend folder outFile (describe config decl.name decl.params decl.body).document

theorem script_decl (shared : config.yaml.outFile = some outFile) {decl : TypeDecl}
    (taken : decl.Taken) :
    (script config folder).decl decl = sharedSteps config folder outFile decl := by
  have asked : ∀ params body, steps config folder decl.origin decl.name params body =
      .call (.createFileOnce folder outFile (Render.banner decl.origin "#")) ::
        Step.extend folder outFile (describe config decl.name params body).document := by
    intro params body
    unfold steps
    rw [shared]
  rw [Script.decl_of_taken _ taken, sharedSteps]
  cases body : decl.body with
  | enum options =>
      rw [taken.plainEnum (by rw [body]; rfl)]
      exact asked [] _
  | record fields => exact asked decl.params _
  | interface methods => exact asked decl.params _
  | unsupported kind raw => exact absurd (by rw [body]; rfl) (taken.supported kind)

/-- A shared file gets the documents of the declarations that are defined here. -/
theorem flatMap_script (shared : config.yaml.outFile = some outFile) {decls : List TypeDecl}
    (taken : ∀ decl ∈ decls.filter (·.isLocal), decl.Taken) :
    decls.flatMap (script config folder).decl =
      (decls.filter (·.isLocal)).flatMap (sharedSteps config folder outFile) := by
  rw [Script.flatMap_decl]
  exact List.flatMap_congr fun decl member => script_decl shared (taken decl member)

/-- A document follows what was collected before it. -/
theorem collects_of_document (live : emitter.skip = false) {text : String} {decl : TypeDecl}
    (collects : world.Collects (Path.join [folder, outFile]) text)
    (ran : (Step.performAll emitter (Step.extend folder outFile
      (describe config decl.name decl.params decl.body).document)).runOn world = (.ok (), after)) :
    after.Collects (Path.join [folder, outFile]) (text ++ documentText config decl) := by
  rw [Step.extend, Step.performAll_singleton] at ran
  have added := Emitter.collects_of_append live collects ran
  rwa [bodyText_document] at added

/-- Documents follow in the order of their declarations. -/
theorem collects_of_documents (live : emitter.skip = false) {text : String}
    (collects : world.Collects (Path.join [folder, outFile]) text) {decls : List TypeDecl}
    (ran : (Step.performAll emitter (decls.flatMap (sharedSteps config folder outFile))).runOn
      world = (.ok (), after)) :
    after.Collects (Path.join [folder, outFile])
      (text ++ String.join (decls.map (documentText config))) := by
  induction decls generalizing world text with
  | nil =>
      cases ran
      simpa using collects
  | cons decl decls ih =>
      rw [List.flatMap_cons] at ran
      obtain ⟨middle, first, rest⟩ := Step.performAll_append_ok ran
      obtain ⟨_, asked, added⟩ := Step.performAll_cons_ok first
      cases Emitter.eq_of_again collects asked
      have whole := ih (collects_of_document live collects added) rest
      rwa [String.append_assoc, ← String.join_cons, ← List.map_cons] at whole

/-- The first declaration brings its banner besides, and replaces what stood there. -/
theorem collects_of_first (live : emitter.skip = false) (ready : world.Ready)
    (free : world.files.LinkFree) (recording : world.session.recording = true)
    (unwritten : world.session.written = []) (unclaimed : world.session.claimed = [])
    {first : TypeDecl} {rest : List TypeDecl}
    (ran : (Step.performAll emitter ((first :: rest).flatMap
      (sharedSteps config folder outFile))).runOn world = (.ok (), after)) :
    after.Collects (Path.join [folder, outFile])
      (Text.ofLines (Render.bannerLines first.origin "#") ++
        String.join ((first :: rest).map (documentText config))) := by
  rw [List.flatMap_cons, sharedSteps, List.cons_append] at ran
  obtain ⟨opened, created, ran⟩ := Step.performAll_cons_ok ran
  obtain ⟨middle, added, ran⟩ := Step.performAll_append_ok ran
  have top := Emitter.collects_of_first live ready free recording unwritten unclaimed created
  rw [emitter.bodyText_of_prints (Render.prints_banner _ _)] at top
  have whole := collects_of_documents live (collects_of_document live top added) ran
  rwa [String.append_assoc, ← String.join_cons, ← List.map_cons] at whole

end Descriptor

/-! ## Runs with descriptors alone -/

namespace Step

variable {emitter : Emitter} {step : Step} {steps : List Step} {world after : World}

/-- A step that asks for no file leaves the memory of the run as it is. -/
theorem session_of_perform (live : emitter.skip = false)
    (fileless : step.pick? Call.file? = none)
    (ran : (step.perform emitter).runOn world = (.ok (), after)) :
    after.session = world.session := by
  cases step with
  | enter slot =>
      cases ran
      rfl
  | announce slot =>
      cases ran
      rfl
  | stop error => cases ran
  | call request =>
      cases request with
      | createFolder label folder =>
          obtain ⟨cause, printed, created⟩ :=
            @Emitter.runOn_createFolder emitter folder world label live
          rw [perform, Call.perform, created] at ran
          obtain rfl := congrArg Prod.snd ran
          rfl
      | _ => cases fileless

theorem session_of_performAll (live : emitter.skip = false)
    (fileless : ∀ step ∈ steps, step.pick? Call.file? = none)
    (ran : (performAll emitter steps).runOn world = (.ok (), after)) :
    after.session = world.session := by
  induction steps generalizing world with
  | nil =>
      cases ran
      rfl
  | cons step steps ih =>
      obtain ⟨here, there⟩ := List.forall_mem_cons.1 fileless
      obtain ⟨middle, first, rest⟩ := performAll_cons_ok ran
      exact (ih there rest).trans (session_of_perform live here first)

end Step

section

variable [YamlPackage] {config : Config} {decls : List TypeDecl}

/-- Where no other slot is enabled, the plan is that of the descriptors. -/
theorem plan_of_alone (alone : ∀ slot : Slot, slot.enabled config = true ↔ slot = .yaml) :
    plan config decls = Slot.yaml.steps config decls := by
  have idle : ∀ {slots : List Slot}, .yaml ∉ slots →
      slots.flatMap (Slot.steps config decls) = [] := by
    intro slots other
    refine List.flatMap_eq_nil_iff.2 fun slot member => ?_
    refine if_neg fun enabled => other ?_
    rw [← (alone slot).1 enabled]
    exact member
  have before : [.cpp, .java, .jni, .objc, .objcpp, .swiftBridgingHeader, .cppCli].flatMap
      (Slot.steps config decls) = [] := idle (by decide)
  have behind : [.python, .cWrapper, .cffi].flatMap (Slot.steps config decls) = [] :=
    idle (by decide)
  have around : Slot.all = [.cpp, .java, .jni, .objc, .objcpp, .swiftBridgingHeader, .cppCli] ++
      .yaml :: [.python, .cWrapper, .cffi] := rfl
  rw [plan, around, List.flatMap_append, before, List.nil_append, List.flatMap_cons, behind,
    List.append_nil]

/-- The slot of descriptors: it creates its folder and then goes through the declarations. -/
theorem Slot.steps_yaml (enabled : Slot.yaml.enabled config = true) :
    ∃ folder, config.yaml.outFolder = some folder ∧
      Slot.yaml.steps config decls =
        [.enter .yaml, .call (.createFolder Slot.yaml.label folder), .announce .yaml] ++
          decls.flatMap (Descriptor.script config folder).decl := by
  cases setting : config.yaml.outFolder with
  | none => simp [Slot.enabled, Slot.outFolder?, setting] at enabled
  | some folder =>
      refine ⟨folder, rfl, ?_⟩
      have folders : Slot.yaml.folders config = [⟨Slot.yaml.label, folder⟩] := by
        simp [Slot.folders, Slot.outFolder?, Slot.headerFolder?, setting]
      unfold Slot.steps Slot.backendSteps
      rw [if_pos enabled, folders, setting]
      rfl

end

/-- In a run of the descriptors alone that succeeds, the file they share is the banner of the first
declaration that is defined here, followed by the documents of all of them in their order, whatever
was there before. Its path is claimed, once, and no other is. -/
theorem shared_file_holds_documents [YamlPackage] {options : Emission.SessionOptions}
    (records : options.records = true) {config : Config}
    (alone : ∀ slot : Slot, slot.enabled config = true ↔ slot = .yaml) {outFile : String}
    (shared : config.yaml.outFile = some outFile) (live : config.skipGeneration = false)
    {decls : List TypeDecl} {first : TypeDecl} {rest : List TypeDecl}
    (locals : decls.filter (·.isLocal) = first :: rest) {world after : World}
    (free : world.files.LinkFree)
    (ran : (freshRun options config decls).runOn world = (.ok none, after)) :
    ∃ folder, config.yaml.outFolder = some folder ∧
      after.files.read (Path.join [folder, outFile]) =
        .ok (Text.ofLines (Render.bannerLines first.origin "#") ++
          String.join ((decls.filter (·.isLocal)).map (Descriptor.documentText config))) ∧
      after.session.claimed = [Path.forwardSlashes (Path.join [folder, outFile])] := by
  obtain ⟨start, begun, started, attached, performed⟩ := freshRun_ok_iff.1 ran
  have starts := (Emission.startSession_ok started).attach attached
  have recording :=
    recording_of_attach (Emission.recording_of_startSession records started) attached
  obtain ⟨folder, setting, steps⟩ :=
    @Slot.steps_yaml _ config decls ((alone .yaml).2 rfl)
  rw [live, plan_of_alone alone, steps] at performed
  obtain ⟨prepared, prepares, documented⟩ := Step.performAll_append_ok performed
  have extended := Step.extends_of_performAll starts.ready prepares
  have session := Step.session_of_performAll rfl (by simp [Step.pick?, Call.file?]) prepares
  have taken := Script.taken_of_unstopped (Step.ne_stop_of_performAll documented)
  rw [Descriptor.flatMap_script shared taken, locals] at documented
  have collects := Descriptor.collects_of_first rfl (extended.ready starts.ready)
    (free.grows (starts.grows.trans extended.grows)) (extended.recording.trans recording)
    (by rw [session, starts.written]) (by rw [session, starts.claimed]) documented
  rw [← locals] at collects
  exact ⟨folder, setting, collects.read_eq, collects.claimed⟩

/-- Settings under which all descriptors go to one file. -/
def collectingSettings : Value :=
  .map [("yaml", .map [("out_folder", .str "gen"), ("out_file", .str "shapes.yaml")])]

/-- A record from one document, and an imported and another enum from a second one. -/
def sourcedDecls : List TypeDecl :=
  [{ pixelDecl with origin := "pixel.yaml" },
    { colorDecl with name := "hue", scope := .imported }, colorDecl]

/-- A disk where the file of an earlier run stands. -/
def staleWorld : World where
  files :=
    { cwd := [], entries := [(["gen"], .directory), (["gen", "shapes.yaml"], .file "stale\n")] }

theorem staleWorld_linkFree : staleWorld.files.LinkFree := by
  intro place target
  unfold FileSystem.node?
  split
  · nofun
  · simp only [staleWorld, List.lookup_cons, List.lookup_nil]
    split
    · nofun
    · split <;> nofun

open scoped Yaml in
theorem shapes_collected :
    ∃ config after, buildConfig ⟨"/", "/"⟩ collectingSettings = .ok config ∧
      (∀ slot : Slot, slot.enabled config = true ↔ slot = .yaml) ∧
      config.yaml.outFile = some "shapes.yaml" ∧ config.skipGeneration = false ∧
      sourcedDecls.filter (·.isLocal) = [{ pixelDecl with origin := "pixel.yaml" }, colorDecl] ∧
      staleWorld.files.LinkFree ∧
      (freshRun { recordManifest := true } config sourcedDecls).runOn staleWorld =
        (.ok none, after) ∧
      after.files.read "/gen/shapes.yaml" =
        .ok (Text.ofLines (Render.bannerLines "pixel.yaml" "#") ++
          (Descriptor.documentText config pixelDecl ++ Descriptor.documentText config colorDecl)) ∧
      after.session.claimed = ["/gen/shapes.yaml"] := by
  have evaluated : ((buildConfig ⟨"/", "/"⟩ collectingSettings).toOption.any fun config =>
      Slot.all.all (fun slot => slot.enabled config == decide (slot = .yaml)) &&
        config.yaml.outFolder == some "/gen" && config.yaml.outFile == some "shapes.yaml" &&
        !config.skipGeneration &&
        ((freshRun { recordManifest := true } config sourcedDecls).runOn staleWorld).1.toOption.any
          (·.isNone)) = true := by
    decide +kernel
  cases built : buildConfig ⟨"/", "/"⟩ collectingSettings with
  | error error =>
      rw [built] at evaluated
      cases evaluated
  | ok config =>
      rw [built] at evaluated
      simp only [Except.toOption, Option.any_some, Bool.and_eq_true, Bool.not_eq_true', beq_iff_eq,
        List.all_eq_true] at evaluated
      obtain ⟨⟨⟨⟨enabled, setting⟩, shared⟩, live⟩, answer⟩ := evaluated
      have alone : ∀ slot : Slot, slot.enabled config = true ↔ slot = .yaml := by
        intro slot
        rw [enabled slot slot.mem_all, decide_eq_true_iff]
      obtain ⟨after, ran⟩ : ∃ after,
          (freshRun { recordManifest := true } config sourcedDecls).runOn staleWorld =
            (.ok none, after) :=
        ⟨_, Prod.ext (eq_ok_none_of_any answer) rfl⟩
      have locals : sourcedDecls.filter (·.isLocal) =
          [{ pixelDecl with origin := "pixel.yaml" }, colorDecl] := rfl
      obtain ⟨folder, setting', read, claimed⟩ := @shared_file_holds_documents
        _ { recordManifest := true } rfl config alone "shapes.yaml" shared live sourcedDecls _
        [colorDecl] locals staleWorld after staleWorld_linkFree ran
      cases setting.symm.trans setting'
      have located : Path.join ["/gen", "shapes.yaml"] = "/gen/shapes.yaml" := by decide +kernel
      have slashes : Path.forwardSlashes "/gen/shapes.yaml" = "/gen/shapes.yaml" := by
        decide +kernel
      rw [located] at read claimed
      rw [slashes] at claimed
      rw [locals] at read
      simp only [List.map_cons, List.map_nil, String.join_cons, String.join_nil,
        String.append_empty] at read
      exact ⟨config, after, rfl, alone, shared, live, locals, staleWorld_linkFree, ran, read,
        claimed⟩

end BridgeCode
