import BridgeCode.Proofs.FileSystem.Route
import BridgeCode.Proofs.Run.Order
import BridgeCode.Proofs.Writing

/-!
What a dry run leaves on the disk.

A dry run registers paths and claims them, and that is all (`Step.moves_of_dry`). A claim goes to
the lists of paths that are attached, so without a list the disk stays as it is. With one list, each
claim adds one line to it: the list always holds the manifest (`World.Lists`), and nothing else
changes once the list is open. To open it, its folder is created and it is emptied, which changes
places along its path (`Emission.attachList_along`).

* `dry_run_touches_list_alone`: so it is for every dry run, however it ends.
-/

namespace BridgeCode

/-! ## Lists that hold the manifest -/

/-- Claims are listed in one file, and the file holds all of them. -/
structure World.Lists (path : String) (world : World) : Prop where
  recording : world.session.recording = true
  sinks : ∃ others, world.session.sinks = others ++ [.file path] ∧ ∀ other, .file other ∉ others
  noSlash : Path.endsInSlash path = false
  holds : ∃ place, world.files.locate path = .found place ∧
    world.files.node? place = some (.file (Text.ofLines world.session.claimed))

theorem World.Lists.read_eq {path : String} {world : World} (lists : world.Lists path) :
    world.files.read path = .ok (Text.ofLines world.session.claimed) := by
  obtain ⟨place, located, standing⟩ := lists.holds
  exact FileSystem.read_of_found located standing

/-- Before and after what a dry run does without lists. -/
def World.Spares (world after : World) : Prop :=
  world.Listless → after.Listless ∧ after.files = world.files

namespace World.Spares

theorem refl (world : World) : Spares world world := fun listless => ⟨listless, rfl⟩

theorem trans (a b c : World) (first : Spares a b) (second : Spares b c) : Spares a c := by
  intro listless
  obtain ⟨listless, same⟩ := first listless
  obtain ⟨listless, same'⟩ := second listless
  exact ⟨listless, same'.trans same⟩

end World.Spares

/-- Before and after what a dry run does once its list is open. -/
def World.Recites (path : String) (world after : World) : Prop :=
  world.Lists path → after.Lists path ∧
    world.files.Grows after.files ∧
    ∀ place, after.files.locate path ≠ .found place →
      after.files.node? place = world.files.node? place

namespace World.Recites

variable {path : String}

theorem refl (world : World) : Recites path world world :=
  fun lists => ⟨lists, .refl _, fun _ _ => rfl⟩

theorem trans (a b c : World) (first : Recites path a b) (second : Recites path b c) :
    Recites path a c := by
  intro lists
  obtain ⟨lists', grows, elsewhere⟩ := first lists
  obtain ⟨lists'', grows', elsewhere'⟩ := second lists'
  refine ⟨lists'', grows.trans grows', fun place away => ?_⟩
  rw [elsewhere' place away, elsewhere place fun located => away (grows'.locate_found located)]

end World.Recites

namespace Emission

variable {path : String} {world : World}

theorem claim_spares (entry : String) : Moves World.Spares (claim entry) := by
  intro world listless
  obtain ⟨claimed, ran, files, -, sinks⟩ := claim_listless listless entry
  rw [ran]
  exact ⟨fun path => sinks ▸ listless path, files⟩

/-- A claim adds its line to the list, and nothing else changes on the disk. -/
theorem runOn_claim_listed (lists : world.Lists path) {place : Location}
    (located : world.files.locate path = .found place) (entry : String) :
    ∃ piped, (claim entry).runOn world =
      (.ok (),
        { world with
          files := world.files.appendAt place (entry ++ "\n")
          session :=
            { world.session with claimed := world.session.claimed ++ [entry], piped } }) := by
  obtain ⟨recording, ⟨others, sinks, listless⟩, noSlash, place', located', standing⟩ := lists
  cases located.symm.trans located'
  have opened := FileSystem.openFile_of_found noSlash located standing .append
  obtain ⟨piped, ran⟩ := @forM_report_listless entry others listless { world with
    session := { world.session with claimed := world.session.claimed ++ [entry] } }
  have added := @runOn_addToList_opened { world with
    session := { world.session with claimed := world.session.claimed ++ [entry], piped } }
    entry path _ place opened
  have split : (others ++ [ManifestSink.file path]).forM (report entry) =
      others.forM (report entry) >>= fun _ => [ManifestSink.file path].forM (report entry) :=
    List.forM_append
  refine ⟨piped, ?_⟩
  rw [runOn_claim_on recording, sinks, split, runOn_bind_ok ran, runOn_forM_cons, report, added]
  rfl

theorem claim_recites (path entry : String) : Moves (World.Recites path) (claim entry) := by
  intro world lists
  obtain ⟨place, located, standing⟩ := lists.holds
  obtain ⟨piped, ran⟩ := runOn_claim_listed lists located entry
  rw [ran]
  have grows := FileSystem.appendAt_grows world.files place (entry ++ "\n")
  have placed := grows.locate_found located
  refine ⟨⟨lists.recording, lists.sinks, lists.noSlash, place, placed, ?_⟩, grows, ?_⟩
  · show (world.files.appendAt place (entry ++ "\n")).node? place = _
    rw [FileSystem.node?_appendAt, standing, Text.ofLines_append, Text.ofLines_singleton]
    exact if_pos rfl
  · intro other away
    have ne : other ≠ place := by
      rintro rfl
      exact away placed
    show (world.files.appendAt place (entry ++ "\n")).node? other = _
    rw [FileSystem.node?_appendAt, standing]
    exact if_neg ne

/-! ## Lists that are opened -/

/-- To open a list changes places along its path, whether or not it can be opened. -/
theorem openList_along (free : world.files.LinkFree) (path : String) :
    FileSystem.ChangesAlong path world.files ((openList path).runOn world).2.files := by
  have folders := free.makeFolders_dirname_along path
  unfold openList
  rw [runOn_bind_ok (runOn_get world)]
  rcases made : world.files.makeFolders (Path.dirname path) with ⟨files, refused⟩
  rw [made] at folders
  dsimp only
  rw [runOn_bind_ok (runOn_modify _ world)]
  cases refused with
  | some error => exact folders
  | none =>
      dsimp only
      cases opened : files.openFile .truncate path with
      | error error => exact folders
      | ok result =>
          obtain ⟨emptied, place⟩ := result
          exact folders.trans ((free.grows folders.grows).openFile_along opened)

theorem attachList_along (free : world.files.LinkFree) (path : String) :
    FileSystem.ChangesAlong path world.files ((attachList path).runOn world).2.files := by
  have along := openList_along free path
  unfold attachList
  rw [runOn_bind]
  rcases opened : (openList path).runOn world with ⟨fault | _, after⟩
  · rw [opened] at along
    exact along
  · rw [opened] at along
    exact along

/-- A list that is attached to a session without lists and claims holds the manifest. -/
theorem attachList_lists {after : World} (listless : world.Listless)
    (unclaimed : world.session.claimed = [])
    (attached : (attachList path).runOn world = (.ok (), after)) : after.Lists path := by
  obtain ⟨middle, opened, rfl⟩ := attachList_ok_iff.1 attached
  obtain ⟨files, emptied, place, -, truncated, rfl⟩ := openList_ok_iff.1 opened
  refine ⟨rfl, ⟨world.session.sinks, rfl, listless⟩, (FileSystem.openFile_ok truncated).1, place,
    FileSystem.Grows.locate_opened truncated (.refl _), ?_⟩
  show emptied.node? place = some (.file (Text.ofLines world.session.claimed))
  rw [unclaimed]
  exact FileSystem.openFile_truncated truncated

end Emission

/-! ## Dry steps -/

namespace Step

variable {emitter : Emitter}

/-- The steps of a dry run note what they do, register paths and claim them. -/
theorem moves_of_dry {R : World → World → Prop} (refl : ∀ world, R world world)
    (trans : ∀ a b c, R a b → R b c → R a c)
    (notes : ∀ (world : World) journal printed, R world { world with journal, printed })
    (enters : ∀ world canonical, R world (world.enter canonical))
    (claims : ∀ entry, Emission.Moves R (Emission.claim entry)) (dry : emitter.skip = true)
    (steps : List Step) : Emission.Moves R (performAll emitter steps) := by
  refine .forM refl trans fun step _ => ?_
  cases step with
  | enter slot => exact fun world => notes world _ _
  | announce slot => exact fun world => notes world _ _
  | stop error => exact refl
  | call request => exact Call.moves_of_dry refl trans enters claims dry request

/-- Without lists, the steps of a dry run leave the disk alone. -/
theorem spares_of_dry (dry : emitter.skip = true) (steps : List Step) (world : World) :
    World.Spares world ((performAll emitter steps).runOn world).2 :=
  moves_of_dry .refl .trans (fun _ _ _ listless => ⟨listless, rfl⟩)
    (fun _ _ listless => ⟨listless, rfl⟩) Emission.claim_spares dry steps world

/-- With a list that holds the manifest, the steps of a dry run add to it and do nothing else. -/
theorem recites_of_dry (dry : emitter.skip = true) (steps : List Step) (path : String)
    (world : World) : World.Recites path world ((performAll emitter steps).runOn world).2 :=
  moves_of_dry .refl .trans
    (fun _ _ _ lists => ⟨⟨lists.recording, lists.sinks, lists.noSlash, lists.holds⟩, .refl _,
      fun _ _ => rfl⟩)
    (fun _ _ lists => ⟨⟨lists.recording, lists.sinks, lists.noSlash, lists.holds⟩, .refl _,
      fun _ _ => rfl⟩)
    (Emission.claim_recites path) dry steps world

end Step

/-! ## Whole runs -/

/-- A session without a list of its own attaches the one that the settings name. -/
theorem attachOutFileList_some {options : Emission.SessionOptions} {config : Config} {path : String}
    (listed : config.outFileList = some path) (world : World) :
    (attachOutFileList config).runOn { world with session := options.session } =
      (Emission.attachList path).runOn { world with session := options.session } := by
  rw [runOn_attachOutFileList, listed]
  refine if_neg ?_
  rw [Session.writesManifestTo, List.contains_iff_mem]
  exact options.no_list path

/-- A dry run, however it ends, leaves the disk as it is where the settings name no list. Where they
do and the disk has no links, it changes only places along the path of the list, and if it answers
no error, the list holds the manifest. -/
theorem dry_run_touches_list_alone [YamlPackage] {options : Emission.SessionOptions}
    (unlisted : options.manifestFile = none) {config : Config}
    (dry : config.skipGeneration = true) (decls : List TypeDecl) (world : World) :
    (config.outFileList = none →
      ((freshRun options config decls).runOn world).2.files = world.files) ∧
    ∀ path, config.outFileList = some path →
      (world.files.LinkFree → ∀ place,
        ((freshRun options config decls).runOn world).2.files.node? place ≠
          world.files.node? place → world.files.OnTheWay path place) ∧
      (((freshRun options config decls).runOn world).1 = .ok none →
        ((freshRun options config decls).runOn world).2.files.read path =
          .ok (Text.ofLines ((freshRun options config decls).runOn world).2.session.claimed)) := by
  have listless : World.Listless { world with session := options.session } := options.no_list
  have unclaimed : options.session.claimed = [] := by
    unfold Emission.SessionOptions.session Session.attach
    split <;> rfl
  rw [runOn_freshRun_unlisted unlisted, answered_world, answered_eq_none_iff, Emission.runOn_bind,
    dry]
  refine ⟨fun unattached => ?_, fun path listed => ?_⟩
  · rw [runOn_attachOutFileList, unattached]
    exact (Step.spares_of_dry rfl _ _ listless).2
  · rw [attachOutFileList_some listed]
    rcases attached : (Emission.attachList path).runOn { world with session := options.session }
      with ⟨fault | _, begun⟩
    · refine ⟨fun free => ?_, nofun⟩
      have along := @Emission.attachList_along { world with session := options.session } free path
      rw [attached] at along
      exact along.changed
    · have lists := Emission.attachList_lists listless unclaimed attached
      obtain ⟨lists', grows, elsewhere⟩ :=
        @Step.recites_of_dry { skip := true } rfl (plan config decls) path begun lists
      refine ⟨fun free => ?_, fun _ => lists'.read_eq⟩
      have along := @Emission.attachList_along { world with session := options.session } free path
      rw [attached] at along
      have later := (free.grows along.grows).along_of_found grows elsewhere
      exact (along.trans later).changed

/-- Settings of a dry run with a list, with headers and with a file that descriptors share. -/
def listedSettings : Value :=
  .map [("cpp", .map [("out_folder", .str "cpp")]),
    ("yaml", .map [("out_folder", .str "yaml"), ("out_file", .str "all.yaml")]),
    ("list_out_files", .str "lists/out.txt"), ("skip_generation", .bool true)]

open scoped Yaml in
theorem listedSettings_touch_list :
    ∃ config after, buildConfig ⟨"/", "/"⟩ listedSettings = .ok config ∧
      config.skipGeneration = true ∧ config.outFileList = some "/lists/out.txt" ∧
      emptyWorld.files.LinkFree ∧
      (freshRun {} config [colorDecl, pixelDecl]).runOn emptyWorld = (.ok none, after) ∧
      (∀ place, after.files.node? place ≠ emptyWorld.files.node? place →
        place <+: ["lists", "out.txt"]) ∧
      after.files.read "/lists/out.txt" =
        .ok (Text.ofLines ["/cpp/color.hpp", "/cpp/pixel.hpp", "/yaml/all.yaml"]) := by
  have evaluated : ((buildConfig ⟨"/", "/"⟩ listedSettings).toOption.any fun config =>
      config.skipGeneration && config.outFileList == some "/lists/out.txt" &&
        let run := (freshRun {} config [colorDecl, pixelDecl]).runOn emptyWorld
        run.1.toOption.any (·.isNone) &&
          run.2.session.claimed == ["/cpp/color.hpp", "/cpp/pixel.hpp", "/yaml/all.yaml"]) =
        true := by
    decide +kernel
  cases built : buildConfig ⟨"/", "/"⟩ listedSettings with
  | error error =>
      rw [built] at evaluated
      cases evaluated
  | ok config =>
      rw [built] at evaluated
      simp only [Except.toOption, Option.any_some, Bool.and_eq_true, beq_iff_eq] at evaluated
      obtain ⟨⟨dry, listed⟩, answer, claimed⟩ := evaluated
      have answer := eq_ok_none_of_any answer
      obtain ⟨touched, read⟩ := (@dry_run_touches_list_alone _ {} rfl config dry
        [colorDecl, pixelDecl] emptyWorld).2 "/lists/out.txt" listed
      have read := read answer
      rw [claimed] at read
      have isName : ∀ part ∈ ["lists", "out.txt"], Path.IsName part := by
        simp only [List.forall_mem_cons]
        exact ⟨⟨by decide, by decide, by decide, by decide⟩,
          ⟨by decide, by decide, by decide, by decide⟩, List.forall_mem_nil _⟩
      have rendered : Path.render ["lists", "out.txt"] = "/lists/out.txt" := by decide +kernel
      refine ⟨config, _, rfl, dry, listed, emptyWorld_linkFree, Prod.ext answer rfl,
        fun place differs => ?_, read⟩
      have along := touched emptyWorld_linkFree place differs
      rw [← rendered] at along
      exact (FileSystem.onTheWay_render_iff isName (by decide +kernel)).1 along

end BridgeCode
