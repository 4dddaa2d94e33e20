import BridgeCode.CommandLine.Command
import BridgeCode.Proofs.Run.Log

/-!
How a call of the `generate` command ends.

* `documents`: what a call loads before it generates.
* `runOn_generateRun`: a call in which loading fails does nothing else; any other is a run over what
  was loaded and the line about its end.
* `call_ends_cleanly`: from there, what every call leaves on disk, what it prints and how it ends.
-/

namespace BridgeCode.CommandLine

/-- A line on the console. -/
def consoleLine (coloured : Bool) (channel : LogChannel) (colour : Colour) (text : String) :
    LogLine where
  output := .console
  channel := channel
  text := if coloured then colour.paint text else text

/-- The one error of a call that a fault ends: what failed, and the fault. -/
def faultLines (coloured : Bool) (fault : Fault) : List LogLine :=
  [consoleLine coloured .error .red "[ERROR] Generation failed",
    consoleLine coloured .error .red fault.text]

/-- What is said at a good end. Declarations of other documents do not count. -/
def countText (skips : Bool) (decls : List TypeDecl) : String :=
  let count := toString (decls.countP (·.scope == .defined))
  if skips then "Checked " ++ count ++ " declaration(s); no files written"
  else "Generated code for " ++ count ++ " declaration(s)"

/-- The logger of a call. -/
def callLogger (verbose coloured : Bool) : Logger :=
  { level := if verbose then .debug else .info, coloured }

/-! ## The log of a call -/

section Log

variable (verbose coloured : Bool)

theorem callLogger_error (fault : Fault) :
    (callLogger verbose coloured).error "Generation failed" (some fault.text) =
      faultLines coloured fault := by
  cases verbose <;> rfl

theorem callLogger_fail (message : String) :
    (callLogger verbose coloured).fail message =
      [consoleLine coloured .log .red ("✗ " ++ message)] := by
  cases verbose <;> rfl

theorem callLogger_success (message : String) :
    (callLogger verbose coloured).success message =
      [consoleLine coloured .log .green ("✓ " ++ message)] := by
  cases verbose <;> rfl

/-- Only a verbose call chats. -/
theorem chats_callLogger {line : LogLine} (chats : (callLogger verbose coloured).Chats line) :
    verbose = true ∧
      ∃ message, line = consoleLine coloured .log .gray ("[DEBUG] " ++ message) := by
  obtain ⟨message, member⟩ := chats
  cases verbose with
  | false => exact absurd member List.not_mem_nil
  | true => exact ⟨rfl, message, List.mem_singleton.1 member⟩

end Log

theorem successText_eq (config : Config) (decls : List TypeDecl) :
    successText config decls = countText config.skipGeneration decls := by
  unfold countText
  rw [List.countP_eq_length_filter]
  rfl

/-! ## Calls -/

/-- The configuration of a call: that of the project, in which the command line names the document if
the project does not, asks for a dry run, and sets the file of the list. -/
def overridden (cwd : String) (options : GenerateOptions) (loaded : Config) : Config :=
  { loaded with
    idlFileName :=
      if loaded.idlFileName = "" then Path.basename options.idl else loaded.idlFileName
    skipGeneration := loaded.skipGeneration || options.skipGeneration
    outFileList :=
      match options.listOutFiles with
      | some path => some (Path.resolve cwd [path])
      | none => loaded.outFileList }

theorem effectiveConfig_eq (cwd : String) (options : GenerateOptions) (loaded : Config) :
    effectiveConfig cwd options loaded = overridden cwd options loaded := by
  have name : (if loaded.idlFileName.isEmpty then some (Path.basename options.idl)
      else none).getD loaded.idlFileName =
        if loaded.idlFileName = "" then Path.basename options.idl else loaded.idlFileName := by
    by_cases unnamed : loaded.idlFileName = "" <;> simp [unnamed]
  have skip : (if options.skipGeneration then some true else none).getD loaded.skipGeneration =
      (loaded.skipGeneration || options.skipGeneration) := by
    cases options.skipGeneration <;> simp
  have list : ((options.listOutFiles.map fun path => Path.resolve cwd [path]) <|>
      loaded.outFileList) =
        match options.listOutFiles with
        | some path => some (Path.resolve cwd [path])
        | none => loaded.outFileList := by
    cases options.listOutFiles <;> rfl
  rw [effectiveConfig, Config.override, overridden]
  dsimp only
  rw [name, skip, list]

/-- How a call ends after its run, and the lines it ends with. -/
def verdict (coloured : Bool) (config : Config) (decls : List TypeDecl) :
    Except Fault (Option String) → Outcome × List LogLine
  | .ok none =>
    (.succeeded,
      [consoleLine coloured .log .green ("✓ " ++ countText config.skipGeneration decls)])
  | .ok (some message) => (.failed, [consoleLine coloured .log .red ("✗ " ++ message)])
  | .error fault => (.failed, faultLines coloured fault)

theorem verdict_succeeded_iff {coloured : Bool} {config : Config} {decls : List TypeDecl}
    {result : Except Fault (Option String)} :
    (verdict coloured config decls result).1 = .succeeded ↔ result = .ok none := by
  rcases result with _ | _ | _ <;> simp [verdict]

/-- What is left of a run that a fault ended: the fault is logged. -/
def logged : Except Fault Outcome × World → Outcome × World
  | (.ok outcome, after) => (outcome, after)
  | (.error fault, after) =>
    (.failed, { after with
      printed := after.printed ++ after.logger.error "Generation failed" (some fault.text) })

section

variable [YamlPackage]

/-- What a call loads: the configuration of its run, command line included, and the
declarations. -/
@[irreducible]
def documents (files : FileSystem) (options : GenerateOptions) :
    Except Fault (Config × List TypeDecl) :=
  match loadConfig files files.cwdPath options.config with
  | .error error => .error (.config error)
  | .ok loaded =>
    match loadDeclarations files (Path.resolve files.cwdPath [options.idl]) with
    | .error error => .error (.document error)
    | .ok decls => .ok (overridden files.cwdPath options loaded, decls)

/-- A run over what was loaded, and the line about its end. -/
def generateLoaded (config : Config) (decls : List TypeDecl) : Emission Outcome := do
  match ← generateFresh .bundled config decls with
  | some failure =>
    .say (·.fail failure)
    return .failed
  | none =>
    .say (·.success (successText config decls))
    return .succeeded

/-- Loading reads the disk and changes nothing. -/
theorem runOn_generateRun (options : GenerateOptions) (world : World) :
    (generateRun options).runOn world =
      match documents world.files options with
      | .error fault => (.error fault, world)
      | .ok (config, decls) => (generateLoaded config decls).runOn world := by
  unfold generateRun documents
  rw [Emission.runOn_bind_ok (Emission.runOn_get world)]
  dsimp only
  cases loadConfig world.files world.files.cwdPath options.config with
  | error error => rfl
  | ok loaded =>
    cases loadDeclarations world.files (Path.resolve world.files.cwdPath [options.idl]) with
    | error error => rfl
    | ok decls =>
      dsimp only
      rw [← effectiveConfig_eq]
      rfl

theorem generateCommand_eq (options : GenerateOptions) (files : FileSystem) (coloured : Bool) :
    generateCommand options { files, logger := { coloured } } =
      logged ((generateRun options).runOn
        { files, logger := callLogger options.verbose coloured }) := by
  unfold generateCommand callLogger
  dsimp only
  rcases (generateRun options).runOn _ with ⟨fault | outcome, after⟩ <;> rfl

theorem call_of_error {files : FileSystem} {options : GenerateOptions} {fault : Fault}
    (failed : documents files options = .error fault) (coloured : Bool) :
    generateCommand options { files, logger := { coloured } } =
      (.failed, { files, logger := callLogger options.verbose coloured,
                  printed := faultLines coloured fault }) := by
  rw [generateCommand_eq, runOn_generateRun, failed, ← callLogger_error options.verbose]
  rfl

/-- The run of a call does not heed the log. -/
theorem call_of_ok {files : FileSystem} {options : GenerateOptions} {config : Config}
    {decls : List TypeDecl} (loaded : documents files options = .ok (config, decls))
    (coloured : Bool) :
    let logger := callLogger options.verbose coloured
    let run := (generateFresh .bundled config decls).runOn { files }
    let ending := verdict coloured config decls run.1
    ∃ chatter, (∀ line ∈ chatter, logger.Chats line) ∧
      generateCommand options { files, logger := { coloured } } =
        (ending.1, run.2.withLog logger (chatter ++ ending.2)) := by
  obtain ⟨chatter, chats, ran⟩ := discreet_generateFresh config decls { files }
    (callLogger options.verbose coloured) []
  refine ⟨chatter, chats, ?_⟩
  have start : ({ files, logger := callLogger options.verbose coloured } : World) =
      World.withLog { files } (callLogger options.verbose coloured) [] := rfl
  rw [generateCommand_eq, runOn_generateRun, loaded, start]
  dsimp only
  rw [generateLoaded, Emission.runOn_bind, ran, List.nil_append]
  rcases (generateFresh .bundled config decls).runOn { files } with ⟨fault | _ | message, after⟩
  · dsimp only [verdict]
    rw [← callLogger_error options.verbose]
    rfl
  · dsimp only [verdict]
    rw [← successText_eq, ← callLogger_success options.verbose]
    rfl
  · dsimp only [verdict]
    rw [← callLogger_fail options.verbose]
    rfl

/-- However a call goes, it ends in an outcome. If a document cannot be loaded, the call fails
with one error and leaves the disk as it was. Otherwise it does to the disk what a run over the
loaded documents does, and the end of that run decides. A run that stops with a message makes the
call fail with that message; one that a fault ends makes it fail with one error; after any other
run, and only then, the call succeeds and says how many declarations there were. A verbose call
also prints, in front of that, messages for those who look for a fault. -/
theorem call_ends_cleanly (files : FileSystem) (options : GenerateOptions) (coloured : Bool) :
    let call := generateCommand options { files, logger := { coloured } }
    match documents files options with
    | .error fault =>
      call.1 = .failed ∧ call.2.files = files ∧ call.2.printed = faultLines coloured fault
    | .ok (config, decls) =>
      let run := (generateFresh .bundled config decls).runOn { files }
      let ending := verdict coloured config decls run.1
      call.1 = ending.1 ∧ call.2.files = run.2.files ∧
      (call.1 = .succeeded ↔ run.1 = .ok none) ∧
      ∃ chatter, call.2.printed = chatter ++ ending.2 ∧
        ∀ line ∈ chatter, options.verbose = true ∧
          ∃ message, line = consoleLine coloured .log .gray ("[DEBUG] " ++ message) := by
  intro call
  cases read : documents files options with
  | error fault =>
    have ended : call = _ := call_of_error read coloured
    rw [ended]
    exact ⟨rfl, rfl, rfl⟩
  | ok loaded =>
    obtain ⟨config, decls⟩ := loaded
    obtain ⟨chatter, chats, ended⟩ := call_of_ok read coloured
    have ended : call = _ := ended
    rw [ended]
    refine ⟨rfl, rfl, verdict_succeeded_iff, chatter, rfl, ?_⟩
    intro line member
    exact chats_callLogger _ _ (chats line member)

end

/-- A project with C++ headers and a document with one declaration. -/
def paletteProject : FileSystem where
  cwd := ["app"]
  entries :=
    [(["app"], .directory),
      (["app", "bridgegen.yaml"], .file "cpp:\n  out_folder: gen\n"),
      (["app", "color.yaml"],
        .file "declarations:\n  - name: color\n    kind: enum\n    options:\n      - name: red\n")]

/-- A call that asks for the list of files and for no file. -/
def listingCall : GenerateOptions where
  idl := "color.yaml"
  skipGeneration := true
  listOutFiles := some "out.txt"

open scoped Yaml in
/-- The list is all that the call leaves on disk. -/
theorem listingCall_ends :
    ∃ after,
      generateCommand listingCall { files := paletteProject } = (.succeeded, after) ∧
      after.printed =
        [consoleLine false .log .green "✓ Checked 1 declaration(s); no files written"] ∧
      after.files.entries =
        paletteProject.entries ++ [(["app", "out.txt"], .file "/app/gen/color.hpp\n")] := by
  have evaluated : ((documents paletteProject listingCall).toOption.any fun (config, decls) =>
      let run := (generateFresh .bundled config decls).runOn { files := paletteProject }
      run.1.toOption.any (·.isNone) &&
        countText config.skipGeneration decls ==
          "Checked 1 declaration(s); no files written" &&
        run.2.files.entries ==
          paletteProject.entries ++ [(["app", "out.txt"], .file "/app/gen/color.hpp\n")]) =
        true := by
    decide +kernel
  have quiet : ∀ files options config decls, documents files options = .ok (config, decls) →
      options.verbose = false →
      let call := generateCommand options { files, logger := { coloured := false } }
      let run := (generateFresh .bundled config decls).runOn { files }
      let ending := verdict false config decls run.1
      call.1 = ending.1 ∧ call.2.files = run.2.files ∧ call.2.printed = ending.2 := by
    intro files options config decls loaded silent
    have ends := call_ends_cleanly files options false
    rw [loaded] at ends
    obtain ⟨outcome, left, -, chatter, printed, chats⟩ := ends
    have none : chatter = [] := by
      refine List.eq_nil_iff_forall_not_mem.2 fun line member => ?_
      have verbose := (chats line member).1
      rw [silent] at verbose
      cases verbose
    rw [none] at printed
    exact ⟨outcome, left, printed⟩
  cases loaded : documents paletteProject listingCall with
  | error fault =>
    rw [loaded] at evaluated
    cases evaluated
  | ok read =>
    rw [loaded] at evaluated
    simp only [Except.toOption, Option.any_some, Bool.and_eq_true, beq_iff_eq] at evaluated
    obtain ⟨⟨answer, count⟩, files⟩ := evaluated
    obtain ⟨outcome, left, printed⟩ := quiet paletteProject listingCall read.1 read.2 loaded rfl
    rw [eq_ok_none_of_any answer] at outcome printed
    have text : "✓ " ++ "Checked 1 declaration(s); no files written" =
        "✓ Checked 1 declaration(s); no files written" := by decide
    generalize generateCommand listingCall { files := paletteProject } = call
      at outcome left printed ⊢
    obtain ⟨ended, after⟩ := call
    dsimp only at outcome left printed
    refine ⟨after, by rw [outcome]; rfl, ?_, (congrArg FileSystem.entries left).trans files⟩
    rw [printed, verdict, count, text]

end BridgeCode.CommandLine
