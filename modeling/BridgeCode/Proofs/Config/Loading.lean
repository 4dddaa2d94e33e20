import BridgeCode.Config.Load
import BridgeCode.Proofs.Config.Folders

/-!
The configuration in a file and the configuration of its value.

A configuration is built from a value, or read from a file whose text is parsed to a value first.
Both ways check the value and build the configuration from what was checked; they differ in how a
value that fails its check is reported.

* `ConfigError.whenLoaded`: an error of building as the file's own error.
* `loadConfig_of_parsed`: loading a file is building from its value, errors reported so.
* `loadConfig_agrees_with_buildConfig`: with the codes and wordings of the errors, and what happens
  where there is no file.
-/

namespace BridgeCode

/-- An empty document stands for a map without fields. -/
def Value.orEmptyMap : Value → Value
  | .null => .map []
  | value => value

/-- Where the configuration file of a project is looked for. -/
def configFile (fs : FileSystem) (projectRoot : String) (asked : Option String) : String :=
  Path.resolve fs.cwdPath [projectRoot, asked.getD defaultConfigName]

/-- How an error of building is reported where the value came from a file: a value that fails its
check is a fault of the document, and an example that cannot be used is reported as it is. -/
def ConfigError.whenLoaded (path : String) : ConfigError → ConfigError
  | .invalid issues => .loadFailed path (.inFile (.invalid issues) path)
  | error => error

theorem ConfigError.message_whenLoaded (path issues : String) :
    (ConfigError.whenLoaded path (.invalid issues)).message =
      "Failed to load config from " ++ path ++ ": YAML validation failed: " ++ issues ++
        " (file: " ++ path ++ ")" := by
  have joined : ": " ++ "YAML validation failed: " = ": YAML validation failed: " := by
    decide +kernel
  calc (ConfigError.whenLoaded path (.invalid issues)).message
      = "Failed to load config from " ++ path ++ ": " ++
          ("YAML validation failed: " ++ issues ++ " (file: " ++ path ++ ")") := rfl
    _ = "Failed to load config from " ++ path ++ (": " ++ "YAML validation failed: ") ++ issues ++
          " (file: " ++ path ++ ")" := by simp only [String.append_assoc]
    _ = _ := by rw [joined]

/-! ## Errors of building -/

theorem buildStyles_error {scope : String} {bundle : Ident.Bundle} {samples : StyleSamples}
    {error : ConfigError} (failed : buildStyles scope bundle samples = .error error) :
    ∃ cause, error = .style cause := by
  unfold buildStyles at failed
  split at failed
  · cases failed
  · cases failed
    exact ⟨_, rfl⟩

theorem buildStyle_error {option sample : String} {error : ConfigError}
    (failed : buildStyle option sample = .error error) : ∃ cause, error = .style cause := by
  unfold buildStyle at failed
  split at failed
  · cases failed
  · cases failed
    exact ⟨_, rfl⟩

/-- The bundles of a document: the section of each, its defaults and the examples for it. -/
def ConfigDocument.bundles (document : ConfigDocument) :
    List (String × Ident.Bundle × StyleSamples) :=
  [("cpp.ident_style", .cpp, document.cpp.identStyle),
    ("java.ident_style", .java, document.java.identStyle),
    ("objc.ident_style", .objc, document.objc.identStyle),
    ("cpp_cli.ident_style", .cppCli, document.cppCli.identStyle),
    ("python.ident_style", .python, document.python.identStyle)]

/-- A document that passed its check fails only at one of its bundles or at a single example. -/
theorem ConfigDocument.build_error_source {document : ConfigDocument} {base : BaseDir}
    {error : ConfigError} (failed : document.build base = .error error) :
    (∃ part ∈ document.bundles, buildStyles part.1 part.2.1 part.2.2 = .error error) ∨
      ∃ option sample, buildStyle option sample = .error error := by
  unfold ConfigDocument.build at failed
  dsimp only at failed
  rcases error_cases_of_bind failed with failed | ⟨_, -, failed⟩
  · exact .inl ⟨(_, .cpp, _), by simp [bundles], failed⟩
  rcases error_cases_of_bind failed with failed | ⟨_, -, failed⟩
  · exact .inr ⟨_, _, failed⟩
  rcases error_cases_of_bind failed with failed | ⟨_, -, failed⟩
  · exact .inl ⟨(_, .java, _), by simp [bundles], failed⟩
  rcases error_cases_of_bind failed with failed | ⟨_, -, failed⟩
  · exact .inr ⟨_, _, failed⟩
  rcases error_cases_of_bind failed with failed | ⟨_, -, failed⟩
  · exact .inr ⟨_, _, failed⟩
  rcases error_cases_of_bind failed with failed | ⟨_, -, failed⟩
  · exact .inl ⟨(_, .objc, _), by simp [bundles], failed⟩
  rcases error_cases_of_bind failed with failed | ⟨_, -, failed⟩
  · exact .inr ⟨_, _, failed⟩
  rcases error_cases_of_bind failed with failed | ⟨_, -, failed⟩
  · exact .inl ⟨(_, .cppCli, _), by simp [bundles], failed⟩
  rcases error_cases_of_bind failed with failed | ⟨_, -, failed⟩
  · exact .inl ⟨(_, .python, _), by simp [bundles], failed⟩
  · cases failed

/-- A document that passed its check fails only at an example that cannot be used. -/
theorem ConfigDocument.build_error {document : ConfigDocument} {base : BaseDir}
    {error : ConfigError} (failed : document.build base = .error error) :
    ∃ cause, error = .style cause := by
  rcases ConfigDocument.build_error_source failed with ⟨_, -, failed⟩ | ⟨_, _, failed⟩
  · exact buildStyles_error failed
  · exact buildStyle_error failed

/-- An example that cannot be used is reported the same way wherever the document came from. -/
theorem ConfigDocument.build_whenLoaded (document : ConfigDocument) (base : BaseDir)
    (path : String) :
    (document.build base).mapError (ConfigError.whenLoaded path) = document.build base := by
  cases built : document.build base with
  | ok config => rfl
  | error error =>
      obtain ⟨cause, rfl⟩ := ConfigDocument.build_error built
      rfl

/-- Building fails with the issues of the value or at an example. -/
theorem buildConfig_error {base : BaseDir} {value : Value} {error : ConfigError}
    (failed : buildConfig base value = .error error) :
    (∃ issues, error = .invalid issues) ∨ ∃ cause, error = .style cause := by
  unfold buildConfig at failed
  split at failed
  · exact .inr (ConfigDocument.build_error failed)
  · cases failed
    exact .inl ⟨_, rfl⟩

/-! ## Loading -/

theorem FileSystem.isPresent_of_read {fs : FileSystem} {path content : String}
    (read : fs.read path = .ok content) : fs.isPresent path = true := by
  unfold FileSystem.read at read
  unfold FileSystem.isPresent
  split at read
  · cases read
  · cases read
  · next found => rw [found]

section

variable [YamlPackage]

/-- A text that is parsed is checked as its value. -/
theorem readChecked_of_parsed {α : Type} {content : String} {value : Value}
    (parsed : YamlPackage.parse content = .ok value) (check : Schema.Check α) :
    readChecked check content =
      match check [] (some value.orEmptyMap) with
      | .ok checked => .ok checked
      | .bad issues => .error (.invalid (Issue.summary issues)) := by
  unfold readChecked
  rw [parsed]
  rfl

/-- Loading a file is building from its value, with the errors of a file. -/
theorem loadConfig_of_parsed {fs : FileSystem} {projectRoot : String} {asked : Option String}
    {content : String} {value : Value}
    (read : fs.read (configFile fs projectRoot asked) = .ok content)
    (parsed : YamlPackage.parse content = .ok value) :
    loadConfig fs projectRoot asked =
      (buildConfig ⟨fs.cwdPath, Path.dirname (configFile fs projectRoot asked)⟩
        value.orEmptyMap).mapError (ConfigError.whenLoaded (configFile fs projectRoot asked)) := by
  have present := FileSystem.isPresent_of_read read
  unfold configFile at read present ⊢
  unfold loadConfig
  dsimp only
  rw [if_pos present, loadChecked, read]
  dsimp only
  rw [readChecked_of_parsed parsed, buildConfig]
  cases ConfigDocument.check [] (some value.orEmptyMap) with
  | ok document => exact (document.build_whenLoaded _ _).symm
  | bad issues => rfl

/-- Without the file there are defaults, unless a file was asked for. -/
theorem loadConfig_of_absent {fs : FileSystem} {projectRoot : String} {asked : Option String}
    (absent : fs.isPresent (configFile fs projectRoot asked) = false) :
    loadConfig fs projectRoot asked =
      if asked.all (·.isEmpty) then buildConfig ⟨fs.cwdPath, projectRoot⟩ (.map [])
      else .error (.notFound (configFile fs projectRoot asked)) := by
  unfold loadConfig
  exact if_neg (by rw [Bool.not_eq_true]; exact absent)

/-- Loading a file whose text is parsed to a value gives the configuration that is built from the
value with folders below the file's. A value that fails its check is reported as a file that cannot
be loaded, in the words of the check, and an example that cannot be used as it is. Without a file
there are the defaults below the project, unless a file was asked for by name. -/
theorem loadConfig_agrees_with_buildConfig (fs : FileSystem) (projectRoot : String)
    (asked : Option String) :
    (∀ content value, fs.read (configFile fs projectRoot asked) = .ok content →
      YamlPackage.parse content = .ok value →
      (∀ config,
        buildConfig ⟨fs.cwdPath, Path.dirname (configFile fs projectRoot asked)⟩
          value.orEmptyMap = .ok config →
        loadConfig fs projectRoot asked = .ok config) ∧
      ∀ error,
        buildConfig ⟨fs.cwdPath, Path.dirname (configFile fs projectRoot asked)⟩
          value.orEmptyMap = .error error →
        (error.code = .invalidConfig ∧ ∃ issues reported,
          error.message = "Invalid configuration: " ++ issues ∧
          loadConfig fs projectRoot asked = .error reported ∧ reported.code = .configLoadError ∧
          reported.message = "Failed to load config from " ++ configFile fs projectRoot asked ++
            ": YAML validation failed: " ++ issues ++
            " (file: " ++ configFile fs projectRoot asked ++ ")") ∨
        error.code = .unknownIdentStyle ∧ loadConfig fs projectRoot asked = .error error) ∧
    (fs.isPresent (configFile fs projectRoot asked) = false →
      (asked.all (·.isEmpty) = true →
        loadConfig fs projectRoot asked = buildConfig ⟨fs.cwdPath, projectRoot⟩ (.map [])) ∧
      (asked.all (·.isEmpty) = false →
        ∃ error, loadConfig fs projectRoot asked = .error error ∧
          error.code = .configLoadError)) := by
  refine ⟨fun content value read parsed => ⟨fun config built => ?_, fun error failed => ?_⟩,
    fun absent => ⟨fun unasked => ?_, fun named => ?_⟩⟩
  · rw [loadConfig_of_parsed read parsed, built]
    rfl
  · rw [loadConfig_of_parsed read parsed, failed]
    rcases buildConfig_error failed with ⟨issues, rfl⟩ | ⟨cause, rfl⟩
    · exact .inl ⟨rfl, issues, ConfigError.whenLoaded _ (.invalid issues), rfl, rfl, rfl,
        ConfigError.message_whenLoaded _ issues⟩
    · exact .inr ⟨rfl, rfl⟩
  · rw [loadConfig_of_absent absent, if_pos unasked]
  · rw [loadConfig_of_absent absent, if_neg (by rw [named]; exact Bool.false_ne_true)]
    exact ⟨_, rfl, rfl⟩

end

/-- A project whose file sets an extension that is not a text. -/
def numberedExtension : FileSystem where
  cwd := []
  entries := [(["app"], .directory), (["app", "bridgegen.yaml"], .file "cpp:\n  header_ext: 3\n")]

open scoped Yaml in
theorem numberedExtension_reported :
    (∃ content value error issues reported,
      numberedExtension.read (configFile numberedExtension "app" none) = .ok content ∧
      YamlPackage.parse content = .ok value ∧
      buildConfig ⟨numberedExtension.cwdPath,
        Path.dirname (configFile numberedExtension "app" none)⟩ value.orEmptyMap = .error error ∧
      error.code = .invalidConfig ∧ error.message = "Invalid configuration: " ++ issues ∧
      loadConfig numberedExtension "app" none = .error reported ∧
      reported.code = .configLoadError ∧
      reported.message = "Failed to load config from " ++ configFile numberedExtension "app" none ++
        ": YAML validation failed: " ++ issues ++
        " (file: " ++ configFile numberedExtension "app" none ++ ")") ∧
    numberedExtension.isPresent (configFile numberedExtension "app" (some "own.yaml")) = false ∧
    ∃ error, loadConfig numberedExtension "app" (some "own.yaml") = .error error ∧
      error.code = .configLoadError := by
  have evaluated : ((numberedExtension.read
      (configFile numberedExtension "app" none)).toOption.any fun content =>
        (YamlPackage.parse content).toOption.any fun value =>
          match buildConfig ⟨numberedExtension.cwdPath,
              Path.dirname (configFile numberedExtension "app" none)⟩ value.orEmptyMap with
          | .error error => error.code == .invalidConfig
          | .ok _ => false) = true := by
    decide +kernel
  have absent : numberedExtension.isPresent
      (configFile numberedExtension "app" (some "own.yaml")) = false := by decide +kernel
  refine ⟨?_, absent, ?_⟩
  · cases read : numberedExtension.read (configFile numberedExtension "app" none) with
    | error _ =>
        rw [read] at evaluated
        cases evaluated
    | ok content =>
        rw [read] at evaluated
        simp only [Except.toOption, Option.any_some] at evaluated
        cases parsed : YamlPackage.parse content with
        | error _ =>
            rw [parsed] at evaluated
            cases evaluated
        | ok value =>
            rw [parsed] at evaluated
            simp only [Option.any_some] at evaluated
            split at evaluated
            · next error failed =>
                rcases ((loadConfig_agrees_with_buildConfig numberedExtension "app" none).1
                  content value read parsed).2 error failed with
                  ⟨code, issues, reported, message, loaded, loadCode, loadMessage⟩ | ⟨code, -⟩
                · exact ⟨content, value, error, issues, reported, rfl, parsed, failed, code,
                    message, loaded, loadCode, loadMessage⟩
                · rw [code] at evaluated
                  cases evaluated
            · cases evaluated
  · exact ((loadConfig_agrees_with_buildConfig numberedExtension "app" (some "own.yaml")).2
      absent).2 rfl

end BridgeCode
