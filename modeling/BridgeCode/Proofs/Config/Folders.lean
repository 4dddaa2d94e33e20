import BridgeCode.Config.Build
import BridgeCode.Proofs.Path
import BridgeCode.Proofs.Results

/-!
The folders of a configuration that was built from a document are absolute.
-/

namespace BridgeCode

/-- The folders that generators write to are absolute. -/
structure Config.Grounded (config : Config) : Prop where
  cpp : ∀ folder, config.cpp.headerOutFolder = some folder → Path.isAbsolute folder = true
  objc : ∀ folder, config.objc.headerOutFolder = some folder → Path.isAbsolute folder = true
  yaml : ∀ folder, config.yaml.outFolder = some folder → Path.isAbsolute folder = true

theorem BaseDir.isAbsolute_folder {base : BaseDir} {setting : Option String} {folder : String}
    (built : base.folder setting = some folder) : Path.isAbsolute folder = true := by
  obtain ⟨_, -, rfl⟩ := Option.map_eq_some_iff.1 built
  exact Path.isAbsolute_render _

theorem BaseDir.isAbsolute_headerFolder {base : BaseDir} {main header : Option String}
    {folder : String} (built : base.headerFolder main header = some folder) :
    Path.isAbsolute folder = true := by
  obtain ⟨_, -, built⟩ := Option.bind_eq_some_iff.1 built
  exact base.isAbsolute_folder built

theorem ConfigDocument.grounded_of_build {document : ConfigDocument} {base : BaseDir}
    {config : Config} (built : document.build base = .ok config) : config.Grounded := by
  unfold ConfigDocument.build at built
  dsimp only at built
  repeat obtain ⟨_, -, built⟩ := exists_ok_of_bind built
  cases built
  exact ⟨fun _ => BaseDir.isAbsolute_headerFolder, fun _ => BaseDir.isAbsolute_headerFolder,
    fun _ => BaseDir.isAbsolute_folder⟩

theorem grounded_of_buildConfig {base : BaseDir} {value : Value} {config : Config}
    (built : buildConfig base value = .ok config) : config.Grounded := by
  unfold buildConfig at built
  split at built
  · exact ConfigDocument.grounded_of_build built
  · cases built

end BridgeCode
