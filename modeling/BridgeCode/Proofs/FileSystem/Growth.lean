import BridgeCode.Proofs.FileSystem.Leads

/-!
What a run does to a disk: files and folders are added, files are rewritten, and nothing else.

`Grows` says so of two states of a disk. It is a preorder that opening files, writing to them and
creating folders respect, and under it whatever a path once led to stays where it is:

* `Grows.leads_found`: a walk that arrived at something arrives there again;
* `Grows.locate_opened`: a path that was opened leads to the same file.
-/

namespace BridgeCode.FileSystem

/-- A later state of a disk: folders and files are still there, files possibly with another text,
and the links are the same. -/
structure Grows (fs fs' : FileSystem) : Prop where
  cwd : fs'.cwd = fs.cwd
  folder : ∀ {place}, fs.node? place = some .directory → fs'.node? place = some .directory
  file : ∀ {place content}, fs.node? place = some (.file content) →
    ∃ content', fs'.node? place = some (.file content')
  link : ∀ place target,
    fs'.node? place = some (.link target) ↔ fs.node? place = some (.link target)

theorem Grows.refl (fs : FileSystem) : fs.Grows fs :=
  ⟨rfl, id, fun entry => ⟨_, entry⟩, fun _ _ => Iff.rfl⟩

theorem Grows.trans {fs fs' fs'' : FileSystem} (first : fs.Grows fs') (second : fs'.Grows fs'') :
    fs.Grows fs'' := by
  refine ⟨second.cwd.trans first.cwd, fun entry => second.folder (first.folder entry),
    fun entry => ?_, fun place target => (second.link place target).trans (first.link place target)⟩
  obtain ⟨content, entry⟩ := first.file entry
  exact second.file entry

/-! ## Walks on a later disk -/

/-- A walk that arrived at something arrives there again. -/
theorem Grows.leads_found {fs fs' : FileSystem} (grows : fs.Grows fs') {links : Nat}
    {place reached : Location} {path : List String}
    (leads : fs.Leads links place path (.found reached)) :
    fs'.Leads links place path (.found reached) := by
  generalize found : Walk.found reached = result at leads ⊢
  induction leads with
  | here => exact .here
  | dot _ ih => exact .dot (ih found)
  | up _ ih => exact .up (ih found)
  | folder name entry _ ih => exact .folder name (grows.folder entry) (ih found)
  | file name entry =>
      obtain ⟨_, later⟩ := grows.file entry
      exact .file name later
  | missing => cases found
  | link name entry _ ih => exact .link name ((grows.link _ _).2 entry) (ih found)

/-- A walk that arrived at a free name arrives at the file that stands there later. -/
theorem Grows.leads_filled {fs fs' : FileSystem} (grows : fs.Grows fs') {links : Nat}
    {place folder : Location} {name content : String} {path : List String}
    (leads : fs.Leads links place path (.absent folder name))
    (filled : fs'.node? (folder ++ [name]) = some (.file content)) :
    fs'.Leads links place path (.found (folder ++ [name])) := by
  generalize absent : Walk.absent folder name = result at leads
  induction leads with
  | here => cases absent
  | dot _ ih => exact .dot (ih absent)
  | up _ ih => exact .up (ih absent)
  | folder entryName entry _ ih => exact .folder entryName (grows.folder entry) (ih absent)
  | file => cases absent
  | missing entryName entry =>
      cases absent
      exact .file entryName filled
  | link entryName entry _ ih => exact .link entryName ((grows.link _ _).2 entry) (ih absent)

/-- The walk of a path starts at the same place on a later disk. -/
theorem Grows.locate_found {fs fs' : FileSystem} (grows : fs.Grows fs') {path : String}
    {reached : Location} (found : fs.locate path = .found reached) :
    fs'.locate path = .found reached := by
  unfold locate at found ⊢
  rw [grows.cwd]
  split at found
  · cases found
  · next nonempty =>
      rw [if_neg nonempty]
      exact walk_eq_found_iff.2 (grows.leads_found (walk_eq_found_iff.1 found))

/-! ## Single changes -/

/-- A file may be written where there is none or another file. -/
theorem Grows.put_file {fs : FileSystem} {place : Location} {content : String}
    (writable : ∀ node, fs.node? place = some node → ∃ old, node = .file old) :
    fs.Grows (fs.put place (.file content)) := by
  have below : place ≠ [] := by
    rintro rfl
    obtain ⟨_, other⟩ := writable .directory rfl
    cases other
  refine ⟨rfl, fun {other} entry => ?_, fun {other old} entry => ?_, fun other target => ?_⟩
  · rw [node?_put _ _ _ _ below]
    split
    · next same =>
        subst same
        obtain ⟨_, isFile⟩ := writable _ entry
        cases isFile
    · exact entry
  · rw [node?_put _ _ _ _ below]
    split
    · exact ⟨content, rfl⟩
    · exact ⟨old, entry⟩
  · rw [node?_put _ _ _ _ below]
    split
    · next same =>
        subst same
        refine ⟨nofun, fun entry => ?_⟩
        obtain ⟨_, isFile⟩ := writable _ entry
        cases isFile
    · exact Iff.rfl

/-- A folder may be created where there is nothing. -/
theorem Grows.put_folder {fs : FileSystem} {place : Location} (free : fs.node? place = none) :
    fs.Grows (fs.put place .directory) := by
  have below : place ≠ [] := by
    rintro rfl
    cases free
  refine ⟨rfl, fun {other} entry => ?_, fun {other old} entry => ?_, fun other target => ?_⟩
  · rw [node?_put _ _ _ _ below]
    split
    · rfl
    · exact entry
  · rw [node?_put _ _ _ _ below]
    split
    · next same => simp [same, free] at entry
    · exact ⟨old, entry⟩
  · rw [node?_put _ _ _ _ below]
    split
    · next same =>
        subst same
        simp [free]
    · exact Iff.rfl

/-- Text is added to a file and to nothing else. -/
theorem node?_appendAt (fs : FileSystem) (place other : Location) (text : String) :
    (fs.appendAt place text).node? other =
      match fs.node? place with
      | some (.file content) =>
        if other = place then some (.file (content ++ text)) else fs.node? other
      | _ => fs.node? other := by
  unfold appendAt
  rcases entry : fs.node? place with - | (- | content | target)
  · rfl
  · rfl
  · have below : place ≠ [] := by
      rintro rfl
      cases entry
    exact node?_put fs place other _ below
  · rfl

theorem appendAt_grows (fs : FileSystem) (place : Location) (text : String) :
    fs.Grows (fs.appendAt place text) := by
  unfold appendAt
  split
  · next content entry =>
      refine Grows.put_file fun node standing => ?_
      rw [entry] at standing
      exact ⟨content, (Option.some.inj standing).symm⟩
  · exact Grows.refl fs

/-! ## Text that is added in pieces -/

theorem putEntry_putEntry (place : Location) (node later : FileNode)
    (entries : List (Location × FileNode)) :
    putEntry place later (putEntry place node entries) = putEntry place later entries := by
  induction entries with
  | nil => simp [putEntry]
  | cons entry entries ih =>
      obtain ⟨other, old⟩ := entry
      by_cases same : other = place
      · simp [putEntry, same]
      · simp [putEntry, same, ih]

theorem putEntry_of_lookup {place : Location} {node : FileNode}
    {entries : List (Location × FileNode)} (standing : entries.lookup place = some node) :
    putEntry place node entries = entries := by
  induction entries with
  | nil => cases standing
  | cons entry entries ih =>
      obtain ⟨other, old⟩ := entry
      by_cases same : other = place
      · subst same
        simp only [List.lookup_cons_self, Option.some.injEq] at standing
        simp [putEntry, standing]
      · rw [List.lookup_cons, beq_eq_false_iff_ne.2 (Ne.symm same)] at standing
        simp [putEntry, same, ih standing]

/-- Two texts that are added one after the other are added as one. -/
theorem appendAt_appendAt (fs : FileSystem) (place : Location) (text more : String) :
    (fs.appendAt place text).appendAt place more = fs.appendAt place (text ++ more) := by
  rcases entry : fs.node? place with - | (- | content | target)
  case some.file =>
    have below : place ≠ [] := by
      rintro rfl
      cases entry
    have written : (fs.put place (.file (content ++ text))).node? place =
        some (.file (content ++ text)) := by
      rw [node?_put _ _ _ _ below, if_pos rfl]
    have first : fs.appendAt place text = fs.put place (.file (content ++ text)) := by
      simp only [appendAt, entry]
    have both : fs.appendAt place (text ++ more) =
        fs.put place (.file (content ++ (text ++ more))) := by
      simp only [appendAt, entry]
    rw [first, both]
    simp only [appendAt, written]
    simp only [put, putEntry_putEntry, String.append_assoc]
  all_goals simp only [appendAt, entry]

/-- Nothing is changed by adding no text. -/
theorem appendAt_empty (fs : FileSystem) (place : Location) : fs.appendAt place "" = fs := by
  rcases entry : fs.node? place with - | (- | content | target)
  case some.file =>
    have below : place.isEmpty = false := by
      cases place with
      | nil => cases entry
      | cons name names => rfl
    simp only [appendAt, entry, put, String.append_empty]
    rw [node?, below] at entry
    rw [putEntry_of_lookup entry]
  all_goals simp only [appendAt, entry]

/-- Texts that are added one by one are added as their concatenation. -/
theorem foldl_appendAt (fs : FileSystem) (place : Location) (texts : List String) :
    texts.foldl (fun disk text => disk.appendAt place text) fs =
      fs.appendAt place (String.join texts) := by
  induction texts generalizing fs with
  | nil => exact (appendAt_empty fs place).symm
  | cons text texts ih => rw [List.foldl_cons, ih, appendAt_appendAt, String.join_cons]

/-! ## Opening files -/

/-- The disk after a file that is there is opened. -/
def withOpened (fs : FileSystem) (place : Location) : OpenMode → FileSystem
  | .truncate => fs.put place (.file "")
  | .append => fs

/-- What opening a file does: it makes a file at a free name, or finds one and, when it is to be
truncated, empties it. -/
theorem openFile_ok {fs fs' : FileSystem} {mode : OpenMode} {path : String} {place : Location}
    (opened : fs.openFile mode path = .ok (fs', place)) :
    Path.endsInSlash path = false ∧
      ((∃ folder name, fs.locate path = .absent folder name ∧ place = folder ++ [name] ∧
          fs' = fs.put place (.file "")) ∨
        ∃ content, fs.locate path = .found place ∧ fs.node? place = some (.file content) ∧
          fs' = fs.withOpened place mode) := by
  unfold openFile at opened
  cases slash : Path.endsInSlash path with
  | true =>
      rw [if_pos slash] at opened
      split at opened <;> cases opened
  | false =>
      rw [if_neg (by simp [slash])] at opened
      refine ⟨rfl, ?_⟩
      split at opened
      · cases opened
      · next folder name located =>
          cases opened
          exact .inl ⟨folder, name, located, rfl, rfl⟩
      · next reached located =>
          split at opened
          · next entry =>
              cases opened
              exact .inr ⟨_, located, entry, rfl⟩
          · next entry =>
              cases opened
              exact .inr ⟨_, located, entry, rfl⟩
          · cases opened

/-- The walk of a path that is not empty. -/
theorem locate_eq_walk {fs : FileSystem} {path : String} {result : Walk}
    (located : fs.locate path = result) (arrives : ∀ error, result ≠ .failed error) :
    path.isEmpty = false ∧ fs.walk maxLinks (startOf fs.cwd path) (steps path) = result := by
  unfold locate at located
  split at located
  · exact absurd located.symm (arrives _)
  · next nonempty => exact ⟨by simpa using nonempty, located⟩

/-- The name that a path leads to is free if the walk says so. -/
theorem locate_absent_free {fs : FileSystem} {path : String} {folder : Location} {name : String}
    (located : fs.locate path = .absent folder name) : fs.node? (folder ++ [name]) = none :=
  (walk_eq_absent_iff.1 (locate_eq_walk located nofun).2).absent_free

/-- A file can be opened only where there is none or a file. -/
theorem openFile_writable {fs fs' : FileSystem} {mode : OpenMode} {path : String}
    {place : Location} (opened : fs.openFile mode path = .ok (fs', place)) :
    ∀ node, fs.node? place = some node → ∃ old, node = .file old := by
  intro node standing
  rcases (openFile_ok opened).2 with ⟨folder, name, located, rfl, -⟩ | ⟨content, -, entry, -⟩
  · rw [locate_absent_free located] at standing
    cases standing
  · rw [entry] at standing
    exact ⟨content, (Option.some.inj standing).symm⟩

theorem openFile_below {fs fs' : FileSystem} {mode : OpenMode} {path : String}
    {place : Location} (opened : fs.openFile mode path = .ok (fs', place)) : place ≠ [] := by
  rintro rfl
  obtain ⟨_, other⟩ := openFile_writable opened .directory rfl
  cases other

theorem openFile_grows {fs fs' : FileSystem} {mode : OpenMode} {path : String} {place : Location}
    (opened : fs.openFile mode path = .ok (fs', place)) : fs.Grows fs' := by
  have writable := openFile_writable opened
  rcases (openFile_ok opened).2 with ⟨_, _, -, -, rfl⟩ | ⟨_, -, -, rfl⟩
  · exact Grows.put_file writable
  · cases mode with
    | truncate => exact Grows.put_file writable
    | append => exact Grows.refl fs

/-- No other place changes when a file is opened. -/
theorem openFile_node?_ne {fs fs' : FileSystem} {mode : OpenMode} {path : String}
    {place other : Location} (opened : fs.openFile mode path = .ok (fs', place))
    (ne : other ≠ place) : fs'.node? other = fs.node? other := by
  have below := openFile_below opened
  rcases (openFile_ok opened).2 with ⟨_, _, -, -, rfl⟩ | ⟨_, -, -, rfl⟩
  · rw [node?_put _ _ _ _ below, if_neg ne]
  · cases mode with
    | truncate => exact (node?_put _ _ _ _ below).trans (if_neg ne)
    | append => rfl

/-- The text of a file once it is open: its old text if it is to be kept, else none. -/
theorem openFile_node? {fs fs' : FileSystem} {mode : OpenMode} {path : String} {place : Location}
    (opened : fs.openFile mode path = .ok (fs', place)) :
    fs'.node? place = some (.file "") ∧ (mode = .truncate ∨ fs.node? place = none) ∨
      mode = .append ∧ ∃ content, fs.node? place = some (.file content) ∧
        fs'.node? place = some (.file content) := by
  have below := openFile_below opened
  rcases (openFile_ok opened).2 with ⟨_, _, located, rfl, rfl⟩ | ⟨content, -, entry, rfl⟩
  · exact .inl ⟨by rw [node?_put _ _ _ _ below, if_pos rfl], .inr (locate_absent_free located)⟩
  · cases mode with
    | truncate => exact .inl ⟨(node?_put _ _ _ _ below).trans (if_pos rfl), .inl rfl⟩
    | append => exact .inr ⟨rfl, content, entry, entry⟩

/-- A file that is opened to be truncated is empty. -/
theorem openFile_truncated {fs fs' : FileSystem} {path : String} {place : Location}
    (opened : fs.openFile .truncate path = .ok (fs', place)) :
    fs'.node? place = some (.file "") := by
  rcases openFile_node? opened with ⟨emptied, -⟩ | ⟨isAppend, -⟩
  · exact emptied
  · cases isAppend

/-- A file is there once it is open. -/
theorem openFile_isFile {fs fs' : FileSystem} {mode : OpenMode} {path : String} {place : Location}
    (opened : fs.openFile mode path = .ok (fs', place)) :
    ∃ content, fs'.node? place = some (.file content) := by
  rcases openFile_node? opened with ⟨entry, -⟩ | ⟨-, content, -, entry⟩
  · exact ⟨_, entry⟩
  · exact ⟨content, entry⟩

/-- From the moment a file is opened on, its path leads to it. -/
theorem Grows.locate_opened {fs fs' later : FileSystem} {mode : OpenMode} {path : String}
    {place : Location} (opened : fs.openFile mode path = .ok (fs', place))
    (grows : fs'.Grows later) : later.locate path = .found place := by
  have whole := (openFile_grows opened).trans grows
  rcases (openFile_ok opened).2 with ⟨folder, name, located, rfl, -⟩ | ⟨_, located, -, -⟩
  · obtain ⟨_, entry⟩ := openFile_isFile opened
    obtain ⟨_, standing⟩ := grows.file entry
    obtain ⟨nonempty, walked⟩ := locate_eq_walk located nofun
    have leads := whole.leads_filled (walk_eq_absent_iff.1 walked) standing
    rw [← walk_eq_found_iff, ← whole.cwd] at leads
    simp [locate, nonempty, leads]
  · exact whole.locate_found located

/-- A path that leads to a file can be opened. -/
theorem openFile_of_found {fs : FileSystem} {path : String} {place : Location} {content : String}
    (noSlash : Path.endsInSlash path = false) (located : fs.locate path = .found place)
    (entry : fs.node? place = some (.file content)) (mode : OpenMode) :
    fs.openFile mode path = .ok (fs.withOpened place mode, place) := by
  unfold openFile
  rw [if_neg (by simp [noSlash]), located]
  cases mode <;> simp only [entry, withOpened]

/-! ## Creating folders -/

theorem makeFoldersFrom_grows (fs : FileSystem) (place : Location) (path : List String) :
    fs.Grows (fs.makeFoldersFrom place path).1 := by
  induction path generalizing fs place with
  | nil => exact Grows.refl fs
  | cons step rest ih =>
      unfold makeFoldersFrom
      split
      · exact ih fs place
      split
      · exact ih fs _
      split
      · exact Grows.refl fs
      · split
        · exact ih fs _
        · exact Grows.refl fs
      · split
        · exact Grows.refl fs
        · next free =>
            have free : fs.node? (place ++ [step]) = none := by simpa using free
            exact (Grows.put_folder free).trans (ih _ _)

theorem makeFolders_grows (fs : FileSystem) (path : String) : fs.Grows (fs.makeFolders path).1 := by
  unfold makeFolders
  split
  · exact Grows.refl fs
  · exact makeFoldersFrom_grows fs _ _

/-- Creating folders changes nothing that is there. -/
theorem makeFoldersFrom_node? {fs : FileSystem} {other : Location} {node : FileNode}
    (standing : fs.node? other = some node) (place : Location) (path : List String) :
    (fs.makeFoldersFrom place path).1.node? other = some node := by
  induction path generalizing fs place with
  | nil => exact standing
  | cons step rest ih =>
      unfold makeFoldersFrom
      split
      · exact ih standing place
      split
      · exact ih standing _
      split
      · exact standing
      · split
        · exact ih standing _
        · exact standing
      · split
        · exact standing
        · next free =>
            have free : fs.node? (place ++ [step]) = none := by simpa using free
            refine ih ?_ _
            rw [node?_put _ _ _ _ (by simp), if_neg ?_]
            · exact standing
            · rintro rfl
              simp [free] at standing

theorem makeFolders_node? {fs : FileSystem} {other : Location} {node : FileNode}
    (standing : fs.node? other = some node) (path : String) :
    (fs.makeFolders path).1.node? other = some node := by
  unfold makeFolders
  split
  · exact standing
  · exact makeFoldersFrom_node? standing _ _

/-! ## Texts that are kept -/

/-- The text of the file at a place is still there; more may follow it. -/
def Keeps (place : Location) (fs fs' : FileSystem) : Prop :=
  ∀ content, fs.node? place = some (.file content) →
    ∃ more, fs'.node? place = some (.file (content ++ more))

theorem Keeps.refl (place : Location) (fs : FileSystem) : Keeps place fs fs :=
  fun _ entry => ⟨"", by rw [String.append_empty]; exact entry⟩

theorem Keeps.trans {place : Location} {fs fs' fs'' : FileSystem} (first : Keeps place fs fs')
    (second : Keeps place fs' fs'') : Keeps place fs fs'' := by
  intro content entry
  obtain ⟨more, entry⟩ := first content entry
  obtain ⟨most, entry⟩ := second _ entry
  exact ⟨more ++ most, by rw [entry, String.append_assoc]⟩

theorem Keeps.of_standing {place : Location} {fs fs' : FileSystem}
    (standing : ∀ node, fs.node? place = some node → fs'.node? place = some node) :
    Keeps place fs fs' :=
  fun content entry => ⟨"", by rw [String.append_empty]; exact standing _ entry⟩

theorem appendAt_keeps (fs : FileSystem) (place other : Location) (text : String) :
    Keeps other fs (fs.appendAt place text) := by
  intro content entry
  rw [node?_appendAt]
  split
  · next old written =>
      split
      · next same =>
          subst same
          rw [entry] at written
          cases written
          exact ⟨text, rfl⟩
      · exact Keeps.refl other fs content entry
  · exact Keeps.refl other fs content entry

/-- Opening a file empties it only if it is to be truncated. -/
theorem openFile_keeps {fs fs' : FileSystem} {mode : OpenMode} {path : String}
    {place other : Location} (opened : fs.openFile mode path = .ok (fs', place))
    (spared : mode = .append ∨ other ≠ place) : Keeps other fs fs' := by
  by_cases same : other = place
  · subst same
    intro content entry
    rcases openFile_node? opened with ⟨-, rfl | free⟩ | ⟨-, old, before, after⟩
    · simp at spared
    · simp [free] at entry
    · rw [before] at entry
      cases entry
      exact ⟨"", by rw [String.append_empty]; exact after⟩
  · exact Keeps.of_standing fun node standing => (openFile_node?_ne opened same).trans standing

/-! ## Paths that lead to a file -/

theorem read_of_found {fs : FileSystem} {path content : String} {place : Location}
    (located : fs.locate path = .found place) (standing : fs.node? place = some (.file content)) :
    fs.read path = .ok content := by
  rw [read, located]
  dsimp only
  rw [standing]

/-- The path leads to a file, so it can be opened. -/
def LeadsToFile (fs : FileSystem) (path : String) : Prop :=
  Path.endsInSlash path = false ∧
    ∃ place content, fs.locate path = .found place ∧ fs.node? place = some (.file content)

theorem LeadsToFile.grows {fs fs' : FileSystem} {path : String} (leads : fs.LeadsToFile path)
    (grows : fs.Grows fs') : fs'.LeadsToFile path := by
  obtain ⟨noSlash, place, content, located, entry⟩ := leads
  obtain ⟨content', entry'⟩ := grows.file entry
  exact ⟨noSlash, place, content', grows.locate_found located, entry'⟩

theorem openFile_leadsToFile {fs fs' : FileSystem} {mode : OpenMode} {path : String}
    {place : Location} (opened : fs.openFile mode path = .ok (fs', place)) :
    fs'.LeadsToFile path := by
  obtain ⟨content, entry⟩ := openFile_isFile opened
  exact ⟨(openFile_ok opened).1, place, content, Grows.locate_opened opened (Grows.refl fs'), entry⟩

end BridgeCode.FileSystem
