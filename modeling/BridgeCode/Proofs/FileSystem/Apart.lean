import BridgeCode.Proofs.FileSystem.Canonical
import BridgeCode.Proofs.FileSystem.Same

/-!
Files at different places are written apart from each other.

`OpensAt` says that a path can be opened for writing and which place it leads to then. Writing a
file at one place (`WritesAt`) makes no difference to whether and where other files can be opened:
`WritesAt.opensAt_iff`. The reason is that no walk goes on from a file, so a walk that ends
elsewhere does not come by. On a disk without links the place is the location that the text of the
path names (`LinkFree.place_eq`).
-/

namespace BridgeCode.FileSystem

/-- The path can be opened for writing: it leads to a file, or to a free name in a folder. -/
def OpensAt (fs : FileSystem) (path : String) (place : Location) : Prop :=
  Path.endsInSlash path = false ∧
    ((∃ folder name, fs.locate path = .absent folder name ∧ place = folder ++ [name]) ∨
      ∃ content, fs.locate path = .found place ∧ fs.node? place = some (.file content))

theorem openFile_ok_iff {fs : FileSystem} {mode : OpenMode} {path : String} {place : Location} :
    (∃ opened, fs.openFile mode path = .ok (opened, place)) ↔ fs.OpensAt path place := by
  constructor
  · rintro ⟨opened, ran⟩
    obtain ⟨noSlash, ⟨folder, name, located, reached, -⟩ | ⟨content, located, standing, -⟩⟩ :=
      openFile_ok ran
    · exact ⟨noSlash, .inl ⟨folder, name, located, reached⟩⟩
    · exact ⟨noSlash, .inr ⟨content, located, standing⟩⟩
  · rintro ⟨noSlash, ⟨folder, name, located, rfl⟩ | ⟨content, located, standing⟩⟩
    · refine ⟨fs.put (folder ++ [name]) (.file ""), ?_⟩
      unfold openFile
      rw [if_neg (by simp [noSlash]), located]
    · exact ⟨_, openFile_of_found noSlash located standing mode⟩

theorem Same.opensAt {fs fs' : FileSystem} (same : fs.Same fs') {path : String} {place : Location}
    (opens : fs.OpensAt path place) : fs'.OpensAt path place := by
  unfold OpensAt at opens ⊢
  rw [same.locate_eq, same.node]
  exact opens

/-! ## Walks that do not come by -/

/-- A walk arrives on another disk if the folders and links are there and what it arrives at is. -/
theorem Leads.transfer {fs fs' : FileSystem} {links : Nat} {place : Location} {path : List String}
    {result : Walk} (leads : fs.Leads links place path result)
    (folder : ∀ {other}, fs.node? other = some .directory → fs'.node? other = some .directory)
    (link : ∀ {other target}, fs.node? other = some (.link target) →
      fs'.node? other = some (.link target))
    (file : ∀ {other content}, result = .found other → fs.node? other = some (.file content) →
      ∃ content', fs'.node? other = some (.file content'))
    (missing : ∀ {outer name}, result = .absent outer name → fs.node? (outer ++ [name]) = none →
      fs'.node? (outer ++ [name]) = none) : fs'.Leads links place path result := by
  induction leads with
  | here => exact .here
  | dot _ ih => exact .dot (ih file missing)
  | up _ ih => exact .up (ih file missing)
  | folder name entry _ ih => exact .folder name (folder entry) (ih file missing)
  | file name entry =>
      obtain ⟨_, standing⟩ := file rfl entry
      exact .file name standing
  | missing name entry => exact .missing name (missing rfl entry)
  | link name entry _ ih => exact .link name (link entry) (ih file missing)

theorem locate_eq_found_iff {fs : FileSystem} {path : String} {place : Location} :
    fs.locate path = .found place ↔
      path.isEmpty = false ∧
        fs.Leads maxLinks (startOf fs.cwd path) (steps path) (.found place) := by
  rw [← walk_eq_found_iff]
  refine ⟨fun located => locate_eq_walk located nofun, fun ⟨nonempty, walked⟩ => ?_⟩
  rw [locate, if_neg (by simp [nonempty]), walked]

theorem locate_eq_absent_iff {fs : FileSystem} {path : String} {folder : Location} {name : String} :
    fs.locate path = .absent folder name ↔
      path.isEmpty = false ∧
        fs.Leads maxLinks (startOf fs.cwd path) (steps path) (.absent folder name) := by
  rw [← walk_eq_absent_iff]
  refine ⟨fun located => locate_eq_walk located nofun, fun ⟨nonempty, walked⟩ => ?_⟩
  rw [locate, if_neg (by simp [nonempty]), walked]

/-! ## Writing one file -/

/-- A file with the given text is written at a place where there was none or another file. -/
structure WritesAt (place : Location) (text : String) (fs fs' : FileSystem) : Prop where
  cwd : fs'.cwd = fs.cwd
  writable : ∀ node, fs.node? place = some node → ∃ old, node = .file old
  here : fs'.node? place = some (.file text)
  elsewhere : ∀ other, other ≠ place → fs'.node? other = fs.node? other

namespace WritesAt

variable {fs fs' : FileSystem} {written : Location} {text : String}

theorem of_truncate {opened : FileSystem} {path : String}
    (ran : fs.openFile .truncate path = .ok (opened, written)) :
    WritesAt written text fs (opened.appendAt written text) := by
  have emptied := openFile_truncated ran
  refine ⟨?_, openFile_writable ran, ?_, fun other ne => ?_⟩
  · exact ((openFile_grows ran).trans (appendAt_grows opened written text)).cwd
  · rw [node?_appendAt, emptied]
    simp
  · rw [node?_appendAt, emptied]
    exact (if_neg ne).trans (openFile_node?_ne ran ne)

/-- What is no file stands where it stood. -/
theorem node?_iff (writes : WritesAt written text fs fs') {other : Location} {node : FileNode}
    (noFile : ∀ content, node ≠ .file content) :
    fs'.node? other = some node ↔ fs.node? other = some node := by
  by_cases same : other = written
  · subst same
    rw [writes.here]
    refine ⟨fun standing => ?_, fun standing => ?_⟩
    · exact absurd (Option.some.inj standing).symm (noFile text)
    · obtain ⟨old, isFile⟩ := writes.writable node standing
      exact absurd isFile (noFile old)
  · rw [writes.elsewhere other same]

theorem folder_iff (writes : WritesAt written text fs fs') {other : Location} :
    fs'.node? other = some .directory ↔ fs.node? other = some .directory :=
  writes.node?_iff (by simp)

theorem link_iff (writes : WritesAt written text fs fs') {other : Location} {target : String} :
    fs'.node? other = some (.link target) ↔ fs.node? other = some (.link target) :=
  writes.node?_iff (by simp)

theorem leads_found_iff (writes : WritesAt written text fs fs') {links : Nat}
    {place reached : Location} {path : List String} (away : reached ≠ written) :
    fs'.Leads links place path (.found reached) ↔ fs.Leads links place path (.found reached) := by
  constructor
  · intro leads
    refine leads.transfer writes.folder_iff.1 writes.link_iff.1 ?_ nofun
    intro other content found standing
    cases found
    exact ⟨content, (writes.elsewhere reached away).symm.trans standing⟩
  · intro leads
    refine leads.transfer writes.folder_iff.2 writes.link_iff.2 ?_ nofun
    intro other content found standing
    cases found
    exact ⟨content, (writes.elsewhere reached away).trans standing⟩

theorem leads_absent_iff (writes : WritesAt written text fs fs') {links : Nat}
    {place folder : Location} {name : String} {path : List String}
    (away : folder ++ [name] ≠ written) :
    fs'.Leads links place path (.absent folder name) ↔
      fs.Leads links place path (.absent folder name) := by
  constructor
  · intro leads
    refine leads.transfer writes.folder_iff.1 writes.link_iff.1 nofun ?_
    intro outer last absent free
    cases absent
    exact (writes.elsewhere _ away).symm.trans free
  · intro leads
    refine leads.transfer writes.folder_iff.2 writes.link_iff.2 nofun ?_
    intro outer last absent free
    cases absent
    exact (writes.elsewhere _ away).trans free

/-- A file that is written makes no difference to where others can be opened. -/
theorem opensAt_iff (writes : WritesAt written text fs fs') {path : String} {place : Location}
    (away : place ≠ written) : fs'.OpensAt path place ↔ fs.OpensAt path place := by
  unfold OpensAt
  simp only [locate_eq_absent_iff, locate_eq_found_iff, writes.cwd, writes.leads_found_iff away,
    writes.elsewhere place away]
  refine and_congr_right fun _ => or_congr_left ?_
  refine exists_congr fun folder => exists_congr fun name => ?_
  refine and_congr_left fun reached => and_congr_right fun _ => ?_
  exact writes.leads_absent_iff (reached ▸ away)

end WritesAt

/-! ## Places on a disk without links -/

theorem steps_render {names : List String} (isName : ∀ part ∈ names, Path.IsName part)
    (noSlash : Path.endsInSlash (Path.render names) = false) :
    steps (Path.render names) = names := by
  have nonempty : names ≠ [] := by
    rintro rfl
    cases noSlash
  have kept : names.filter (!·.isEmpty) = names := by
    refine List.filter_eq_self.2 fun part member => ?_
    simpa using (isName part member).nonempty
  rw [steps, Path.segments_render fun part member => (isName part member).noSlash, if_neg nonempty,
    List.filter_cons_of_neg (by simp), kept]
  simp [noSlash]

/-- Without links, a path that consists of names leads where they say. -/
theorem LinkFree.place_eq {fs : FileSystem} (free : fs.LinkFree) {names : List String}
    (isName : ∀ part ∈ names, Path.IsName part) {place : Location}
    (opens : fs.OpensAt (Path.render names) place) : place = names := by
  obtain ⟨noSlash, ⟨folder, name, located, rfl⟩ | ⟨content, located, -⟩⟩ := opens
  · have leads := (locate_eq_absent_iff.1 located).2
    rw [steps_render isName noSlash, startOf, if_pos (Path.isAbsolute_render names)] at leads
    exact Option.some.inj (free.leads_names isName leads)
  · have leads := (locate_eq_found_iff.1 located).2
    rw [steps_render isName noSlash, startOf, if_pos (Path.isAbsolute_render names)] at leads
    exact Option.some.inj (free.leads_names isName leads)

end BridgeCode.FileSystem
