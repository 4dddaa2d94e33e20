import BridgeCode.Proofs.FileSystem.Canonical
import BridgeCode.Proofs.FileSystem.Same

/-!
Doing again what was done to a disk.

A disk went through changes and was left in its last state. The same changes are now made once more,
from that last state on. `Retraces` compares the two passes at a moment when each has made the same
changes: the files that were emptied since the start have the same text in both, and everything else
is in the second pass as the first one left it at its end. Each change keeps this up as long as text
is only added to files that were emptied before:

* `Retraces.opened`, `Retraces.write`: a file is opened, and written;
* `Retraces.folders`: creating folders again changes nothing;
* `Retraces.finish`: at the end the two passes have left the same disk.
-/

namespace BridgeCode.FileSystem

/-! ## Creating folders, name by name -/

section Folders

variable {fs : FileSystem} {place : Location} {step : String} {rest : List String}

theorem makeFoldersFrom_free (name : IsEntryName step) (entry : fs.node? (place ++ [step]) = none) :
    fs.makeFoldersFrom place (step :: rest) =
      (fs.put (place ++ [step]) .directory).makeFoldersFrom (place ++ [step]) rest := by
  rw [makeFoldersFrom, if_neg name.ne_dot, if_neg name.ne_up, (Leads.missing name entry).walk_eq]
  simp [entry]

theorem makeFoldersFrom_folder (name : IsEntryName step)
    (entry : fs.node? (place ++ [step]) = some .directory) :
    fs.makeFoldersFrom place (step :: rest) = fs.makeFoldersFrom (place ++ [step]) rest := by
  rw [makeFoldersFrom, if_neg name.ne_dot, if_neg name.ne_up,
    (Leads.folder name entry .here).walk_eq]
  exact if_pos entry

theorem makeFoldersFrom_file (name : IsEntryName step) {content : String}
    (entry : fs.node? (place ++ [step]) = some (.file content)) :
    fs.makeFoldersFrom place (step :: rest) =
      (fs, some (if rest.isEmpty then .alreadyExists else .notDirectory)) := by
  rw [makeFoldersFrom, if_neg name.ne_dot, if_neg name.ne_up, (Leads.file name entry).walk_eq]
  exact if_neg (by simp [entry])

theorem makeFoldersFrom_long (ne_dot : step ≠ ".") (ne_up : step ≠ "..")
    (long : step.utf8ByteSize > maxNameBytes) :
    fs.makeFoldersFrom place (step :: rest) = (fs, some .nameTooLong) := by
  rw [makeFoldersFrom, if_neg ne_dot, if_neg ne_up, walk_cons, if_neg ne_dot, if_neg ne_up,
    if_pos long]

end Folders

/-- Creating folders again finds them all, or is refused where it was refused before. -/
theorem LinkFree.makeFoldersFrom_again {fs made later : FileSystem} (free : fs.LinkFree)
    {place : Location} {path : List String} {refused : Option OsError}
    (ran : fs.makeFoldersFrom place path = (made, refused)) (grows : made.Grows later) :
    later.makeFoldersFrom place path = (later, refused) := by
  induction path generalizing fs place with
  | nil =>
      cases ran
      rfl
  | cons step rest ih =>
      by_cases dot : step = "."
      · rw [makeFoldersFrom, if_pos dot] at ran ⊢
        exact ih free ran
      by_cases up : step = ".."
      · rw [makeFoldersFrom, if_neg dot, if_pos up] at ran ⊢
        exact ih free ran
      by_cases long : step.utf8ByteSize > maxNameBytes
      · rw [makeFoldersFrom_long dot up long] at ran ⊢
        cases ran
        rfl
      have name : IsEntryName step := ⟨dot, up, Nat.le_of_not_lt long⟩
      rcases entry : fs.node? (place ++ [step]) with - | (- | content | target)
      · -- The folder that is created here is there later.
        rw [makeFoldersFrom_free name entry] at ran
        have grown := makeFoldersFrom_grows (fs.put (place ++ [step]) .directory)
          (place ++ [step]) rest
        rw [ran] at grown
        have created : (fs.put (place ++ [step]) .directory).node? (place ++ [step]) =
            some .directory := by
          rw [node?_put _ _ _ _ (by simp), if_pos rfl]
        rw [makeFoldersFrom_folder name (grows.folder (grown.folder created))]
        exact ih (free.grows (Grows.put_folder entry)) ran
      · rw [makeFoldersFrom_folder name entry] at ran
        have grown := makeFoldersFrom_grows fs (place ++ [step]) rest
        rw [ran] at grown
        rw [makeFoldersFrom_folder name (grows.folder (grown.folder entry))]
        exact ih free ran
      · rw [makeFoldersFrom_file name entry] at ran
        cases ran
        obtain ⟨_, standing⟩ := grows.file entry
        exact makeFoldersFrom_file name standing
      · exact absurd entry (free _ _)

theorem LinkFree.makeFolders_again {fs made later : FileSystem} (free : fs.LinkFree)
    {path : String} {refused : Option OsError} (ran : fs.makeFolders path = (made, refused))
    (grows : made.Grows later) : later.makeFolders path = (later, refused) := by
  have grown := makeFolders_grows fs path
  rw [ran] at grown
  unfold makeFolders at ran ⊢
  rw [grows.cwd, grown.cwd]
  split at ran
  · next empty =>
      cases ran
      rw [if_pos empty]
  · next nonempty =>
      rw [if_neg nonempty]
      exact free.makeFoldersFrom_again ran grows

/-- A path that leads to a folder leads to it later. -/
theorem Grows.isDirectory {fs fs' : FileSystem} (grows : fs.Grows fs') {path : String}
    (isFolder : fs.isDirectory path = true) : fs'.isDirectory path = true := by
  unfold FileSystem.isDirectory at isFolder ⊢
  cases located : fs.locate path with
  | found place =>
      rw [located] at isFolder
      have standing := grows.folder (beq_iff_eq.1 isFolder)
      rw [grows.locate_found located]
      exact beq_iff_eq.2 standing
  | absent folder name =>
      rw [located] at isFolder
      cases isFolder
  | failed error =>
      rw [located] at isFolder
      cases isFolder

/-! ## Two passes -/

/-- A first pass has come to `fs`, on its way to `last`, and a second one from `last` to `again`.
The files to which the paths `made` lead were emptied in both passes. -/
structure Retraces (made : List String) (last fs again : FileSystem) : Prop where
  grows : fs.Grows last
  alike : last.Alike again
  there : ∀ path ∈ made, fs.LeadsToFile path
  same : ∀ path ∈ made, ∀ place, fs.locate path = .found place →
    again.node? place = fs.node? place
  untouched : ∀ place, (∀ path ∈ made, fs.locate path ≠ .found place) →
    again.node? place = last.node? place

namespace Retraces

variable {made : List String} {last fs again : FileSystem}

theorem start (grows : fs.Grows last) : Retraces [] last fs last :=
  ⟨grows, .refl last, nofun, nofun, fun _ _ => rfl⟩

/-- At the end of both passes the disk is the same. -/
theorem finish (retraces : Retraces made last last again) : last.Same again := by
  refine ⟨retraces.alike.1.cwd, fun place => ?_⟩
  by_cases written : ∃ path ∈ made, last.locate path = .found place
  · obtain ⟨path, member, located⟩ := written
    exact retraces.same path member place located
  · refine retraces.untouched place fun path member located => ?_
    exact written ⟨path, member, located⟩

theorem linkFree (retraces : Retraces made last fs again) (free : fs.LinkFree) : again.LinkFree :=
  free.grows (retraces.grows.trans retraces.alike.1)

/-- A path that is named twice counts once. -/
theorem cons_iff {path : String} (member : path ∈ made) :
    Retraces (path :: made) last fs again ↔ Retraces made last fs again := by
  have among : ∀ other, other ∈ path :: made ↔ other ∈ made := by
    intro other
    refine ⟨fun named => ?_, List.mem_cons_of_mem _⟩
    rcases List.mem_cons.1 named with rfl | named
    · exact member
    · exact named
  constructor
  · rintro ⟨grows, alike, there, same, untouched⟩
    simp only [among] at there same untouched
    exact ⟨grows, alike, there, same, untouched⟩
  · rintro ⟨grows, alike, there, same, untouched⟩
    simp only [← among] at there same untouched
    exact ⟨grows, alike, there, same, untouched⟩

/-- Folders are found where they were created. -/
theorem folders (retraces : Retraces made last fs again) (free : fs.LinkFree) {path : String}
    {fs' : FileSystem} {refused : Option OsError} (ran : fs.makeFolders path = (fs', refused))
    (grows : fs'.Grows last) :
    again.makeFolders path = (again, refused) ∧ Retraces made last fs' again := by
  have grown := makeFolders_grows fs path
  rw [ran] at grown
  refine ⟨free.makeFolders_again ran (grows.trans retraces.alike.1), grows, retraces.alike, ?_, ?_,
    ?_⟩
  · exact fun other member => (retraces.there other member).grows grown
  · intro other member place located
    obtain ⟨-, place', content, located', standing⟩ := retraces.there other member
    cases (grown.locate_found located').symm.trans located
    have kept := makeFolders_node? standing path
    rw [ran] at kept
    rw [retraces.same other member _ located', standing, kept]
  · intro place spared
    refine retraces.untouched place fun other member located => ?_
    exact spared other member (grown.locate_found located)

/-- The text of a file once it is open is the same in both passes, if text is only added to files
that were emptied. -/
theorem opened_text (retraces : Retraces made last fs again) {mode : OpenMode} {path : String}
    (founded : mode = .append → path ∈ made) {opened : FileSystem} {place : Location}
    (ran : fs.openFile mode path = .ok (opened, place)) :
    ∃ content, opened.node? place = some (.file content) ∧
      (again.withOpened place mode).node? place = some (.file content) := by
  have below := openFile_below ran
  cases mode with
  | truncate =>
      exact ⟨"", openFile_truncated ran, (node?_put _ _ _ _ below).trans (if_pos rfl)⟩
  | append =>
      obtain ⟨-, place', content, located, standing⟩ := retraces.there path (founded rfl)
      rcases (openFile_ok ran).2 with ⟨_, _, absent, -, -⟩ | ⟨_, found, -, rfl⟩
      · rw [located] at absent
        cases absent
      · cases located.symm.trans found
        exact ⟨content, standing, (retraces.same path (founded rfl) _ located).trans standing⟩

/-- A change at one place, which a path leads to, that gives it the same node in both passes. -/
theorem change (retraces : Retraces made last fs again) {fs' again' : FileSystem} {path : String}
    {place : Location} (grown : fs.Grows fs') (grows : fs'.Grows last) (alike : again.Alike again')
    (leads : fs'.LeadsToFile path) (located : fs'.locate path = .found place)
    (here : again'.node? place = fs'.node? place)
    (elsewhere : ∀ other, other ≠ place →
      fs'.node? other = fs.node? other ∧ again'.node? other = again.node? other) :
    Retraces (path :: made) last fs' again' := by
  refine ⟨grows, retraces.alike.trans alike, ?_, ?_, ?_⟩
  · intro other member
    rcases List.mem_cons.1 member with rfl | member
    · exact leads
    · exact (retraces.there other member).grows grown
  · intro other member reached arrives
    by_cases same : reached = place
    · rw [same]
      exact here
    · rcases List.mem_cons.1 member with rfl | member
      · cases located.symm.trans arrives
        exact absurd rfl same
      · obtain ⟨-, _, _, before, -⟩ := retraces.there other member
        cases (grown.locate_found before).symm.trans arrives
        rw [(elsewhere _ same).1, (elsewhere _ same).2]
        exact retraces.same other member _ before
  · intro other spared
    have away : other ≠ place := by
      rintro rfl
      exact spared path List.mem_cons_self located
    rw [(elsewhere other away).2]
    refine retraces.untouched other fun path' member before => ?_
    exact spared path' (List.mem_cons_of_mem _ member) (grown.locate_found before)

/-- A file that was opened can be opened again, and has the same text then. -/
theorem opened (retraces : Retraces made last fs again) {mode : OpenMode} {path : String}
    (founded : mode = .append → path ∈ made) {fs' : FileSystem} {place : Location}
    (ran : fs.openFile mode path = .ok (fs', place)) (grows : fs'.Grows last) :
    again.openFile mode path = .ok (again.withOpened place mode, place) ∧
      Retraces (path :: made) last fs' (again.withOpened place mode) := by
  have located := Grows.locate_opened ran (Grows.refl fs')
  -- The file is where the first pass left it.
  obtain ⟨_, standing⟩ := openFile_isFile ran
  obtain ⟨_, standing⟩ := grows.file standing
  obtain ⟨_, standing⟩ := retraces.alike.1.file standing
  have found := retraces.alike.1.locate_found (grows.locate_found located)
  obtain ⟨content, first, second⟩ := retraces.opened_text founded ran
  refine ⟨openFile_of_found (openFile_ok ran).1 found standing mode,
    retraces.change (openFile_grows ran) grows (withOpened_alike standing mode)
      (openFile_leadsToFile ran) located (second.trans first.symm) fun other ne => ?_⟩
  refine ⟨openFile_node?_ne ran ne, ?_⟩
  cases mode with
  | truncate => exact (node?_put _ _ _ _ (openFile_below ran)).trans (if_neg ne)
  | append => rfl

/-- Text is added to a file that both passes have emptied. -/
theorem appendAt (retraces : Retraces made last fs again) {path : String} {place : Location}
    (member : path ∈ made) (located : fs.locate path = .found place) {text : String}
    (grows : (fs.appendAt place text).Grows last) :
    Retraces made last (fs.appendAt place text) (again.appendAt place text) := by
  have grown := appendAt_grows fs place text
  have leads := retraces.there path member
  have same := retraces.same path member place located
  refine (cons_iff member).1 (retraces.change grown grows (appendAt_alike again place text)
    (leads.grows grown) (grown.locate_found located) ?_ fun other ne => ?_)
  · rw [node?_appendAt, node?_appendAt, same]
  · rw [node?_appendAt, node?_appendAt, same]
    rcases fs.node? place with - | (- | content | target)
    · exact ⟨rfl, rfl⟩
    · exact ⟨rfl, rfl⟩
    · exact ⟨if_neg ne, if_neg ne⟩
    · exact ⟨rfl, rfl⟩

/-- A file that is opened and written has the same text in both passes. -/
theorem write (retraces : Retraces made last fs again) {mode : OpenMode} {path : String}
    (founded : mode = .append → path ∈ made) {fs' : FileSystem} {place : Location}
    (ran : fs.openFile mode path = .ok (fs', place)) {text : String}
    (grows : (fs'.appendAt place text).Grows last) :
    again.openFile mode path = .ok (again.withOpened place mode, place) ∧
      Retraces (path :: made) last (fs'.appendAt place text)
        ((again.withOpened place mode).appendAt place text) := by
  have opens := retraces.opened founded ran ((appendAt_grows fs' place text).trans grows)
  have located := Grows.locate_opened ran (Grows.refl fs')
  exact ⟨opens.1, opens.2.appendAt List.mem_cons_self located grows⟩

end Retraces

end BridgeCode.FileSystem
