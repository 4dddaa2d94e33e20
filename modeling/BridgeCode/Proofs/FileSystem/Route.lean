import BridgeCode.Proofs.FileSystem.Apart
import BridgeCode.Proofs.FileSystem.Retrace

/-!
The places along a path.

On a disk without links every beginning of a path leads where its text says (`OnTheWay`). Opening
the file of a path and creating the folders that it names change nothing but places along the path:
`ChangesAlong` says so of two states of a disk, and it is a preorder.

* `LinkFree.onTheWay_of_found`: a path that leads to something leads along itself.
* `LinkFree.makeFolders_along`, `LinkFree.openFile_along`: which places change.
-/

namespace BridgeCode.FileSystem

/-- The place of the path, or of a folder that the path names on its way, links aside. -/
def OnTheWay (fs : FileSystem) (path : String) (place : Location) : Prop :=
  ∃ front, front <+: steps path ∧ place = front.foldl Path.climb (startOf fs.cwd path)

/-- Nothing but places along the path has changed. -/
structure ChangesAlong (path : String) (fs fs' : FileSystem) : Prop where
  grows : fs.Grows fs'
  changed : ∀ place, fs'.node? place ≠ fs.node? place → fs.OnTheWay path place

namespace ChangesAlong

theorem refl (path : String) (fs : FileSystem) : ChangesAlong path fs fs :=
  ⟨.refl fs, fun _ differs => absurd rfl differs⟩

theorem trans {path : String} {fs fs' fs'' : FileSystem} (first : ChangesAlong path fs fs')
    (second : ChangesAlong path fs' fs'') : ChangesAlong path fs fs'' := by
  refine ⟨first.grows.trans second.grows, fun place differs => ?_⟩
  by_cases same : fs'.node? place = fs.node? place
  · rw [← same] at differs
    have along := second.changed place differs
    rwa [OnTheWay, first.grows.cwd] at along
  · exact first.changed place same

end ChangesAlong

/-! ## Steps -/

theorem steps_nonempty {path step : String} (member : step ∈ steps path) : step ≠ "" := by
  rcases List.mem_append.1 member with name | dot
  · have kept := (List.mem_filter.1 name).2
    simpa using kept
  · split at dot
    · cases List.mem_singleton.1 dot
      decide
    · cases dot

/-- The folder of a path is on its way. -/
theorem OnTheWay.of_dirname {fs : FileSystem} {path : String} {place : Location}
    (along : fs.OnTheWay (Path.dirname path) place) : fs.OnTheWay path place := by
  obtain ⟨front, front_of, rfl⟩ := along
  obtain ⟨absolute, same⟩ := Path.dirname_cases path
  have start : startOf fs.cwd (Path.dirname path) = startOf fs.cwd path := by
    rw [startOf, startOf, absolute]
  rw [start]
  rcases same with here | ⟨rest, below⟩
  · have dot : steps (Path.dirname path) = ["."] := by
      simp only [List.mem_cons, List.not_mem_nil, or_false] at here
      rcases here with eq | eq | eq <;> rw [eq] <;> decide
    rw [dot] at front_of
    refine ⟨[], List.nil_prefix, Path.foldl_climb_dots (fun part member => ?_) _⟩
    exact .inr (List.mem_singleton.1 (front_of.subset member))
  · have names_of : (Path.segments (Path.dirname path)).filter (!·.isEmpty) <+: steps path := by
      rw [below, steps, Path.segments_append_slash, List.filter_append, ← below, List.append_assoc]
      exact List.prefix_append _ _
    have whole : (Path.segments (Path.dirname path)).filter (!·.isEmpty) <+:
        steps (Path.dirname path) := List.prefix_append _ _
    rcases List.prefix_or_prefix_of_prefix front_of whole with short | ⟨trail, rfl⟩
    · exact ⟨front, short.trans names_of, rfl⟩
    · -- What is left over is the final dot of a path that ends in a slash.
      refine ⟨_, names_of, ?_⟩
      rw [List.foldl_append]
      refine Path.foldl_climb_dots (fun part member => .inr ?_) _
      have left := ((List.prefix_append_right_inj _).1 front_of).subset member
      split at left
      · exact List.mem_singleton.1 left
      · cases left

/-- Along an absolute path in normal form lie the beginnings of its location. -/
theorem onTheWay_render_iff {fs : FileSystem} {names : List String}
    (isName : ∀ part ∈ names, Path.IsName part)
    (noSlash : Path.endsInSlash (Path.render names) = false) {place : Location} :
    fs.OnTheWay (Path.render names) place ↔ place <+: names := by
  have climbs : ∀ {front : List String}, front <+: names → front.foldl Path.climb [] = front :=
    fun front_of => Path.foldl_climb_names
      (fun part member => isName part (front_of.subset member)) []
  rw [OnTheWay, startOf, if_pos (Path.isAbsolute_render names), steps_render isName noSlash]
  constructor
  · rintro ⟨front, front_of, rfl⟩
    rw [climbs front_of]
    exact front_of
  · intro front_of
    exact ⟨place, front_of, (climbs front_of).symm⟩

/-! ## Disks without links -/

/-- Without links, creating folders changes nothing but places along the steps. -/
theorem LinkFree.makeFoldersFrom_changed {fs : FileSystem} (free : fs.LinkFree)
    {place other : Location} {path : List String} (nonempty : ∀ step ∈ path, step ≠ "")
    (changed : (fs.makeFoldersFrom place path).1.node? other ≠ fs.node? other) :
    ∃ front, front <+: path ∧ other = front.foldl Path.climb place := by
  induction path generalizing fs place with
  | nil => exact absurd rfl changed
  | cons step rest ih =>
      obtain ⟨named, named'⟩ := List.forall_mem_cons.1 nonempty
      -- A place along the rest is one along all steps.
      have further : (∃ front, front <+: rest ∧
          other = front.foldl Path.climb (Path.climb place step)) →
            ∃ front, front <+: step :: rest ∧ other = front.foldl Path.climb place := by
        rintro ⟨front, front_of, rfl⟩
        exact ⟨step :: front, List.cons_prefix_cons.2 ⟨rfl, front_of⟩, rfl⟩
      by_cases dot : step = "."
      · subst dot
        rw [makeFoldersFrom, if_pos rfl] at changed
        exact further (ih free named' changed)
      by_cases up : step = ".."
      · subst up
        rw [makeFoldersFrom, if_neg dot, if_pos rfl] at changed
        exact further (ih free named' changed)
      by_cases long : step.utf8ByteSize > maxNameBytes
      · rw [makeFoldersFrom_long dot up long] at changed
        exact absurd rfl changed
      have name : IsEntryName step := ⟨dot, up, Nat.le_of_not_lt long⟩
      rw [name.climb_eq named] at further
      rcases entry : fs.node? (place ++ [step]) with - | (- | content | target)
      · rw [makeFoldersFrom_free name entry] at changed
        by_cases here : other = place ++ [step]
        · exact further ⟨[], List.nil_prefix, here⟩
        · have elsewhere : (fs.put (place ++ [step]) .directory).node? other = fs.node? other := by
            rw [node?_put _ _ _ _ (by simp), if_neg here]
          rw [← elsewhere] at changed
          exact further (ih (free.grows (Grows.put_folder entry)) named' changed)
      · rw [makeFoldersFrom_folder name entry] at changed
        exact further (ih free named' changed)
      · rw [makeFoldersFrom_file name entry] at changed
        exact absurd rfl changed
      · exact absurd entry (free _ _)

theorem LinkFree.makeFolders_along {fs : FileSystem} (free : fs.LinkFree) (path : String) :
    ChangesAlong path fs (fs.makeFolders path).1 := by
  refine ⟨makeFolders_grows fs path, fun place changed => ?_⟩
  unfold makeFolders at changed
  split at changed
  · exact absurd rfl changed
  · exact free.makeFoldersFrom_changed (fun step member => steps_nonempty member) changed

/-- The folders of a file are created along its path. -/
theorem LinkFree.makeFolders_dirname_along {fs : FileSystem} (free : fs.LinkFree) (path : String) :
    ChangesAlong path fs (fs.makeFolders (Path.dirname path)).1 := by
  have along := free.makeFolders_along (Path.dirname path)
  exact ⟨along.grows, fun place changed => (along.changed place changed).of_dirname⟩

/-- Without links a path leads along itself. -/
theorem LinkFree.onTheWay_of_found {fs : FileSystem} (free : fs.LinkFree) {path : String}
    {place : Location} (located : fs.locate path = .found place) : fs.OnTheWay path place := by
  have leads := (locate_eq_found_iff.1 located).2
  have arrives := free.leads_place (fun step member => steps_nonempty member) leads
  exact ⟨steps path, List.prefix_refl _, Option.some.inj arrives⟩

/-- A change at the place that a path leads to afterwards. -/
theorem LinkFree.along_of_found {fs fs' : FileSystem} (free : fs.LinkFree) {path : String}
    (grows : fs.Grows fs')
    (elsewhere : ∀ place, fs'.locate path ≠ .found place → fs'.node? place = fs.node? place) :
    ChangesAlong path fs fs' := by
  refine ⟨grows, fun place changed => ?_⟩
  by_cases located : fs'.locate path = .found place
  · have along := (free.grows grows).onTheWay_of_found located
    rwa [OnTheWay, grows.cwd] at along
  · exact absurd (elsewhere place located) changed

theorem LinkFree.openFile_along {fs fs' : FileSystem} (free : fs.LinkFree) {mode : OpenMode}
    {path : String} {place : Location} (opened : fs.openFile mode path = .ok (fs', place)) :
    ChangesAlong path fs fs' := by
  refine free.along_of_found (openFile_grows opened) fun other away => ?_
  have ne : other ≠ place := by
    rintro rfl
    exact away (Grows.locate_opened opened (.refl fs'))
  exact openFile_node?_ne opened ne

end BridgeCode.FileSystem
