import BridgeCode.Proofs.FileSystem.Growth
import BridgeCode.Proofs.Path
import Mathlib.Data.List.Induction

/-!
Canonical paths and real locations.

The canonical path of a file is computed before the file is opened. It names the location that is
opened (`canonicalSegments_of_opened`) and does not change as the disk grows
(`Grows.canonicalSegments_eq`), unless a link stands on the part of the path that does not exist
yet: `Dangles` says so, and it is the only exception. On a disk without links nothing dangles, and
a joined path below an absolute folder is its own canonical path (`LinkFree.canonicalPath_join`).
-/

namespace BridgeCode.FileSystem

/-- The current folder is a folder of the disk. -/
structure HasCwd (fs : FileSystem) : Prop where
  names : ∀ part ∈ fs.cwd, Path.IsName part
  stands : fs.Stands fs.cwd

theorem Stands.grows {fs fs' : FileSystem} {place : Location} (stands : fs.Stands place)
    (grows : fs.Grows fs') : fs'.Stands place :=
  fun front name back eq =>
    ⟨(stands front name back eq).1, grows.folder (stands front name back eq).2⟩

theorem Stands.dropLast {fs : FileSystem} {place : Location} (stands : fs.Stands place) :
    fs.Stands place.dropLast := by
  intro front name back eq
  rcases List.eq_nil_or_concat place with rfl | ⟨init, last, rfl⟩
  · simp at eq
  · rw [List.concat_eq_append, List.dropLast_concat] at eq
    subst eq
    exact stands front name (back ++ [last]) (by simp)

theorem stands_root (fs : FileSystem) : fs.Stands [] := fun front name back eq => by simp at eq

theorem Stands.startOf {fs : FileSystem} {place : Location} (stands : fs.Stands place)
    (path : String) : fs.Stands (startOf place path) := by
  unfold FileSystem.startOf
  split
  · exact fs.stands_root
  · exact stands

theorem HasCwd.grows {fs fs' : FileSystem} (cwd : fs.HasCwd) (grows : fs.Grows fs') :
    fs'.HasCwd := by
  obtain ⟨names, stands⟩ := cwd
  rw [← grows.cwd] at names stands
  exact ⟨names, stands.grows grows⟩

/-- The names that a path resolves to, from the root on. -/
def resolved (fs : FileSystem) (path : String) : List String :=
  Path.resolveSegments fs.cwdPath [path]

theorem isName_resolved (fs : FileSystem) (path : String) :
    ∀ part ∈ fs.resolved path, Path.IsName part :=
  Path.isName_resolveSegments fs.cwdPath path

theorem Grows.resolved_eq {fs fs' : FileSystem} (grows : fs.Grows fs') (path : String) :
    fs'.resolved path = fs.resolved path := by
  rw [resolved, resolved, cwdPath, cwdPath, grows.cwd]

/-! ## A path is walked as it is resolved -/

theorem leads_dot_iff {fs : FileSystem} {links : Nat} {place : Location} {rest : List String}
    {result : Walk} :
    fs.Leads links place ("." :: rest) result ↔ fs.Leads links place rest result := by
  refine ⟨fun leads => ?_, .dot⟩
  generalize dotted : "." :: rest = path at leads
  cases leads with
  | here => cases dotted
  | dot walk =>
      injection dotted with _ same
      rw [same]
      exact walk
  | up => exact absurd (List.cons.inj dotted).1 (by decide)
  | folder name => exact absurd (List.cons.inj dotted).1.symm name.ne_dot
  | file name => exact absurd (List.cons.inj dotted).1.symm name.ne_dot
  | missing name => exact absurd (List.cons.inj dotted).1.symm name.ne_dot
  | link name => exact absurd (List.cons.inj dotted).1.symm name.ne_dot

theorem leads_up_iff {fs : FileSystem} {links : Nat} {place : Location} {rest : List String}
    {result : Walk} :
    fs.Leads links place (".." :: rest) result ↔ fs.Leads links place.dropLast rest result := by
  refine ⟨fun leads => ?_, .up⟩
  generalize dotted : ".." :: rest = path at leads
  cases leads with
  | here => cases dotted
  | dot => exact absurd (List.cons.inj dotted).1 (by decide)
  | up walk =>
      injection dotted with _ same
      rw [same]
      exact walk
  | folder name => exact absurd (List.cons.inj dotted).1.symm name.ne_up
  | file name => exact absurd (List.cons.inj dotted).1.symm name.ne_up
  | missing name => exact absurd (List.cons.inj dotted).1.symm name.ne_up
  | link name => exact absurd (List.cons.inj dotted).1.symm name.ne_up

/-- A walk along one name ends under it, unless a link stands there. -/
theorem Leads.of_name {fs : FileSystem} {links : Nat} {place : Location} {name : String}
    {result : Walk} (leads : fs.Leads links place [name] result) (isName : Path.IsName name) :
    result.place? = some (place ++ [name]) ∨
      ∃ target, fs.node? (place ++ [name]) = some (.link target) := by
  generalize single : [name] = path at leads
  cases leads with
  | here => cases single
  | dot => exact absurd (List.cons.inj single).1 isName.ne_dot
  | up => exact absurd (List.cons.inj single).1 isName.ne_up
  | folder _ _ walk =>
      obtain ⟨rfl, rfl⟩ := List.cons.inj single
      cases walk
      exact .inl rfl
  | file =>
      obtain ⟨rfl, -⟩ := List.cons.inj single
      exact .inl rfl
  | missing =>
      obtain ⟨rfl, -⟩ := List.cons.inj single
      exact .inl rfl
  | link _ entry =>
      obtain ⟨rfl, rfl⟩ := List.cons.inj single
      exact .inr ⟨_, entry⟩

/-- Where steps up come first, a walk from a folder meets the names that climbing gives. -/
theorem leads_climb_iff {fs : FileSystem} {links : Nat} {parts : List String} {result : Walk}
    (order : Path.UpsFirst parts) {base : Location} (stands : fs.Stands base) :
    fs.Leads links base (parts.filter (!·.isEmpty)) result ↔
      fs.Leads links [] (parts.foldl Path.climb base) result := by
  induction order generalizing base with
  | @names parts isName =>
      have kept : parts.filter (!·.isEmpty) = parts := by
        refine List.filter_eq_self.2 fun part member => ?_
        simpa using (isName part member).nonempty
      rw [kept, Path.foldl_climb_names isName]
      exact (@leads_append_iff_of_stands fs links base [] parts result stands).symm
  | @skip part parts skipped _ ih =>
      rw [List.foldl_cons, Path.climb, if_pos skipped]
      rcases skipped with rfl | rfl
      · exact ih stands
      · rw [← ih stands]
        exact leads_dot_iff
  | up _ ih =>
      rw [List.foldl_cons, Path.climb, if_neg (by decide), if_pos rfl, ← ih stands.dropLast]
      exact leads_up_iff

/-- Following a path as it is spelled and following the names it resolves to are the same. -/
theorem leads_resolved_iff {fs : FileSystem} (cwd : fs.HasCwd) {path : String}
    (noSlash : Path.endsInSlash path = false) (order : Path.UpsFirst (Path.segments path))
    {result : Walk} :
    fs.Leads maxLinks (startOf fs.cwd path) (steps path) result ↔
      fs.Leads maxLinks [] (fs.resolved path) result := by
  have start : fs.Stands (startOf fs.cwd path) := cwd.stands.startOf path
  have spelled : steps path = (Path.segments path).filter (!·.isEmpty) := by
    simp [steps, noSlash]
  rw [spelled, leads_climb_iff order start, resolved, cwdPath, Path.resolveSegments_eq cwd.names]
  rfl

/-! ## The part of a path that exists -/

/-- Of the names of a path, `front` leads to `place`, and not one name more leads anywhere. -/
structure Splits (fs : FileSystem) (names front back : List String) (place : Location) :
    Prop where
  eq : names = front ++ back
  found : fs.Leads maxLinks [] front (.found place)
  missing : ∀ name rest, back = name :: rest →
    ∀ reached, ¬ fs.Leads maxLinks [] (front ++ [name]) (.found reached)

theorem exists_splits (fs : FileSystem) (names : List String) :
    ∃ front back place, fs.Splits names front back place := by
  -- Names are taken off the end, as the search for what exists does.
  induction names using List.reverseRecOn with
  | nil => exact ⟨[], [], [], rfl, .here, nofun⟩
  | append_singleton outer last ih =>
      by_cases found : ∃ reached, fs.Leads maxLinks [] (outer ++ [last]) (.found reached)
      · obtain ⟨reached, leads⟩ := found
        exact ⟨outer ++ [last], [], reached, (List.append_nil _).symm, leads, nofun⟩
      · obtain ⟨front, back, place, splits⟩ := ih
        refine ⟨front, back ++ [last], place, ?_, splits.found, fun name rest eq => ?_⟩
        · rw [splits.eq, List.append_assoc]
        · cases back with
          | nil =>
              injection eq with same
              subst same
              rw [← List.append_nil front, ← splits.eq]
              exact fun reached leads => found ⟨reached, leads⟩
          | cons next back =>
              injection eq with same
              subst same
              exact splits.missing next back rfl

/-- No longer part of the path exists. -/
theorem Splits.not_found {fs : FileSystem} {names front back : List String} {place : Location}
    (splits : fs.Splits names front back place) {more less : List String} (nonempty : more ≠ [])
    (eq : back = more ++ less) (reached : Location) :
    ¬ fs.Leads maxLinks [] (front ++ more) (.found reached) := by
  intro leads
  cases more with
  | nil => exact nonempty rfl
  | cons name more =>
      have first : ∃ middle, fs.Leads maxLinks [] (front ++ [name]) (.found middle) := by
        rw [← List.singleton_append, ← List.append_assoc] at leads
        cases more with
        | nil => exact ⟨reached, by simpa using leads⟩
        | cons next more =>
            obtain ⟨_, middle, -, front, -⟩ := leads.unappend (by simp)
            exact ⟨middle, front⟩
      obtain ⟨middle, leads⟩ := first
      exact splits.missing name (more ++ less) eq middle leads

/-- The search from the end of the path stops where the path splits. -/
theorem Splits.canonicalFrom_eq {fs : FileSystem} {names front back : List String}
    {place : Location} (splits : fs.Splits names front back place) (more less : List String)
    (eq : back = more ++ less) :
    fs.canonicalFrom (front ++ more).reverse less = place ++ back := by
  induction more using List.reverseRecOn generalizing less with
  | nil =>
      rw [List.append_nil]
      have walked := splits.found.walk_eq
      rcases List.eq_nil_or_concat front with rfl | ⟨init, last, rfl⟩
      · rw [walk_nil] at walked
        cases walked
        exact eq.symm
      · rw [List.concat_eq_append] at walked ⊢
        rw [List.reverse_append, List.reverse_singleton, List.singleton_append, canonicalFrom]
        have names : (last :: init.reverse).reverse = init ++ [last] := by simp
        rw [names, walked, eq]
        rfl
  | append_singleton outer last ih =>
      rw [← List.append_assoc, List.reverse_append, List.reverse_singleton, List.singleton_append,
        canonicalFrom]
      have names : (last :: (front ++ outer).reverse).reverse = front ++ (outer ++ [last]) := by
        simp
      rw [names]
      split
      · next reached found =>
          exact absurd (walk_eq_found_iff.1 found) (splits.not_found (by simp) eq reached)
      · exact ih (last :: less) (by simpa using eq)

theorem Splits.canonicalSegments_eq {fs : FileSystem} {path : String} {front back : List String}
    {place : Location} (splits : fs.Splits (fs.resolved path) front back place) :
    fs.canonicalSegments path = place ++ back := by
  have computed := splits.canonicalFrom_eq back [] (List.append_nil _).symm
  rw [← splits.eq] at computed
  exact computed

/-! ## Links in the part that does not exist -/

/-- A link stands on the part of the path that does not exist. The link leads nowhere yet, and the
canonical path has its name; once something is there, the path goes on where the link leads. -/
def Dangles (fs : FileSystem) (path : String) : Prop :=
  ∃ front back place more name less target,
    fs.Splits (fs.resolved path) front back place ∧ back = more ++ name :: less ∧
      fs.node? (place ++ more ++ [name]) = some (.link target)

/-- The canonical path of what exists is its location. -/
theorem canonicalSegments_of_found {fs : FileSystem} (cwd : fs.HasCwd) {path : String}
    (noSlash : Path.endsInSlash path = false) (order : Path.UpsFirst (Path.segments path))
    {place : Location} (located : fs.locate path = .found place) :
    fs.canonicalSegments path = place := by
  have walked := walk_eq_found_iff.1 (locate_eq_walk located nofun).2
  have splits : fs.Splits (fs.resolved path) (fs.resolved path) [] place :=
    ⟨(List.append_nil _).symm, (leads_resolved_iff cwd noSlash order).1 walked, nofun⟩
  rw [splits.canonicalSegments_eq, List.append_nil]

/-- The canonical path of a file that is opened is its location, unless a link dangles. -/
theorem canonicalSegments_of_opened {fs fs' : FileSystem} (cwd : fs.HasCwd) {path : String}
    (order : Path.UpsFirst (Path.segments path)) {mode : OpenMode} {place : Location}
    (opened : fs.openFile mode path = .ok (fs', place)) (settled : ¬ fs.Dangles path) :
    fs.canonicalSegments path = place := by
  obtain ⟨noSlash, cases⟩ := openFile_ok opened
  rcases cases with ⟨folder, name, located, rfl, -⟩ | ⟨_, located, -, -⟩
  · have walked := (leads_resolved_iff cwd noSlash order).1
      (walk_eq_absent_iff.1 (locate_eq_walk located nofun).2)
    have isName := fs.isName_resolved path
    rcases List.eq_nil_or_concat (fs.resolved path) with empty | ⟨init, last, eq⟩
    · rw [empty] at walked
      cases walked
    rw [List.concat_eq_append] at eq
    have lastName := isName last (by simp [eq])
    have unfound : ∀ reached, ¬ fs.Leads maxLinks [] (init ++ [last]) (.found reached) := by
      intro reached leads
      rw [← eq] at leads
      cases walked.walk_eq.symm.trans leads.walk_eq
    rw [eq] at walked
    obtain ⟨_, middle, -, front, back⟩ := walked.unappend (by simp)
    have splits : fs.Splits (fs.resolved path) init [last] middle :=
      ⟨eq, front, fun name rest same => by cases same; exact unfound⟩
    -- The last name is free, or it is a link to the free name.
    rw [splits.canonicalSegments_eq]
    rcases back.of_name lastName with reached | ⟨target, entry⟩
    · exact (Option.some.inj reached).symm
    · exact absurd ⟨init, [last], middle, [], last, [], target, splits, rfl, by simpa using entry⟩
        settled
  · exact canonicalSegments_of_found cwd noSlash order located

/-- Where no link dangles, what exists later of the missing part is where its names say. -/
theorem Splits.reached_eq {fs fs' : FileSystem} (grows : fs.Grows fs') {path : String}
    {front back : List String} {place : Location}
    (splits : fs.Splits (fs.resolved path) front back place) (settled : ¬ fs.Dangles path)
    {more less : List String} (eq : back = more ++ less) {reached : Location}
    (leads : fs'.Leads maxLinks [] (front ++ more) (.found reached)) :
    reached = place ++ more := by
  induction more using List.reverseRecOn generalizing less reached with
  | nil =>
      rw [List.append_nil] at leads ⊢
      have same := (grows.leads_found splits.found).walk_eq.symm.trans leads.walk_eq
      cases same
      rfl
  | append_singleton outer last ih =>
      have lastName : Path.IsName last := fs.isName_resolved path last (by simp [splits.eq, eq])
      rw [← List.append_assoc] at leads
      obtain ⟨_, middle, -, outerLeads, step⟩ := leads.unappend (by simp)
      have split : back = outer ++ last :: less := by simpa using eq
      obtain rfl := ih split outerLeads
      rcases step.of_name lastName with here | ⟨target, entry⟩
      · rw [← List.append_assoc]
        exact Option.some.inj here
      · -- No link is new, so this one stood there before.
        have before := (grows.link _ _).1 entry
        exact absurd ⟨front, back, place, outer, last, less, target, splits, split, before⟩ settled

/-- The canonical path stays the same as the disk grows, unless a link dangles. -/
theorem Grows.canonicalSegments_eq {fs fs' : FileSystem} (grows : fs.Grows fs') {path : String}
    (settled : ¬ fs.Dangles path) :
    fs'.canonicalSegments path = fs.canonicalSegments path := by
  obtain ⟨front, back, place, splits⟩ := fs.exists_splits (fs.resolved path)
  obtain ⟨front', back', place', splits'⟩ := fs'.exists_splits (fs'.resolved path)
  have whole : front ++ back = front' ++ back' := by
    rw [← splits.eq, ← splits'.eq, grows.resolved_eq]
  rw [splits.canonicalSegments_eq, splits'.canonicalSegments_eq]
  -- What existed before exists later, so the path splits no earlier than before.
  rcases List.append_eq_append_iff.1 whole with ⟨more, rfl, rfl⟩ | ⟨more, rfl, rfl⟩
  · rw [splits.reached_eq grows settled rfl splits'.found, List.append_assoc]
  · cases more with
    | nil =>
        rw [List.append_nil] at splits
        have same := (grows.leads_found splits.found).walk_eq.symm.trans splits'.found.walk_eq
        cases same
        rfl
    | cons name more =>
        exact absurd (grows.leads_found splits.found) (splits'.not_found (by simp) rfl place)

/-! ## Disks that differ in texts only -/

/-- The same things stand at the same places. -/
def Alike (fs fs' : FileSystem) : Prop := fs.Grows fs' ∧ fs'.Grows fs

theorem Alike.refl (fs : FileSystem) : fs.Alike fs := ⟨.refl fs, .refl fs⟩

theorem Alike.symm {fs fs' : FileSystem} (alike : fs.Alike fs') : fs'.Alike fs :=
  ⟨alike.2, alike.1⟩

theorem Alike.trans {fs fs' fs'' : FileSystem} (first : fs.Alike fs') (second : fs'.Alike fs'') :
    fs.Alike fs'' :=
  ⟨first.1.trans second.1, second.2.trans first.2⟩

theorem Alike.splits {fs fs' : FileSystem} (alike : fs.Alike fs') {names front back : List String}
    {place : Location} (splits : fs.Splits names front back place) :
    fs'.Splits names front back place :=
  ⟨splits.eq, alike.1.leads_found splits.found, fun name rest eq reached leads =>
    splits.missing name rest eq reached (alike.2.leads_found leads)⟩

theorem Alike.canonicalSegments_eq {fs fs' : FileSystem} (alike : fs.Alike fs') (path : String) :
    fs'.canonicalSegments path = fs.canonicalSegments path := by
  obtain ⟨front, back, place, splits⟩ := fs.exists_splits (fs.resolved path)
  have splits' := alike.splits splits
  rw [← alike.1.resolved_eq path] at splits'
  rw [splits.canonicalSegments_eq, splits'.canonicalSegments_eq]

theorem Alike.canonicalPath_eq {fs fs' : FileSystem} (alike : fs.Alike fs') (path : String) :
    fs'.canonicalPath path = fs.canonicalPath path := by
  rw [canonicalPath, canonicalPath, alike.canonicalSegments_eq]

theorem Alike.dangles {fs fs' : FileSystem} (alike : fs.Alike fs') {path : String}
    (dangles : fs.Dangles path) : fs'.Dangles path := by
  obtain ⟨front, back, place, more, name, less, target, splits, eq, entry⟩ := dangles
  have splits' := alike.splits splits
  rw [← alike.1.resolved_eq path] at splits'
  exact ⟨front, back, place, more, name, less, target, splits', eq, (alike.1.link _ _).2 entry⟩

/-- Another text in a file changes no more than that text. -/
theorem put_file_alike {fs : FileSystem} {place : Location} {old : String}
    (standing : fs.node? place = some (.file old)) (content : String) :
    fs.Alike (fs.put place (.file content)) := by
  have below : place ≠ [] := by
    rintro rfl
    cases standing
  refine ⟨Grows.put_file fun node other => ⟨old, ?_⟩, rfl, fun {other} entry => ?_,
    fun {other text} entry => ?_, fun other target => ?_⟩
  · rw [standing] at other
    exact (Option.some.inj other).symm
  · rw [node?_put _ _ _ _ below] at entry
    split at entry
    · cases entry
    · exact entry
  · rw [node?_put _ _ _ _ below] at entry
    split at entry
    · next same => exact ⟨old, same ▸ standing⟩
    · exact ⟨text, entry⟩
  · rw [node?_put _ _ _ _ below]
    split
    · next same =>
        subst same
        simp [standing]
    · exact Iff.rfl

theorem appendAt_alike (fs : FileSystem) (place : Location) (text : String) :
    fs.Alike (fs.appendAt place text) := by
  unfold appendAt
  split
  · next content entry => exact put_file_alike entry _
  · exact .refl fs

/-- Opening a file that is there changes no more than its text. -/
theorem withOpened_alike {fs : FileSystem} {place : Location} {content : String}
    (standing : fs.node? place = some (.file content)) (mode : OpenMode) :
    fs.Alike (fs.withOpened place mode) := by
  cases mode with
  | truncate => exact put_file_alike standing ""
  | append => exact .refl fs

/-! ## Disks without links -/

/-- There are no links. -/
def LinkFree (fs : FileSystem) : Prop := ∀ place target, fs.node? place ≠ some (.link target)

theorem LinkFree.grows {fs fs' : FileSystem} (free : fs.LinkFree) (grows : fs.Grows fs') :
    fs'.LinkFree :=
  fun place target entry => free place target ((grows.link place target).1 entry)

theorem LinkFree.not_dangles {fs : FileSystem} (free : fs.LinkFree) (path : String) :
    ¬ fs.Dangles path := by
  rintro ⟨_, _, _, _, _, _, target, -, -, entry⟩
  exact free _ target entry

theorem IsEntryName.climb_eq {step : String} (name : IsEntryName step) (nonempty : step ≠ "")
    (place : Location) : Path.climb place step = place ++ [step] := by
  simp [Path.climb, nonempty, name.ne_dot, name.ne_up]

/-- Without links, a walk arrives where the steps say. -/
theorem LinkFree.leads_place {fs : FileSystem} (free : fs.LinkFree) {links : Nat}
    {place : Location} {path : List String} {result : Walk}
    (nonempty : ∀ step ∈ path, step ≠ "") (leads : fs.Leads links place path result) :
    result.place? = some (path.foldl Path.climb place) := by
  induction leads with
  | here => rfl
  | dot _ ih => exact ih fun step member => nonempty step (List.mem_cons_of_mem _ member)
  | up _ ih => exact ih fun step member => nonempty step (List.mem_cons_of_mem _ member)
  | folder name _ _ ih =>
      rw [ih fun step member => nonempty step (List.mem_cons_of_mem _ member), List.foldl_cons,
        name.climb_eq (nonempty _ List.mem_cons_self)]
  | file name =>
      rw [List.foldl_cons, name.climb_eq (nonempty _ List.mem_cons_self)]
      rfl
  | missing name =>
      rw [List.foldl_cons, name.climb_eq (nonempty _ List.mem_cons_self)]
      rfl
  | link _ entry => exact absurd entry (free _ _)

/-- Without links, names lead where they say. -/
theorem LinkFree.leads_names {fs : FileSystem} (free : fs.LinkFree) {links : Nat}
    {outer : Location} {names : List String} {result : Walk}
    (isName : ∀ part ∈ names, Path.IsName part) (leads : fs.Leads links outer names result) :
    result.place? = some (outer ++ names) := by
  rw [free.leads_place (fun part member => (isName part member).nonempty) leads,
    Path.foldl_climb_names isName]

/-- Without links, the canonical path consists of the names that the path resolves to. -/
theorem LinkFree.canonicalSegments_eq {fs : FileSystem} (free : fs.LinkFree) (path : String) :
    fs.canonicalSegments path = fs.resolved path := by
  obtain ⟨front, back, place, splits⟩ := fs.exists_splits (fs.resolved path)
  have frontNames : ∀ part ∈ front, Path.IsName part := fun part member =>
    fs.isName_resolved path part (by simp [splits.eq, member])
  have reached := Option.some.inj (free.leads_names frontNames splits.found)
  rw [splits.canonicalSegments_eq, reached, List.nil_append, ← splits.eq]

/-- Without links, the canonical path of an absolute path is a matter of its text alone. -/
theorem LinkFree.canonicalPath_absolute {fs : FileSystem} (free : fs.LinkFree) {path : String}
    (absolute : Path.isAbsolute path = true) :
    fs.canonicalPath path = Path.render (Path.location path) := by
  have resolves : fs.resolved path = Path.location path :=
    Path.resolveSegments_absolute fs.cwdPath absolute
  rw [canonicalPath, free.canonicalSegments_eq, resolves]

/-- Without links, a path below an absolute folder is its own canonical path. -/
theorem LinkFree.canonicalPath_join {fs : FileSystem} (free : fs.LinkFree) {folder name : String}
    (absolute : Path.isAbsolute folder = true)
    (noSlash : Path.endsInSlash (Path.join [folder, name]) = false) :
    fs.canonicalPath (Path.join [folder, name]) = Path.join [folder, name] := by
  obtain ⟨names, isName, rendered⟩ := Path.join_absolute absolute noSlash
  rw [rendered, free.canonicalPath_absolute (Path.isAbsolute_render names),
    Path.location_render isName]

end BridgeCode.FileSystem
