import BridgeCode.Proofs.FileSystem.Real
import BridgeCode.Proofs.Path.Names

/-!
Canonical paths as normal forms.

The canonical path of a file is found by a search that goes up from the file to the first folder or
file that exists (`Search`). The search always ends, and what it finds decides the canonical path,
which is an absolute path in normal form. Its own canonical path is itself, with one exception: a
walk follows no more than `maxLinks` links, so the search can pass by a name that is there
(`Overlooks`).
-/

namespace BridgeCode.FileSystem

variable {fs : FileSystem} {path : String}

/-- The path of names leads where the names lead from the root. -/
theorem locate_render (fs : FileSystem) {names : List String}
    (isName : ∀ part ∈ names, Path.IsName part) :
    fs.locate (Path.render names) = fs.walk maxLinks [] names := by
  have nonempty : (Path.render names).isEmpty = false := by
    have rooted := Path.isAbsolute_render names
    rw [← Bool.not_eq_true, String.isEmpty_iff]
    intro blank
    rw [blank] at rooted
    cases rooted
  rw [locate, if_neg (by simp [nonempty]), startOf, if_pos (Path.isAbsolute_render names)]
  by_cases root : names = []
  · subst root
    have dot : steps (Path.render []) = ["."] := by decide
    rw [dot, walk_cons, if_pos rfl]
  · rw [steps_render isName (Path.endsInSlash_render isName root)]

theorem locate_join (fs : FileSystem) {names : List String} {name : String}
    (areNames : ∀ part ∈ names, Path.IsName part) (isName : Path.IsName name) :
    fs.locate (Path.join [Path.render names, name]) = fs.walk maxLinks [] (names ++ [name]) := by
  have single : ∀ part ∈ [name], Path.IsName part := List.forall_mem_singleton.2 isName
  rw [Path.join_render areNames single,
    locate_render fs (List.forall_mem_append.2 ⟨areNames, single⟩)]

theorem isPresent_iff_found :
    fs.isPresent path = true ↔ ∃ place, fs.locate path = .found place := by
  unfold isPresent
  cases fs.locate path <;> simp

/-! ## The search -/

/-- The search for the part of a path that exists, from a path on, with the names that were put
aside: it stops at a path that exists, and gives up at one without a folder above it. -/
inductive Search (fs : FileSystem) :
    String → List String → Option (String × List String) → Prop
  | stop {current : String} {pending : List String} :
      fs.isPresent current = true → Search fs current pending (some (current, pending))
  | giveUp {current : String} {pending : List String} :
      fs.isPresent current = false → Path.dirname current = current →
      Search fs current pending none
  | up {current : String} {pending : List String} {result : Option (String × List String)} :
      fs.isPresent current = false → Path.dirname current ≠ current →
      Search fs (Path.dirname current) (Path.basename current :: pending) result →
      Search fs current pending result

/-- A search has one result. -/
theorem Search.unique {current : String} {pending : List String}
    {result other : Option (String × List String)} (search : fs.Search current pending result)
    (again : fs.Search current pending other) : result = other := by
  induction search with
  | stop present =>
      cases again with
      | stop => rfl
      | giveUp missing => simp [present] at missing
      | up missing => simp [present] at missing
  | giveUp missing top =>
      cases again with
      | stop present => simp [missing] at present
      | giveUp => rfl
      | up _ below => exact absurd top below
  | up missing below _ ih =>
      cases again with
      | stop present => simp [missing] at present
      | giveUp _ top => exact absurd top below
      | up _ _ search => exact ih search

/-- The search from a path of names ends where the names split. -/
theorem Splits.search {names front back : List String} {place : Location}
    (splits : fs.Splits names front back place) (isName : ∀ part ∈ names, Path.IsName part)
    (more less : List String) (eq : back = more ++ less) :
    fs.Search (Path.render (front ++ more)) less (some (Path.render front, back)) := by
  have whole : names = front ++ more ++ less := by rw [splits.eq, eq, List.append_assoc]
  have areNames : ∀ part ∈ front ++ more, Path.IsName part :=
    fun part member => isName part (whole ▸ List.mem_append_left less member)
  induction more using List.reverseRecOn generalizing less with
  | nil =>
      rw [List.append_nil] at areNames ⊢
      have present : fs.isPresent (Path.render front) = true := by
        rw [isPresent_iff_found, locate_render fs areNames]
        exact ⟨place, splits.found.walk_eq⟩
      rw [eq]
      exact .stop present
  | append_singleton more last ih =>
      have missing : fs.isPresent (Path.render (front ++ (more ++ [last]))) = false := by
        rw [← Bool.not_eq_true, isPresent_iff_found, locate_render fs areNames]
        rintro ⟨reached, found⟩
        exact splits.not_found (by simp) eq reached (walk_eq_found_iff.1 found)
      rw [← List.append_assoc] at missing areNames ⊢
      obtain ⟨outerNames, lastName⟩ := List.forall_mem_append.1 areNames
      have lastName := List.forall_mem_singleton.1 lastName
      have outer := ih (last :: less) (by simpa using eq) (by simpa using whole) outerNames
      have parent := Path.dirname_render outerNames lastName
      refine .up missing ?_ ?_
      · rw [parent]
        intro same
        have longer := Path.render_injective outerNames areNames same
        simp at longer
      · rw [parent, Path.basename_render lastName]
        exact outer

/-! ## What the search decides -/

/-- The path resolved as text, where the search for its canonical path starts. -/
theorem resolve_eq (fs : FileSystem) (path : String) :
    Path.resolve fs.cwdPath [path] = Path.render (fs.resolved path) := rfl

theorem Splits.search_resolved {front back : List String} {place : Location}
    (splits : fs.Splits (fs.resolved path) front back place) :
    fs.Search (Path.resolve fs.cwdPath [path]) [] (some (Path.render front, back)) := by
  have search := splits.search (fs.isName_resolved path) back [] (List.append_nil back).symm
  rw [← splits.eq] at search
  exact search

section Splits

variable {front back : List String} {place : Location}
  (splits : fs.Splits (fs.resolved path) front back place)

include splits

theorem Splits.isName_front : ∀ part ∈ front, Path.IsName part := fun part member =>
  fs.isName_resolved path part (splits.eq ▸ List.mem_append_left back member)

theorem Splits.isName_back : ∀ part ∈ back, Path.IsName part := fun part member =>
  fs.isName_resolved path part (splits.eq ▸ List.mem_append_right front member)

theorem Splits.locate_front : fs.locate (Path.render front) = .found place := by
  rw [locate_render fs splits.isName_front]
  exact splits.found.walk_eq

theorem Splits.isReal : fs.IsReal place := splits.found.isReal fs.stands_root

theorem Splits.isName_place : ∀ part ∈ place, Path.IsName part := by
  refine splits.found.isName nofun fun step member => ?_
  have name := splits.isName_front step member
  exact ⟨name.nonempty, name.noSlash⟩

theorem Splits.isName_canonical : ∀ part ∈ place ++ back, Path.IsName part :=
  List.forall_mem_append.2 ⟨splits.isName_place, splits.isName_back⟩

theorem Splits.canonicalPath_eq : fs.canonicalPath path = Path.render (place ++ back) := by
  rw [canonicalPath, splits.canonicalSegments_eq]

theorem Splits.resolved_canonical : fs.resolved (fs.canonicalPath path) = place ++ back := by
  rw [splits.canonicalPath_eq, resolved,
    Path.resolveSegments_absolute fs.cwdPath (Path.isAbsolute_render _),
    Path.location_render splits.isName_canonical]

end Splits

/-! ## Names that the search passes by -/

section Overlooked

variable {front less : List String} {name : String} {place : Location}
  (splits : fs.Splits (fs.resolved path) front (name :: less) place)

include splits

/-- A name that is there below the real path, but was not found, takes too many links. -/
theorem Splits.gave_up {reached : Location}
    (there : fs.Leads maxLinks [] (place ++ [name]) (.found reached)) :
    fs.walk maxLinks [] (front ++ [name]) = .failed .tooManyLinks := by
  have stands := splits.isReal.stands_of_leads there
  have below : fs.Leads maxLinks place [name] (.found reached) :=
    (@leads_append_iff_of_stands fs maxLinks place [] [name] _ stands).1 there
  obtain ⟨left, le, goesOn⟩ := splits.found.walk_append stands.isFolder
  by_contra ends
  rw [goesOn] at ends
  -- With the links that are left the walk would arrive as it does with all of them.
  have same := (walk_of_more le ends).symm.trans below.walk_eq
  rw [← goesOn] at same
  exact splits.missing name less rfl reached (walk_eq_found_iff.1 same)

/-- If the first missing name is not there below the real path either, the canonical path splits
where the path does. -/
theorem Splits.canonical_again
    (missing : ∀ reached, ¬ fs.Leads maxLinks [] (place ++ [name]) (.found reached)) :
    fs.Splits (fs.resolved (fs.canonicalPath path)) place (name :: less) place :=
  ⟨splits.resolved_canonical, splits.isReal.leads maxLinks, fun other rest same => by
    cases same
    exact missing⟩

/-- If it is there, the canonical path has another canonical path. -/
theorem Splits.canonical_moves {reached : Location}
    (there : fs.Leads maxLinks [] (place ++ [name]) (.found reached)) :
    fs.canonicalPath (fs.canonicalPath path) ≠ fs.canonicalPath path := by
  intro same
  obtain ⟨front', back', place', splits'⟩ :=
    fs.exists_splits (fs.resolved (fs.canonicalPath path))
  rw [splits'.canonicalPath_eq, splits.canonicalPath_eq] at same
  have names := Path.render_injective splits'.isName_canonical splits.isName_canonical same
  have whole : front' ++ back' = place ++ name :: less := by
    rw [← splits'.eq, splits.resolved_canonical]
  obtain rfl : place' = front' := List.append_cancel_right (names.trans whole.symm)
  -- What exists of the canonical path goes further than the name that was passed by.
  have further : place ++ [name] <+: place' := by
    have pieces : place' ++ back' = place ++ [name] ++ less := by rw [whole]; simp
    rcases List.append_eq_append_iff.1 pieces with ⟨more, eq, rest⟩ | ⟨more, eq, -⟩
    · cases more with
      | nil => exact ⟨[], by simp [eq]⟩
      | cons next more =>
          rw [eq] at there
          exact absurd there (splits'.not_found (by simp) rest reached)
    · exact ⟨more, eq.symm⟩
  obtain ⟨more, rfl⟩ := further
  have real := splits'.isReal
  rw [List.append_assoc, List.singleton_append] at real
  -- So no link stands under the name, and the search found it.
  have stands := splits.isReal.stands_of_leads there
  obtain ⟨left, -, goesOn⟩ := splits.found.walk_append stands.isFolder
  have found := goesOn [name]
  rw [(real.leads_step left).walk_eq] at found
  exact splits.missing name less rfl _ (walk_eq_found_iff.1 found)

end Overlooked

/-- The search put a name aside that is there: the walk to it was given up for its number of links,
but from the real path of its folder it is reached. -/
def Overlooks (fs : FileSystem) (path : String) : Prop :=
  ∃ stop name less place,
    fs.Search (Path.resolve fs.cwdPath [path]) [] (some (stop, name :: less)) ∧
      fs.locate stop = .found place ∧
      fs.locate (Path.join [stop, name]) = .failed .tooManyLinks ∧
      fs.isPresent (Path.join [Path.render place, name]) = true

theorem Splits.overlooks_iff {front back : List String} {place : Location}
    (splits : fs.Splits (fs.resolved path) front back place) :
    fs.Overlooks path ↔ ∃ name less reached, back = name :: less ∧
      fs.Leads maxLinks [] (place ++ [name]) (.found reached) := by
  constructor
  · rintro ⟨stop, name, less, place', search, located, -, present⟩
    cases search.unique splits.search_resolved
    cases located.symm.trans splits.locate_front
    have isName := splits.isName_back name List.mem_cons_self
    rw [isPresent_iff_found, locate_join fs splits.isName_place isName] at present
    obtain ⟨reached, found⟩ := present
    exact ⟨name, less, reached, rfl, walk_eq_found_iff.1 found⟩
  · rintro ⟨name, less, reached, rfl, there⟩
    have isName := splits.isName_back name List.mem_cons_self
    refine ⟨_, name, less, place, splits.search_resolved, splits.locate_front, ?_, ?_⟩
    · rw [locate_join fs splits.isName_front isName]
      exact splits.gave_up there
    · rw [isPresent_iff_found, locate_join fs splits.isName_place isName]
      exact ⟨reached, there.walk_eq⟩

theorem Splits.canonicalPath_again_iff {front back : List String} {place : Location}
    (splits : fs.Splits (fs.resolved path) front back place) :
    fs.canonicalPath (fs.canonicalPath path) = fs.canonicalPath path ↔ ¬ fs.Overlooks path := by
  rw [splits.overlooks_iff]
  constructor
  · rintro same ⟨name, less, reached, rfl, there⟩
    exact splits.canonical_moves there same
  · intro settled
    cases back with
    | nil =>
        have again : fs.Splits (fs.resolved (fs.canonicalPath path)) place [] place :=
          ⟨splits.resolved_canonical, splits.isReal.leads maxLinks, nofun⟩
        rw [again.canonicalPath_eq, splits.canonicalPath_eq]
    | cons name less =>
        have again := splits.canonical_again fun reached there =>
          settled ⟨name, less, reached, rfl, there⟩
        rw [again.canonicalPath_eq, splits.canonicalPath_eq]

/-- The search for what exists of a path ends at something that exists, in one way. The canonical
path is the real path of that, followed by the names put aside, so paths for which the two are the
same have one canonical path. It is absolute and in normal form. It is its own canonical path
exactly if the search did not put a name aside that is there, for the number of links on the way
to it. The length of a path sets the search no limit here. -/
theorem canonicalPath_normal_form (fs : FileSystem) (path : String) :
    (∃ stop pending place,
      fs.Search (Path.resolve fs.cwdPath [path]) [] (some (stop, pending)) ∧
        (∀ result, fs.Search (Path.resolve fs.cwdPath [path]) [] result →
          result = some (stop, pending)) ∧
        pending.length ≤ (fs.resolved path).length ∧
        fs.locate stop = .found place ∧
        fs.canonicalPath path = Path.join (Path.render place :: pending)) ∧
    (Path.isAbsolute (fs.canonicalPath path) = true ∧
      Path.normalize (fs.canonicalPath path) = fs.canonicalPath path ∧
      Path.resolve fs.cwdPath [fs.canonicalPath path] = fs.canonicalPath path) ∧
    (fs.canonicalPath (fs.canonicalPath path) = fs.canonicalPath path ↔ ¬ fs.Overlooks path) ∧
    (∀ other stop stop' pending place,
      fs.Search (Path.resolve fs.cwdPath [path]) [] (some (stop, pending)) →
      fs.Search (Path.resolve fs.cwdPath [other]) [] (some (stop', pending)) →
      fs.locate stop = .found place → fs.locate stop' = .found place →
      fs.canonicalPath other = fs.canonicalPath path) := by
  obtain ⟨front, back, place, splits⟩ := fs.exists_splits (fs.resolved path)
  refine ⟨⟨_, back, place, splits.search_resolved, fun result search =>
    search.unique splits.search_resolved, ?_, splits.locate_front, ?_⟩, ⟨?_, ?_, ?_⟩,
    splits.canonicalPath_again_iff, ?_⟩
  · rw [splits.eq, List.length_append]
    exact Nat.le_add_left _ _
  · rw [splits.canonicalPath_eq, Path.join_render splits.isName_place splits.isName_back]
  · rw [splits.canonicalPath_eq]
    exact Path.isAbsolute_render _
  · rw [splits.canonicalPath_eq, Path.normalize_render splits.isName_canonical]
  · rw [resolve_eq, splits.resolved_canonical, splits.canonicalPath_eq]
  · intro other stop stop' pending spot search search' located located'
    obtain ⟨front', back', place', splits'⟩ := fs.exists_splits (fs.resolved other)
    cases search.unique splits.search_resolved
    cases search'.unique splits'.search_resolved
    cases located.symm.trans splits.locate_front
    cases located'.symm.trans splits'.locate_front
    rw [splits.canonicalPath_eq, splits'.canonicalPath_eq]

/-- A folder with a link to itself. -/
def loopDisk : FileSystem where
  cwd := []
  entries := [(["d"], .directory), (["d", "loop"], .link "/d")]

theorem search_through_loop : loopDisk.Search "/d/loop/a" [] (some ("/d/loop", ["a"])) := by
  have parent : Path.dirname "/d/loop/a" = "/d/loop" := by decide +kernel
  have name : Path.basename "/d/loop/a" = "a" := by decide +kernel
  refine .up (by decide +kernel) (by rw [parent]; decide) ?_
  rw [parent, name]
  exact .stop (by decide +kernel)

theorem search_beside_loop : loopDisk.Search "/d/a" [] (some ("/d", ["a"])) := by
  have parent : Path.dirname "/d/a" = "/d" := by decide +kernel
  have name : Path.basename "/d/a" = "a" := by decide +kernel
  refine .up (by decide +kernel) (by rw [parent]; decide) ?_
  rw [parent, name]
  exact .stop (by decide +kernel)

/-- A missing file has one canonical path, through the link and beside it. -/
theorem loopDisk_normal_form :
    loopDisk.canonicalPath "/d/a" = loopDisk.canonicalPath "/d/loop/a" := by
  obtain ⟨-, -, -, same⟩ := canonicalPath_normal_form loopDisk "/d/loop/a"
  have through : Path.resolve loopDisk.cwdPath ["/d/loop/a"] = "/d/loop/a" := by decide +kernel
  have beside : Path.resolve loopDisk.cwdPath ["/d/a"] = "/d/a" := by decide +kernel
  rw [through] at same
  refine same "/d/a" "/d/loop" "/d" ["a"] ["d"] search_through_loop ?_ (by decide +kernel)
    (by decide +kernel)
  rw [beside]
  exact search_beside_loop

/-- The folder through one link more than are followed. -/
def longLoop : String := "/d" ++ String.join (List.replicate (maxLinks + 1) "/loop")

/-- The last link is taken for a missing name, and resolved the next time. -/
theorem longLoop_not_normal :
    ¬ loopDisk.canonicalPath (loopDisk.canonicalPath longLoop) =
      loopDisk.canonicalPath longLoop := by
  have first : loopDisk.canonicalPath longLoop = "/d/loop" := by decide +kernel
  have second : loopDisk.canonicalPath "/d/loop" = "/d" := by decide +kernel
  rw [first, second]
  decide

end BridgeCode.FileSystem
