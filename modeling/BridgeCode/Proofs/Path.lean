import BridgeCode.Path
import BridgeCode.Proofs.Text.Split

/-!
Normal forms of paths.

A path that was joined has its steps up in front of all names (`upsFirst_join`), so resolving it as
text and walking it from folder to folder meet the same names. `climb` is the effect of one segment
on a location, and resolving is climbing from the current folder (`resolveSegments_eq`). A location
is told by its path (`render_injective`).
-/

namespace BridgeCode

namespace Path

/-- What can stand between the slashes of a path besides dots. -/
structure IsName (part : String) : Prop where
  nonempty : part ≠ ""
  ne_dot : part ≠ "."
  ne_up : part ≠ ".."
  noSlash : '/' ∉ part.toList

/-- Every step up stands in front of all names; dots and empty parts may stand in front too. -/
inductive UpsFirst : List String → Prop
  | names {parts} : (∀ part ∈ parts, IsName part) → UpsFirst parts
  | skip {part parts} : part = "" ∨ part = "." → UpsFirst parts → UpsFirst (part :: parts)
  | up {parts} : UpsFirst parts → UpsFirst (".." :: parts)

/-- Where one segment leads from a location, links aside. -/
def climb (place : List String) (segment : String) : List String :=
  if segment = "" ∨ segment = "." then place
  else if segment = ".." then place.dropLast
  else place ++ [segment]

/-- Where a path leads from the root, links aside. -/
def location (path : String) : List String := (segments path).foldl climb []

/-! ## Segments -/

theorem segments_eq (path : String) :
    segments path = (path.toList.splitOn '/').map String.ofList := by
  rw [segments, Text.splitOn_eq]

theorem segments_append_slash (front back : String) :
    segments (front ++ "/" ++ back) = segments front ++ segments back := by
  simp only [segments_eq, String.toList_append]
  have slash : "/".toList = ['/'] := rfl
  rw [slash, List.append_assoc, List.singleton_append, List.splitOn_append_cons_self,
    List.map_append]

theorem segments_empty : segments "" = [""] := rfl

theorem segments_slash (rest : String) : segments ("/" ++ rest) = "" :: segments rest := by
  have split := segments_append_slash "" rest
  rwa [String.empty_append, segments_empty] at split

theorem segments_of_noSlash {part : String} (noSlash : '/' ∉ part.toList) :
    segments part = [part] := by
  rw [segments_eq, List.splitOn_eq_singleton noSlash, List.map_singleton, String.ofList_toList]

/-- The segments of joined parts are the parts. -/
theorem segments_intercalate {parts : List String} (nonempty : parts ≠ [])
    (noSlash : ∀ part ∈ parts, '/' ∉ part.toList) : segments ("/".intercalate parts) = parts := by
  induction parts with
  | nil => exact absurd rfl nonempty
  | cons part parts ih =>
      have first := segments_of_noSlash (noSlash part List.mem_cons_self)
      cases parts with
      | nil => rw [String.intercalate_singleton, first]
      | cons next parts =>
          rw [String.intercalate_cons_cons, segments_append_slash, first,
            ih (by simp) fun other member => noSlash other (List.mem_cons_of_mem _ member)]
          rfl

/-- No segment has a slash in it. -/
theorem noSlash_of_mem_segments {path part : String} (member : part ∈ segments path) :
    '/' ∉ part.toList := by
  rw [segments, List.mem_map] at member
  obtain ⟨chars, member, rfl⟩ := member
  rw [String.toList_ofList]
  exact fun inside => (Text.mem_of_mem_splitOn member inside).2 rfl

/-! ## Reducing -/

/-- The segments passed, innermost first, end in the steps up that lead out of the start. -/
def Passed (absolute : Bool) (passed : List String) : Prop :=
  ∃ names ups, passed = names ++ List.replicate ups ".." ∧
    (∀ part ∈ names, IsName part) ∧ (absolute = true → ups = 0)

theorem descend_passed {absolute : Bool} {passed : List String} {segment : String}
    (noSlash : '/' ∉ segment.toList) (inv : Passed absolute passed) :
    Passed absolute (descend absolute passed segment) := by
  obtain ⟨names, ups, rfl, isName, rooted⟩ := inv
  unfold descend
  split
  · exact ⟨names, ups, rfl, isName, rooted⟩
  next skipped =>
    split
    · next isUp =>
        subst isUp
        cases names with
        | cons name names =>
            have ne := (isName name List.mem_cons_self).ne_up
            simp only [List.cons_append, ne, if_false]
            exact ⟨names, ups, rfl, fun part member => isName part (List.mem_cons_of_mem _ member),
              rooted⟩
        | nil =>
            cases ups with
            | zero =>
                cases absolute with
                | true => exact ⟨[], 0, rfl, by simp, fun _ => rfl⟩
                | false => exact ⟨[], 1, rfl, by simp, by simp⟩
            | succ ups =>
                simp only [List.replicate_succ, List.nil_append, if_true]
                exact ⟨[], ups + 2, rfl, by simp, fun isAbsolute => nomatch rooted isAbsolute⟩
    · next isName' =>
        refine ⟨segment :: names, ups, rfl, fun part member => ?_, rooted⟩
        rcases List.mem_cons.1 member with rfl | member
        · exact ⟨fun empty => skipped (.inl empty), fun dot => skipped (.inr dot), isName', noSlash⟩
        · exact isName part member

theorem foldl_descend_passed {absolute : Bool} {parts passed : List String}
    (noSlash : ∀ part ∈ parts, '/' ∉ part.toList) (inv : Passed absolute passed) :
    Passed absolute (parts.foldl (descend absolute) passed) := by
  induction parts generalizing passed with
  | nil => exact inv
  | cons part parts ih =>
      exact ih (fun other member => noSlash other (List.mem_cons_of_mem _ member))
        (descend_passed (noSlash part List.mem_cons_self) inv)

/-- What is left of segments after dots are removed: steps up, if any, then names. -/
theorem reduce_split (absolute : Bool) {parts : List String}
    (noSlash : ∀ part ∈ parts, '/' ∉ part.toList) :
    ∃ ups names, reduce absolute parts = List.replicate ups ".." ++ names ∧
      (∀ part ∈ names, IsName part) ∧ (absolute = true → ups = 0) := by
  have start : Passed absolute [] := ⟨[], 0, rfl, by simp, fun _ => rfl⟩
  obtain ⟨names, ups, eq, isName, rooted⟩ := foldl_descend_passed noSlash start
  refine ⟨ups, names.reverse, ?_, fun part member => isName part (List.mem_reverse.1 member),
    rooted⟩
  rw [reduce, eq, List.reverse_append, List.reverse_replicate]

theorem upsFirst_replicate {names : List String} (isName : ∀ part ∈ names, IsName part) :
    ∀ ups : Nat, UpsFirst (List.replicate ups ".." ++ names)
  | 0 => .names isName
  | ups + 1 => .up (upsFirst_replicate isName ups)

/-- Under the root a reduction is a climb. -/
theorem foldl_descend (parts : List String) {place : List String} (names : ".." ∉ place) :
    parts.foldl (descend true) place.reverse = (parts.foldl climb place).reverse := by
  induction parts generalizing place with
  | nil => rfl
  | cons part parts ih =>
      rw [List.foldl_cons, List.foldl_cons]
      have step : descend true place.reverse part = (climb place part).reverse ∧
          ".." ∉ climb place part := by
        unfold descend climb
        split
        · exact ⟨rfl, names⟩
        split
        · refine ⟨?_, fun member => names (List.dropLast_subset _ member)⟩
          rcases List.eq_nil_or_concat place with rfl | ⟨front, name, rfl⟩
          · rfl
          · have ne : name ≠ ".." := fun same => names (by simp [same])
            simp [ne]
        · next ne => exact ⟨by simp, by simp [names, Ne.symm ne]⟩
      rw [step.1]
      exact ih step.2

theorem reduce_true (parts : List String) : reduce true parts = parts.foldl climb [] := by
  have climbed := @foldl_descend parts [] (by simp)
  rw [List.reverse_nil] at climbed
  rw [reduce, climbed, List.reverse_reverse]

theorem foldl_climb_names {parts : List String} (isName : ∀ part ∈ parts, IsName part)
    (place : List String) : parts.foldl climb place = place ++ parts := by
  induction parts generalizing place with
  | nil => simp
  | cons part parts ih =>
      have name := isName part List.mem_cons_self
      rw [List.foldl_cons, ih fun other member => isName other (List.mem_cons_of_mem _ member)]
      simp [climb, name.nonempty, name.ne_dot, name.ne_up]

/-- Climbing keeps to names. -/
theorem isName_foldl_climb {parts place : List String} (isName : ∀ part ∈ place, IsName part)
    (noSlash : ∀ part ∈ parts, '/' ∉ part.toList) :
    ∀ part ∈ parts.foldl climb place, IsName part := by
  induction parts generalizing place with
  | nil => exact isName
  | cons part parts ih =>
      refine ih ?_ fun other member => noSlash other (List.mem_cons_of_mem _ member)
      unfold climb
      split
      · exact isName
      split
      · exact fun other member => isName other (List.dropLast_subset _ member)
      next skipped ne =>
        intro other member
        rcases List.mem_append.1 member with member | member
        · exact isName other member
        · obtain rfl := List.mem_singleton.1 member
          exact ⟨fun empty => skipped (.inl empty), fun dot => skipped (.inr dot), ne,
            noSlash other List.mem_cons_self⟩

/-! ## Rendered paths -/

theorem segments_render {parts : List String} (noSlash : ∀ part ∈ parts, '/' ∉ part.toList) :
    segments (render parts) = "" :: if parts = [] then [""] else parts := by
  rw [render, segments_slash]
  split
  · next empty =>
      subst empty
      rw [String.intercalate_nil, segments_empty]
  · next nonempty => rw [segments_intercalate nonempty noSlash]

/-- Two rendered lists of names are the same only if the lists are. -/
theorem render_injective {parts others : List String} (isName : ∀ part ∈ parts, IsName part)
    (areNames : ∀ part ∈ others, IsName part) (same : render parts = render others) :
    parts = others := by
  have split := congrArg segments same
  rw [segments_render fun part member => (isName part member).noSlash,
    segments_render fun part member => (areNames part member).noSlash] at split
  injection split with _ split
  split at split <;> split at split
  · next left right => rw [left, right]
  · next right =>
      subst split
      exact absurd rfl (areNames "" (by simp)).nonempty
  · subst split
    exact absurd rfl (isName "" (by simp)).nonempty
  · exact split

theorem location_render {place : List String} (isName : ∀ part ∈ place, IsName part) :
    location (render place) = place := by
  rw [location, segments_render fun part member => (isName part member).noSlash, List.foldl_cons]
  have start : climb [] "" = [] := rfl
  rw [start]
  split
  · next empty =>
      subst empty
      rfl
  · rw [foldl_climb_names isName, List.nil_append]

/-- Resolving a path is climbing along it, from the root or from the current folder. -/
theorem resolveSegments_eq {cwd : List String} (isName : ∀ part ∈ cwd, IsName part)
    (path : String) :
    resolveSegments (render cwd) [path] =
      (segments path).foldl climb (if isAbsolute path then [] else cwd) := by
  rw [resolveSegments, reduce_true]
  simp only [List.foldl_cons, List.foldl_nil]
  split
  · rfl
  · have climbed := location_render isName
    rw [location] at climbed
    rw [List.foldl_append, climbed]

/-- A resolved path consists of names, whatever the current folder is. -/
theorem isName_resolveSegments (cwd path : String) :
    ∀ part ∈ resolveSegments cwd [path], IsName part := by
  rw [resolveSegments, reduce_true]
  refine isName_foldl_climb nofun fun part member => ?_
  simp only [List.foldl_cons, List.foldl_nil] at member
  split at member
  · exact noSlash_of_mem_segments member
  · rcases List.mem_append.1 member with outer | inner
    · exact noSlash_of_mem_segments outer
    · exact noSlash_of_mem_segments inner

theorem isAbsolute_slash (rest : String) : isAbsolute ("/" ++ rest) = true := by
  have slash : "/".toList = ['/'] := rfl
  simp [isAbsolute, String.toList_append, slash]

theorem isAbsolute_render (parts : List String) : isAbsolute (render parts) = true :=
  isAbsolute_slash _

/-- An absolute path resolves to the same names from whatever folder. -/
theorem resolveSegments_absolute (cwd : String) {path : String}
    (absolute : isAbsolute path = true) :
    resolveSegments cwd [path] = location path := by
  rw [resolveSegments, reduce_true]
  simp only [List.foldl_cons, List.foldl_nil]
  rw [if_pos absolute, location]

/-! ## Joined paths -/

theorem endsInSlash_append_slash (front : String) : endsInSlash (front ++ "/") = true := by
  have slash : "/".toList = ['/'] := rfl
  simp [endsInSlash, String.toList_append, slash]

theorem normalize_absolute {path : String} (absolute : isAbsolute path = true) :
    normalize path =
      let text := "/".intercalate (reduce true (segments path))
      "/" ++ if endsInSlash path && !text.isEmpty then text ++ "/" else text := by
  unfold normalize
  simp [absolute]

theorem normalize_relative {path : String} (relative : isAbsolute path = false) :
    normalize path =
      let text := "/".intercalate (reduce false (segments path))
      let text := if text.isEmpty then "." else text
      if endsInSlash path then text ++ "/" else text := by
  unfold normalize
  simp [relative]

/-- A normal absolute path that does not end in a slash is the root and names below it. -/
theorem normalize_absolute_eq {path : String} (absolute : isAbsolute path = true)
    (noSlash : endsInSlash (normalize path) = false) :
    normalize path = render (reduce true (segments path)) ∧ reduce true (segments path) ≠ [] := by
  rw [normalize_absolute absolute] at noSlash ⊢
  dsimp only at noSlash ⊢
  split at noSlash
  · rw [← String.append_assoc, endsInSlash_append_slash] at noSlash
    cases noSlash
  next noTrail =>
    rw [if_neg noTrail]
    refine ⟨rfl, fun empty => ?_⟩
    rw [empty, String.intercalate_nil] at noSlash
    cases noSlash

/-- A normal path that does not end in a slash has its steps up in front. -/
theorem upsFirst_normalize {path : String} (noSlash : endsInSlash (normalize path) = false) :
    UpsFirst (segments (normalize path)) := by
  obtain ⟨ups, names, reduced, isName, rooted⟩ :=
    reduce_split (isAbsolute path) fun part (member : part ∈ segments path) =>
      noSlash_of_mem_segments member
  cases absolute : isAbsolute path with
  | true =>
      obtain ⟨rendered, nonempty⟩ := normalize_absolute_eq absolute noSlash
      rw [absolute, rooted absolute, List.replicate_zero, List.nil_append] at reduced
      rw [reduced] at rendered nonempty
      rw [rendered, segments_render fun part member => (isName part member).noSlash,
        if_neg nonempty]
      exact .skip (.inl rfl) (.names isName)
  | false =>
      rw [absolute] at reduced
      rw [normalize_relative absolute, reduced] at noSlash ⊢
      dsimp only at noSlash ⊢
      split at noSlash
      · rw [endsInSlash_append_slash] at noSlash
        cases noSlash
      next noTrail =>
        rw [if_neg noTrail]
        split
        · exact .skip (.inr rfl) (.names (by simp))
        next nonempty =>
          rw [segments_intercalate]
          · exact upsFirst_replicate isName ups
          · intro empty
            rw [empty, String.intercalate_nil] at nonempty
            exact nonempty rfl
          · intro part member
            rcases List.mem_append.1 member with member | member
            · rw [List.eq_of_mem_replicate member]
              decide
            · exact (isName part member).noSlash

/-- A joined path that does not end in a slash has its steps up in front. -/
theorem upsFirst_join {parts : List String} (noSlash : endsInSlash (join parts) = false) :
    UpsFirst (segments (join parts)) := by
  unfold join at noSlash ⊢
  split at noSlash
  · exact .skip (.inr rfl) (.names (by simp))
  · exact upsFirst_normalize noSlash

/-- A path that starts in an absolute folder is the normal form of an absolute path. -/
theorem exists_normalize_of_absolute {folder : String} (absolute : isAbsolute folder = true)
    (name : String) : ∃ path, isAbsolute path = true ∧ join [folder, name] = normalize path := by
  obtain ⟨rest, rooted⟩ : ∃ rest, folder.toList = '/' :: rest := by
    unfold isAbsolute at absolute
    cases chars : folder.toList with
    | nil => simp [chars] at absolute
    | cons first rest =>
        have slash : first = '/' := by simpa [chars] using absolute
        exact ⟨rest, by rw [slash]⟩
  have nonempty : folder.isEmpty = false := by
    rw [← Bool.not_eq_true, String.isEmpty_iff]
    rintro rfl
    cases rooted
  unfold join
  cases blank : name.isEmpty with
  | true => exact ⟨folder, absolute, by simp [nonempty, blank, List.filter]⟩
  | false =>
      refine ⟨"/".intercalate [folder, name], ?_, by simp [nonempty, blank, List.filter]⟩
      rw [String.intercalate_cons_of_ne_nil (by simp)]
      simp [isAbsolute, String.toList_append, rooted]

theorem isAbsolute_join {folder : String} (absolute : isAbsolute folder = true) (name : String) :
    isAbsolute (join [folder, name]) = true := by
  obtain ⟨path, starts, joined⟩ := exists_normalize_of_absolute absolute name
  rw [joined, normalize_absolute starts]
  exact isAbsolute_slash _

/-- A path that starts in an absolute folder and does not end in a slash is the root and names. -/
theorem join_absolute {folder name : String} (absolute : isAbsolute folder = true)
    (noSlash : endsInSlash (join [folder, name]) = false) :
    ∃ names, (∀ part ∈ names, IsName part) ∧ join [folder, name] = render names := by
  obtain ⟨path, starts, joined⟩ := exists_normalize_of_absolute absolute name
  rw [joined] at noSlash ⊢
  refine ⟨reduce true (segments path), ?_, (normalize_absolute_eq starts noSlash).1⟩
  rw [reduce_true]
  exact isName_foldl_climb (by simp) fun part member => noSlash_of_mem_segments member

/-! ## Folders of paths -/

theorem foldl_climb_dots {parts : List String} (dots : ∀ part ∈ parts, part = "" ∨ part = ".")
    (place : List String) : parts.foldl climb place = place := by
  induction parts with
  | nil => rfl
  | cons part parts ih =>
      obtain ⟨dot, dots⟩ := List.forall_mem_cons.1 dots
      rw [List.foldl_cons, climb, if_pos dot]
      exact ih dots

/-- Without its last segment a path is a beginning of it, or a root, or the current folder. -/
theorem dirname_cases (path : String) :
    isAbsolute (dirname path) = isAbsolute path ∧
      (dirname path ∈ ["/", "//", "."] ∨ ∃ rest, path = dirname path ++ "/" ++ rest) := by
  unfold dirname
  dsimp only
  split
  · next cut d outer left =>
      have suffix : cut :: d :: outer <:+ path.toList.reverse := by
        rw [← left]
        exact (List.dropWhile_suffix _).trans (List.dropWhile_suffix _)
      obtain ⟨rest, whole⟩ := List.reverse_prefix.2 suffix
      rw [List.reverse_reverse, List.reverse_cons, List.append_assoc] at whole
      have slash : cut = '/' := by
        have stopped := List.head_dropWhile_not (· != '/')
          (left ▸ List.cons_ne_nil cut (d :: outer))
        simpa [left] using stopped
      subst slash
      have starts : isAbsolute (String.ofList (d :: outer).reverse) = isAbsolute path := by
        rw [isAbsolute, isAbsolute, ← whole, String.toList_ofList, List.head?_append]
        simp
      split
      · next rooted =>
          rw [Bool.and_eq_true] at rooted
          exact ⟨rooted.1.symm, .inl (by simp)⟩
      · refine ⟨starts, .inr ⟨String.ofList rest, String.toList_inj.1 ?_⟩⟩
        rw [String.toList_append, String.toList_append, String.toList_ofList, String.toList_ofList,
          ← whole]
        simp
  · cases rooted : isAbsolute path with
    | true => exact ⟨rfl, .inl (by simp)⟩
    | false => exact ⟨rfl, .inl (by simp)⟩

end Path

end BridgeCode
