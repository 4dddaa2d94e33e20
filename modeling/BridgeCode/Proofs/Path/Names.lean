import BridgeCode.Proofs.Path

/-!
Absolute paths that consist of names.

Such a path is taken apart by its last name (`dirname_render`, `basename_render`) and put together
again from a path and names (`join_render`). It is in normal form already (`normalize_render`).
-/

namespace BridgeCode.Path

/-! ## The last name -/

/-- A path that ends in a name, read from its end. -/
theorem reverse_append_name {name : String} (isName : IsName name) (front : String) :
    (front ++ "/" ++ name).toList.reverse.dropWhile (· == '/') =
      name.toList.reverse ++ '/' :: front.toList.reverse := by
  have slash : "/".toList = ['/'] := rfl
  have reversed : (front ++ "/" ++ name).toList.reverse =
      name.toList.reverse ++ '/' :: front.toList.reverse := by
    simp [String.toList_append, slash]
  rw [reversed]
  cases chars : name.toList.reverse with
  | nil =>
      have blank : name = "" := by simpa using chars
      exact absurd blank isName.nonempty
  | cons last init =>
      have inside : last ∈ name.toList := by
        rw [← List.mem_reverse, chars]
        exact List.mem_cons_self
      have ne : last ≠ '/' := fun same => isName.noSlash (same ▸ inside)
      rw [List.cons_append, List.dropWhile_cons_of_neg (by simpa using ne)]

theorem no_slash_before {name : String} (isName : IsName name) :
    ∀ char ∈ name.toList.reverse, (char != '/') = true := by
  intro char inside
  have ne : char ≠ '/' := by
    rintro rfl
    exact isName.noSlash (List.mem_reverse.1 inside)
  simpa using ne

theorem basename_append_name {name : String} (isName : IsName name) (front : String) :
    basename (front ++ "/" ++ name) = name := by
  rw [basename, reverse_append_name isName,
    List.takeWhile_append_of_pos (no_slash_before isName), List.takeWhile_cons_of_neg (by simp),
    List.append_nil, List.reverse_reverse, String.ofList_toList]

theorem dirname_append_name {name : String} (isName : IsName name) {front : String}
    (long : 2 ≤ front.toList.length) : dirname (front ++ "/" ++ name) = front := by
  unfold dirname
  dsimp only
  rw [reverse_append_name isName, List.dropWhile_append_of_pos (no_slash_before isName),
    List.dropWhile_cons_of_neg (by simp)]
  rw [← List.length_reverse] at long
  rcases reversed : front.toList.reverse with - | ⟨last, - | ⟨next, init⟩⟩
  · simp [reversed] at long
  · simp [reversed] at long
  · dsimp only
    rw [if_neg (by simp), ← reversed, List.reverse_reverse, String.ofList_toList]

theorem dirname_root_name {name : String} (isName : IsName name) : dirname ("/" ++ name) = "/" := by
  have shape := reverse_append_name isName ""
  rw [String.empty_append] at shape
  have rooted : isAbsolute ("/" ++ name) = true := isAbsolute_slash name
  unfold dirname
  dsimp only
  rw [shape, List.dropWhile_append_of_pos (no_slash_before isName),
    List.dropWhile_cons_of_neg (by simp)]
  simp [rooted]

/-- A path of names and one more name. -/
theorem render_concat {names : List String} (nonempty : names ≠ []) (last : String) :
    render (names ++ [last]) = render names ++ "/" ++ last := by
  rw [render, render, String.intercalate_append_of_ne_nil nonempty (by simp),
    String.intercalate_singleton, String.append_assoc, String.append_assoc, String.append_assoc]

theorem render_singleton (name : String) : render [name] = "/" ++ name := by
  rw [render, String.intercalate_singleton]

variable {names : List String}

theorem basename_render {last : String} (isName : IsName last) (names : List String) :
    basename (render (names ++ [last])) = last := by
  by_cases empty : names = []
  · subst empty
    have found := basename_append_name isName ""
    rwa [String.empty_append, ← render_singleton] at found
  · rw [render_concat empty, basename_append_name isName]

theorem two_le_length_render (isName : ∀ part ∈ names, IsName part) (nonempty : names ≠ []) :
    2 ≤ (render names).toList.length := by
  obtain ⟨name, rest, rfl⟩ := List.exists_cons_of_ne_nil nonempty
  have first := (isName name List.mem_cons_self).nonempty
  have chars : 0 < name.toList.length := by
    rw [List.length_pos_iff]
    simpa using first
  have slash : "/".toList = ['/'] := rfl
  rw [render, String.toList_append, slash, List.length_append, List.length_singleton]
  by_cases empty : rest = []
  · subst empty
    rw [String.intercalate_singleton]
    omega
  · rw [String.intercalate_cons_of_ne_nil empty, String.toList_append, String.toList_append,
      List.length_append, List.length_append]
    omega

theorem dirname_render {last : String} (isName : ∀ part ∈ names, IsName part)
    (lastName : IsName last) : dirname (render (names ++ [last])) = render names := by
  by_cases empty : names = []
  · subst empty
    rw [List.nil_append, render_singleton, dirname_root_name lastName]
    rfl
  · rw [render_concat empty, dirname_append_name lastName (two_le_length_render isName empty)]

/-! ## Normal forms -/

theorem endsInSlash_append {name : String} (isName : IsName name) (front : String) :
    endsInSlash (front ++ name) = false := by
  have nonempty : name.toList ≠ [] := by simpa using isName.nonempty
  have ne : name.toList.getLast nonempty ≠ '/' := fun same =>
    isName.noSlash (same ▸ List.getLast_mem nonempty)
  rw [endsInSlash, String.toList_append, List.getLast?_append,
    List.getLast?_eq_some_getLast nonempty]
  simpa using ne

theorem endsInSlash_render (isName : ∀ part ∈ names, IsName part) (nonempty : names ≠ []) :
    endsInSlash (render names) = false := by
  rcases List.eq_nil_or_concat names with rfl | ⟨init, last, rfl⟩
  · exact absurd rfl nonempty
  · rw [List.concat_eq_append] at isName ⊢
    have lastName := isName last (by simp)
    by_cases empty : init = []
    · subst empty
      rw [List.nil_append, render_singleton, endsInSlash_append lastName]
    · rw [render_concat empty, endsInSlash_append lastName]

/-- The normal form of an absolute path is the path of its location, unless it ends in a slash. -/
theorem normalize_eq_render {path : String} (absolute : isAbsolute path = true)
    (noSlash : endsInSlash path = false ∨ location path = []) :
    normalize path = render (location path) := by
  have reduced : reduce true (segments path) = location path := reduce_true _
  rw [normalize_absolute absolute, reduced]
  dsimp only
  rcases noSlash with noSlash | empty
  · rw [noSlash, Bool.false_and, if_neg (by simp), render]
  · simp [empty, render]

/-- A path of names is in normal form. -/
theorem normalize_render (isName : ∀ part ∈ names, IsName part) :
    normalize (render names) = render names := by
  have noSlash : endsInSlash (render names) = false ∨ location (render names) = [] := by
    rw [location_render isName]
    by_cases empty : names = []
    · exact .inr empty
    · exact .inl (endsInSlash_render isName empty)
  rw [normalize_eq_render (isAbsolute_render names) noSlash, location_render isName]

/-- Names that are joined to a path of names follow its own. -/
theorem join_render {more : List String} (isName : ∀ part ∈ names, IsName part)
    (areNames : ∀ part ∈ more, IsName part) :
    join (render names :: more) = render (names ++ more) := by
  have kept : (render names :: more).filter (!·.isEmpty) = render names :: more := by
    refine List.filter_eq_self.2 fun part member => ?_
    rcases List.mem_cons.1 member with rfl | member
    · have rooted := isAbsolute_render names
      simpa using fun blank : render names = "" => by simp [blank, isAbsolute] at rooted
    · simpa using (areNames part member).nonempty
  have joined :
      join (render names :: more) = normalize ("/".intercalate (render names :: more)) := by
    rw [join, kept]
  rw [joined]
  rcases List.eq_nil_or_concat more with rfl | ⟨init, last, rfl⟩
  · rw [String.intercalate_singleton, normalize_render isName, List.append_nil]
  · rw [List.concat_eq_append] at areNames ⊢
    have below : init ++ [last] ≠ [] := by simp
    have path : "/".intercalate (render names :: (init ++ [last])) =
        render names ++ "/" ++ "/".intercalate (init ++ [last]) :=
      String.intercalate_cons_of_ne_nil below
    have absolute : isAbsolute ("/".intercalate (render names :: (init ++ [last]))) = true := by
      rw [path, render, String.append_assoc, String.append_assoc]
      exact isAbsolute_slash _
    have noSlash : endsInSlash ("/".intercalate (render names :: (init ++ [last]))) = false := by
      rw [← List.cons_append, String.intercalate_append_of_ne_nil (by simp) (by simp),
        String.intercalate_singleton, endsInSlash_append (areNames last (by simp))]
    have located : location ("/".intercalate (render names :: (init ++ [last]))) =
        names ++ (init ++ [last]) := by
      have climbed := location_render isName
      rw [location] at climbed
      rw [path, location, segments_append_slash, List.foldl_append, climbed,
        segments_intercalate below fun part member => (areNames part member).noSlash,
        foldl_climb_names areNames]
    rw [normalize_eq_render absolute (.inl noSlash), located]

end BridgeCode.Path
