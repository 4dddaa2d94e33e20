import BridgeCode.Proofs.FileSystem.Route

/-!
Real places, and the links that a walk has left.

A walk that arrives at something arrives at a real place: folders down to it, and a folder or a file
there, so that no link is needed to get there from the root (`Leads.isReal`, `IsReal.leads`). A walk
that passes a folder goes on from it with the links it has left (`Leads.walk_append`), and how many
these are makes a difference only where a walk is given up for following too many
(`walk_of_more`).
-/

namespace BridgeCode.FileSystem

variable {fs : FileSystem} {links : Nat} {place reached : Location} {path : List String}

/-! ## The number of links -/

/-- A walk that is not given up for its number of links is the same with more of them. -/
theorem walk_of_more {more : Nat} (le : links ≤ more)
    (ends : fs.walk links place path ≠ .failed .tooManyLinks) :
    fs.walk more place path = fs.walk links place path := by
  induction links, place, path using walk_induction generalizing more with
  | nil links place => rw [walk_nil, walk_nil]
  | cons links place step rest shorter fewer =>
      rw [walk_cons] at ends
      rw [walk_cons fs more, walk_cons fs links]
      by_cases dot : step = "."
      · rw [if_pos dot] at ends ⊢
        rw [if_pos dot]
        exact shorter place le ends
      by_cases up : step = ".."
      · rw [if_neg dot, if_pos up] at ends ⊢
        rw [if_neg dot, if_pos up]
        exact shorter place.dropLast le ends
      by_cases long : step.utf8ByteSize > maxNameBytes
      · simp only [dot, up, long, if_true, if_false]
      simp only [dot, up, long, if_false] at ends ⊢
      rcases entry : fs.node? (place ++ [step]) with - | (- | content | target)
      · rfl
      · simp only [entry] at ends ⊢
        exact shorter (place ++ [step]) le ends
      · rfl
      · -- Where no link is left to follow, the walk is given up.
        simp only [entry] at ends ⊢
        cases links with
        | zero => exact absurd rfl ends
        | succ links =>
            cases more with
            | zero => exact absurd le (Nat.not_succ_le_zero links)
            | succ more =>
                exact fewer links _ _ (Nat.lt_succ_self links) (Nat.le_of_succ_le_succ le) ends

/-- A walk that passes a folder goes on from it. -/
theorem Leads.walk_append {front : List String}
    (leads : fs.Leads links place front (.found reached))
    (folder : fs.node? reached = some .directory) :
    ∃ left, left ≤ links ∧
      ∀ back, fs.walk links place (front ++ back) = fs.walk left reached back := by
  generalize found : Walk.found reached = result at leads
  induction leads with
  | here => 
      cases found
      exact ⟨_, Nat.le_refl _, fun _ => rfl⟩
  | dot _ ih =>
      obtain ⟨left, le, rest⟩ := ih found
      refine ⟨left, le, fun back => ?_⟩
      rw [List.cons_append, walk_cons, if_pos rfl, rest]
  | up _ ih =>
      obtain ⟨left, le, rest⟩ := ih found
      refine ⟨left, le, fun back => ?_⟩
      rw [List.cons_append, walk_cons, if_neg (by decide), if_pos rfl, rest]
  | folder name entry _ ih =>
      obtain ⟨left, le, rest⟩ := ih found
      refine ⟨left, le, fun back => ?_⟩
      rw [List.cons_append, walk_cons, if_neg name.ne_dot, if_neg name.ne_up,
        if_neg (Nat.not_lt.2 name.short), entry]
      exact rest back
  | file name entry =>
      cases found
      rw [entry] at folder
      cases folder
  | missing => cases found
  | link name entry _ ih =>
      obtain ⟨left, le, rest⟩ := ih found
      refine ⟨left, Nat.le_succ_of_le le, fun back => ?_⟩
      rw [List.cons_append, walk_cons, if_neg name.ne_dot, if_neg name.ne_up,
        if_neg (Nat.not_lt.2 name.short), entry]
      have whole := rest back
      rw [List.append_assoc] at whole
      exact whole

/-! ## Real places -/

/-- What a place is at which a walk ends: a folder, or a file in one. -/
inductive IsReal (fs : FileSystem) : Location → Prop
  | folder {place : Location} : fs.Stands place → IsReal fs place
  | file {outer : Location} {name content : String} : fs.Stands outer → IsEntryName name →
      fs.node? (outer ++ [name]) = some (.file content) → IsReal fs (outer ++ [name])

theorem Stands.isFolder (stands : fs.Stands place) : fs.node? place = some .directory := by
  rcases List.eq_nil_or_concat place with rfl | ⟨init, last, rfl⟩
  · rfl
  · rw [List.concat_eq_append] at stands ⊢
    exact (stands init last [] rfl).2

theorem Stands.concat (stands : fs.Stands place) {name : String} (isName : IsEntryName name)
    (entry : fs.node? (place ++ [name]) = some .directory) : fs.Stands (place ++ [name]) := by
  intro front other back eq
  rcases List.eq_nil_or_concat back with rfl | ⟨init, last, rfl⟩
  · obtain ⟨rfl, same⟩ := List.append_inj' eq rfl
    cases same
    exact ⟨isName, entry⟩
  · rw [List.concat_eq_append, ← List.cons_append, ← List.append_assoc] at eq
    exact stands front other init (List.append_inj' eq rfl).1

/-- Walks end at real places. -/
theorem Leads.isReal (leads : fs.Leads links place path (.found reached))
    (stands : fs.Stands place) : fs.IsReal reached := by
  generalize found : Walk.found reached = result at leads
  induction leads with
  | here =>
      cases found
      exact .folder stands
  | dot _ ih => exact ih stands found
  | up _ ih => exact ih stands.dropLast found
  | folder name entry _ ih => exact ih (stands.concat name entry) found
  | file name entry =>
      cases found
      exact .file stands name entry
  | missing => cases found
  | link _ _ _ ih => exact ih (stands.startOf _) found

/-- No link stands on the way from the root to a real place. -/
theorem IsReal.leads (real : fs.IsReal place) (links : Nat) :
    fs.Leads links [] place (.found place) := by
  cases real with
  | folder stands =>
      have walk := @leads_append_iff_of_stands fs links place [] [] (.found place) stands
      rw [List.append_nil] at walk
      exact walk.2 .here
  | file stands name entry => exact (leads_append_iff_of_stands stands).2 (.file name entry)

/-- Of a real place, every part is real. -/
theorem IsReal.leads_step {name : String} {rest : List String}
    (real : fs.IsReal (place ++ name :: rest)) (links : Nat) :
    fs.Leads links place [name] (.found (place ++ [name])) := by
  generalize whole : place ++ name :: rest = below at real
  cases real with
  | folder stands =>
      obtain ⟨isName, entry⟩ := stands place name rest whole.symm
      exact .folder isName entry .here
  | @file outer last content stands isName entry =>
      rcases List.eq_nil_or_concat rest with rfl | ⟨init, other, rfl⟩
      · obtain ⟨rfl, same⟩ := List.append_inj' whole rfl
        cases same
        exact .file isName entry
      · rw [List.concat_eq_append, ← List.cons_append, ← List.append_assoc] at whole
        obtain ⟨isName, entry⟩ := stands place name init (List.append_inj' whole rfl).1.symm
        exact .folder isName entry .here

/-- A real place that a walk goes on from is a folder. -/
theorem IsReal.stands_of_leads {name : String} {rest : List String} (real : fs.IsReal place)
    (leads : fs.Leads links [] (place ++ name :: rest) (.found reached)) : fs.Stands place := by
  cases real with
  | folder stands => exact stands
  | @file outer last content stands isName entry =>
      rw [List.append_assoc] at leads
      have walk := (leads_append_iff_of_stands stands).1 leads
      generalize rest' : [last] ++ name :: rest = path at walk
      cases walk with
      | here => cases rest'
      | dot => exact absurd (List.cons.inj rest').1 isName.ne_dot
      | up => exact absurd (List.cons.inj rest').1 isName.ne_up
      | folder _ other =>
          obtain ⟨rfl, -⟩ := List.cons.inj rest'
          simp [entry] at other
      | file => simp at rest'
      | link _ other =>
          obtain ⟨rfl, -⟩ := List.cons.inj rest'
          simp [entry] at other

/-! ## Names of real places -/

theorem noSlash_of_mem_steps {path step : String} (member : step ∈ steps path) :
    '/' ∉ step.toList := by
  rcases List.mem_append.1 member with name | dot
  · exact Path.noSlash_of_mem_segments (List.mem_filter.1 name).1
  · split at dot
    · cases List.mem_singleton.1 dot
      decide
    · cases dot

/-- The steps can stand between the slashes of a path. -/
def Spelled (path : List String) : Prop := ∀ step ∈ path, step ≠ "" ∧ '/' ∉ step.toList

theorem spelled_steps (path : String) : Spelled (steps path) :=
  fun _ member => ⟨steps_nonempty member, noSlash_of_mem_steps member⟩

theorem IsEntryName.isName_concat {step : String} (name : IsEntryName step)
    (spelled : step ≠ "" ∧ '/' ∉ step.toList) (isName : ∀ part ∈ place, Path.IsName part) :
    ∀ part ∈ place ++ [step], Path.IsName part := by
  intro part member
  rcases List.mem_append.1 member with outer | here
  · exact isName part outer
  · rw [List.mem_singleton.1 here]
    exact ⟨spelled.1, name.ne_dot, name.ne_up, spelled.2⟩

/-- Walks along steps of paths end at places with names. -/
theorem Leads.isName (leads : fs.Leads links place path (.found reached))
    (isName : ∀ part ∈ place, Path.IsName part) (spelled : Spelled path) :
    ∀ part ∈ reached, Path.IsName part := by
  generalize found : Walk.found reached = result at leads
  induction leads with
  | here =>
      cases found
      exact isName
  | dot _ ih => exact ih isName (List.forall_mem_cons.1 spelled).2 found
  | up _ ih =>
      exact ih (fun part member => isName part (List.dropLast_subset _ member))
        (List.forall_mem_cons.1 spelled).2 found
  | folder name _ _ ih =>
      obtain ⟨here, later⟩ := List.forall_mem_cons.1 spelled
      exact ih (name.isName_concat here isName) later found
  | file name _ =>
      cases found
      exact name.isName_concat (List.forall_mem_cons.1 spelled).1 isName
  | missing => cases found
  | link _ _ _ ih =>
      refine ih ?_ ?_ found
      · unfold startOf
        split
        · nofun
        · exact isName
      · exact List.forall_mem_append.2 ⟨spelled_steps _, (List.forall_mem_cons.1 spelled).2⟩

end BridgeCode.FileSystem
