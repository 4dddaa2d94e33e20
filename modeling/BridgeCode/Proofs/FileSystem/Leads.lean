import BridgeCode.FileSystem.Edit

/-!
Walks that arrive.

`FileSystem.walk` computes where steps lead with an outer recursion on the links that may still be
followed and an inner one on the steps. `Leads` is the same walk as a relation with one rule for
each kind of step, so that a fact about walks is one induction. Only walks that arrive are in it:
at something that exists (`Walk.found`) or at a free name in a folder (`Walk.absent`).

* `walk_eq_found_iff`, `walk_eq_absent_iff`: the relation and the function agree.
* `Leads.unappend`: a walk along `front ++ back` arrives at something along `front` and goes on
  from there.
* `leads_append_iff_of_stands`: a walk from a folder is the walk from the root along its location.
-/

namespace BridgeCode

/-- The place at which a walk arrives, be it taken or free. -/
def Walk.place? : Walk → Option Location
  | .found place => some place
  | .absent folder name => some (folder ++ [name])
  | .failed _ => none

namespace FileSystem

/-- A step that asks for an entry of the folder it is taken in. -/
structure IsEntryName (step : String) : Prop where
  ne_dot : step ≠ "."
  ne_up : step ≠ ".."
  short : step.utf8ByteSize ≤ maxNameBytes

/-- Steps from a folder lead to a result, with at most `links` links followed. -/
inductive Leads (fs : FileSystem) : Nat → Location → List String → Walk → Prop
  | here {links place} : Leads fs links place [] (.found place)
  | dot {links place rest result} :
      Leads fs links place rest result → Leads fs links place ("." :: rest) result
  | up {links place rest result} :
      Leads fs links place.dropLast rest result → Leads fs links place (".." :: rest) result
  | folder {links place step rest result} :
      IsEntryName step → fs.node? (place ++ [step]) = some .directory →
      Leads fs links (place ++ [step]) rest result →
      Leads fs links place (step :: rest) result
  | file {links place step content} :
      IsEntryName step → fs.node? (place ++ [step]) = some (.file content) →
      Leads fs links place [step] (.found (place ++ [step]))
  | missing {links place step} :
      IsEntryName step → fs.node? (place ++ [step]) = none →
      Leads fs links place [step] (.absent place step)
  | link {links place step target rest result} :
      IsEntryName step → fs.node? (place ++ [step]) = some (.link target) →
      Leads fs links (startOf place target) (steps target ++ rest) result →
      Leads fs (links + 1) place (step :: rest) result

/-! ## The relation is the function -/

/-- One step of a walk, whatever the number of links left. -/
theorem walk_cons (fs : FileSystem) (links : Nat) (place : Location) (step : String)
    (rest : List String) :
    fs.walk links place (step :: rest) =
      if step = "." then fs.walk links place rest
      else if step = ".." then fs.walk links place.dropLast rest
      else if step.utf8ByteSize > maxNameBytes then .failed .nameTooLong
      else
        match fs.node? (place ++ [step]) with
        | none => if rest.isEmpty then .absent place step else .failed .noEntry
        | some .directory => fs.walk links (place ++ [step]) rest
        | some (.file _) =>
          if rest.isEmpty then .found (place ++ [step]) else .failed .notDirectory
        | some (.link target) =>
          match links with
          | 0 => .failed .tooManyLinks
          | links + 1 => fs.walk links (startOf place target) (steps target ++ rest) := by
  cases links <;> rfl

theorem walk_nil (fs : FileSystem) (links : Nat) (place : Location) :
    fs.walk links place [] = .found place := by
  cases links <;> rfl

/-- Induction along a walk: a shorter walk with the same links left, or any walk with fewer. -/
theorem walk_induction {motive : Nat → Location → List String → Prop}
    (nil : ∀ links place, motive links place [])
    (cons : ∀ links place step rest, (∀ place', motive links place' rest) →
      (∀ fewer place' steps', fewer < links → motive fewer place' steps') →
      motive links place (step :: rest))
    (links : Nat) (place : Location) (steps : List String) : motive links place steps := by
  induction links using Nat.strongRecOn generalizing place steps with
  | _ links fewer =>
      induction steps generalizing place with
      | nil => exact nil links place
      | cons step rest shorter =>
          exact cons links place step rest shorter
            fun less place' steps' lt => fewer less lt place' steps'

/-- A walk that arrives is in the relation. -/
theorem leads_of_walk (fs : FileSystem) (links : Nat) (place : Location) (path : List String)
    (arrives : ∀ error, fs.walk links place path ≠ .failed error) :
    fs.Leads links place path (fs.walk links place path) := by
  induction links, place, path using walk_induction with
  | nil links place =>
      rw [walk_nil]
      exact .here
  | cons links place step rest shorter fewer =>
      rw [walk_cons] at arrives ⊢
      by_cases dot : step = "."
      · subst dot
        simp only [if_true] at arrives ⊢
        exact .dot (shorter _ arrives)
      by_cases up : step = ".."
      · subst up
        simp only [dot, if_true, if_false] at arrives ⊢
        exact .up (shorter _ arrives)
      by_cases long : step.utf8ByteSize > maxNameBytes
      · simp only [dot, up, long, if_true, if_false] at arrives
        exact absurd rfl (arrives .nameTooLong)
      have name : IsEntryName step := ⟨dot, up, Nat.le_of_not_lt long⟩
      simp only [dot, up, long, if_false] at arrives ⊢
      -- What stands under the name decides which rule applies.
      rcases entry : fs.node? (place ++ [step]) with - | (- | content | target)
      · simp only [entry] at arrives ⊢
        cases rest with
        | nil => exact .missing name entry
        | cons next rest => exact absurd rfl (arrives .noEntry)
      · simp only [entry] at arrives ⊢
        exact .folder name entry (shorter _ arrives)
      · simp only [entry] at arrives ⊢
        cases rest with
        | nil => exact .file name entry
        | cons next rest => exact absurd rfl (arrives .notDirectory)
      · simp only [entry] at arrives ⊢
        cases links with
        | zero => exact absurd rfl (arrives .tooManyLinks)
        | succ links => exact .link name entry (fewer _ _ _ (Nat.lt_succ_self _) arrives)

/-- What the relation holds of is what the walk computes. -/
theorem Leads.walk_eq {fs : FileSystem} {links : Nat} {place : Location} {path : List String}
    {result : Walk} (leads : fs.Leads links place path result) :
    fs.walk links place path = result := by
  induction leads with
  | here => exact walk_nil _ _ _
  | dot _ ih =>
      rw [walk_cons, if_pos rfl]
      exact ih
  | up _ ih =>
      rw [walk_cons, if_neg (by decide), if_pos rfl]
      exact ih
  | folder name entry _ ih =>
      rw [walk_cons, if_neg name.ne_dot, if_neg name.ne_up, if_neg (Nat.not_lt.2 name.short), entry]
      exact ih
  | file name entry =>
      rw [walk_cons, if_neg name.ne_dot, if_neg name.ne_up, if_neg (Nat.not_lt.2 name.short), entry]
      rfl
  | missing name entry =>
      rw [walk_cons, if_neg name.ne_dot, if_neg name.ne_up, if_neg (Nat.not_lt.2 name.short), entry]
      rfl
  | link name entry _ ih =>
      rw [walk_cons, if_neg name.ne_dot, if_neg name.ne_up, if_neg (Nat.not_lt.2 name.short), entry]
      exact ih

theorem walk_eq_found_iff {fs : FileSystem} {links : Nat} {place reached : Location}
    {path : List String} :
    fs.walk links place path = .found reached ↔ fs.Leads links place path (.found reached) := by
  refine ⟨fun found => ?_, Leads.walk_eq⟩
  rw [← found]
  exact leads_of_walk fs links place path fun error failed => by simp [found] at failed

theorem walk_eq_absent_iff {fs : FileSystem} {links : Nat} {place folder : Location}
    {name : String} {path : List String} :
    fs.walk links place path = .absent folder name ↔
      fs.Leads links place path (.absent folder name) := by
  refine ⟨fun absent => ?_, Leads.walk_eq⟩
  rw [← absent]
  exact leads_of_walk fs links place path fun error failed => by simp [absent] at failed

/-! ## Walks in two parts -/

/-- A walk along `front ++ back` passes the place to which `front` leads. -/
theorem Leads.unappend {fs : FileSystem} {links : Nat} {place : Location}
    {front back : List String} {result : Walk} (more : back ≠ [])
    (leads : fs.Leads links place (front ++ back) result) :
    ∃ left middle, left ≤ links ∧ fs.Leads links place front (.found middle) ∧
      fs.Leads left middle back result := by
  generalize whole : front ++ back = path at leads
  induction leads generalizing front with
  | here => exact absurd (List.append_eq_nil_iff.1 whole).2 more
  | @dot links place rest result walk ih =>
      rcases List.append_eq_cons_iff.1 whole with ⟨rfl, rfl⟩ | ⟨front', rfl, rfl⟩
      · exact ⟨links, place, Nat.le_refl _, .here, .dot walk⟩
      · obtain ⟨left, middle, le, first, last⟩ := ih rfl
        exact ⟨left, middle, le, .dot first, last⟩
  | @up links place rest result walk ih =>
      rcases List.append_eq_cons_iff.1 whole with ⟨rfl, rfl⟩ | ⟨front', rfl, rfl⟩
      · exact ⟨links, place, Nat.le_refl _, .here, .up walk⟩
      · obtain ⟨left, middle, le, first, last⟩ := ih rfl
        exact ⟨left, middle, le, .up first, last⟩
  | @folder links place step rest result name entry walk ih =>
      rcases List.append_eq_cons_iff.1 whole with ⟨rfl, rfl⟩ | ⟨front', rfl, rfl⟩
      · exact ⟨links, place, Nat.le_refl _, .here, .folder name entry walk⟩
      · obtain ⟨left, middle, le, first, last⟩ := ih rfl
        exact ⟨left, middle, le, .folder name entry first, last⟩
  | @file links place step content name entry =>
      rcases List.append_eq_cons_iff.1 whole with ⟨rfl, rfl⟩ | ⟨front', rfl, empty⟩
      · exact ⟨links, place, Nat.le_refl _, .here, .file name entry⟩
      · exact absurd (List.append_eq_nil_iff.1 empty.symm).2 more
  | @missing links place step name entry =>
      rcases List.append_eq_cons_iff.1 whole with ⟨rfl, rfl⟩ | ⟨front', rfl, empty⟩
      · exact ⟨links, place, Nat.le_refl _, .here, .missing name entry⟩
      · exact absurd (List.append_eq_nil_iff.1 empty.symm).2 more
  | @link links place step target rest result name entry walk ih =>
      rcases List.append_eq_cons_iff.1 whole with ⟨rfl, rfl⟩ | ⟨front', rfl, rfl⟩
      · exact ⟨links + 1, place, Nat.le_refl _, .here, .link name entry walk⟩
      · -- The target's steps join the front part.
        obtain ⟨left, middle, le, first, last⟩ := ih (List.append_assoc _ _ _)
        exact ⟨left, middle, Nat.le_succ_of_le le, .link name entry first, last⟩

/-- Every part of a location is a folder, each under a name that a step can ask for. -/
def Stands (fs : FileSystem) (place : Location) : Prop :=
  ∀ front name back, place = front ++ name :: back →
    IsEntryName name ∧ fs.node? (front ++ [name]) = some .directory

/-- A walk from a folder is the walk from the root that passes it. -/
theorem leads_append_iff_of_stands {fs : FileSystem} {links : Nat} {base outer : Location}
    {path : List String} {result : Walk} (stands : fs.Stands (outer ++ base)) :
    fs.Leads links outer (base ++ path) result ↔ fs.Leads links (outer ++ base) path result := by
  induction base generalizing outer with
  | nil => rw [List.nil_append, List.append_nil]
  | cons name base ih =>
      obtain ⟨entryName, entry⟩ := stands outer name base rfl
      have shifted : outer ++ name :: base = (outer ++ [name]) ++ base := by simp
      rw [shifted] at stands ⊢
      rw [← ih stands]
      refine ⟨fun leads => ?_, fun leads => .folder entryName entry leads⟩
      rw [List.cons_append] at leads
      generalize base ++ path = rest at leads ⊢
      cases leads with
      | dot => exact absurd rfl entryName.ne_dot
      | up => exact absurd rfl entryName.ne_up
      | folder _ _ walk => exact walk
      | file _ other => simp [entry] at other
      | missing _ other => simp [entry] at other
      | link _ other => simp [entry] at other

/-! ## Where walks arrive -/

/-- A name that a walk finds free is free. -/
theorem Leads.absent_free {fs : FileSystem} {links : Nat} {place folder : Location}
    {path : List String} {name : String}
    (leads : fs.Leads links place path (.absent folder name)) :
    fs.node? (folder ++ [name]) = none := by
  generalize absent : Walk.absent folder name = result at leads
  induction leads with
  | here => cases absent
  | dot _ ih => exact ih absent
  | up _ ih => exact ih absent
  | folder _ _ _ ih => exact ih absent
  | file => cases absent
  | missing _ entry =>
      cases absent
      exact entry
  | link _ _ _ ih => exact ih absent

end FileSystem

end BridgeCode
