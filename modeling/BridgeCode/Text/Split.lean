/-!
Taking text apart at a separator, and off its end.
-/

namespace BridgeCode.Text

/-- The parts of a text between separators; a text without one is its own single part. -/
def splitOn (sep : Char) : List Char → List (List Char)
  | [] => [[]]
  | c :: rest =>
    if c = sep then [] :: splitOn sep rest
    else
      match splitOn sep rest with
      | [] => [[c]]
      | part :: parts => (c :: part) :: parts

/-- The parts of a text between two separator characters in a row, found from the left. -/
def splitOnPair (sep : Char) : List Char → List (List Char)
  | [] => [[]]
  | [c] => [[c]]
  | c :: d :: rest =>
    if c = sep ∧ d = sep then [] :: splitOnPair sep rest
    else
      match splitOnPair sep (d :: rest) with
      | [] => [[c]]
      | part :: parts => (c :: part) :: parts

/-- What stands before a suffix, if the text ends with it. -/
def stripSuffix? (suffix : List Char) : List Char → Option (List Char)
  | [] => if suffix.isEmpty then some [] else none
  | c :: rest =>
    if suffix = c :: rest then some [] else (stripSuffix? suffix rest).map (c :: ·)

/-- `stripSuffix?` finds exactly the text in front of the suffix. -/
theorem stripSuffix?_eq_some_iff {suffix text front : List Char} (nonempty : suffix ≠ []) :
    stripSuffix? suffix text = some front ↔ text = front ++ suffix := by
  induction text generalizing front with
  | nil =>
    constructor
    · intro h
      simp [stripSuffix?, nonempty] at h
    · intro h
      have := congrArg List.length h
      cases suffix with
      | nil => exact absurd rfl nonempty
      | cons => simp at this
  | cons c rest ih =>
    unfold stripSuffix?
    split
    next h =>
      subst h
      constructor
      · intro h
        cases h
        rfl
      · intro h
        have := congrArg List.length h
        simp only [List.length_append] at this
        have : front = [] := List.eq_nil_of_length_eq_zero (by omega)
        rw [this]
    next h =>
      cases front with
      | nil =>
        constructor
        · intro h'
          simp [Option.map_eq_some_iff] at h'
        · intro h'
          exact absurd h'.symm h
      | cons d front =>
        simp only [Option.map_eq_some_iff, List.cons.injEq, List.cons_append]
        constructor
        · rintro ⟨a, ha, rfl, rfl⟩
          exact ⟨rfl, ih.1 ha⟩
        · rintro ⟨rfl, hr⟩
          exact ⟨front, ih.2 hr, rfl, rfl⟩

end BridgeCode.Text
