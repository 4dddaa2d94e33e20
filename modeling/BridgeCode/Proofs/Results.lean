import Mathlib.Data.List.Forall2

/-!
Results that can be errors, taken apart.

A sequence of parts succeeds if every part does, and fails with the error of one of them. The same
is said of a list of parts in a row.
-/

namespace BridgeCode

variable {ε α β : Type} {error : ε}

/-! ## Sequences -/

/-- What a sequence returns, its last part returned after the first succeeded. -/
theorem exists_ok_of_bind {first : Except ε α} {next : α → Except ε β} {result : β}
    (ran : first >>= next = .ok result) : ∃ value, first = .ok value ∧ next value = .ok result := by
  cases first with
  | error error => cases ran
  | ok value => exact ⟨value, rfl, ran⟩

/-- What a sequence fails with, one of its parts failed with. -/
theorem error_cases_of_bind {first : Except ε α} {next : α → Except ε β}
    (failed : first >>= next = .error error) :
    first = .error error ∨ ∃ value, first = .ok value ∧ next value = .error error := by
  cases first with
  | error _ =>
      cases failed
      exact .inl rfl
  | ok value => exact .inr ⟨value, rfl, failed⟩

theorem exists_ok_of_map {first : Except ε α} {change : α → β} {result : β}
    (ran : first.map change = .ok result) : ∃ value, first = .ok value ∧ change value = result := by
  cases first with
  | error error => cases ran
  | ok value => exact ⟨value, rfl, Except.ok.inj ran⟩

theorem error_of_map {first : Except ε α} {change : α → β}
    (failed : first.map change = .error error) : first = .error error := by
  cases first with
  | error _ =>
      cases failed
      rfl
  | ok _ => cases failed

/-! ## Lists -/

/-- Results of a list in order, each of its own item. -/
theorem forall₂_of_mapM {R : α → β → Prop} {action : α → Except ε β} {items : List α}
    {results : List β} (each : ∀ {item result}, action item = .ok result → R item result)
    (ran : items.mapM action = .ok results) : List.Forall₂ R items results := by
  induction items generalizing results with
  | nil =>
      cases ran
      exact .nil
  | cons item items ih =>
      rw [List.mapM_cons] at ran
      obtain ⟨first, ranFirst, ran⟩ := exists_ok_of_bind ran
      obtain ⟨rest, ranRest, made⟩ := exists_ok_of_bind ran
      cases made
      exact .cons (each ranFirst) (ih ranRest)

/-- If all parts succeed, each does. -/
theorem ok_of_mem_mapM {action : α → Except ε β} {items : List α} {results : List β}
    (ran : items.mapM action = .ok results) {item : α} (member : item ∈ items) :
    ∃ result ∈ results, action item = .ok result := by
  have each : List.Forall₂ (fun item result => action item = .ok result) items results :=
    forall₂_of_mapM id ran
  clear ran
  induction each with
  | nil => cases member
  | cons same _ ih =>
      rcases List.mem_cons.1 member with rfl | later
      · exact ⟨_, List.mem_cons_self, same⟩
      · obtain ⟨result, among, found⟩ := ih later
        exact ⟨result, List.mem_cons_of_mem _ among, found⟩

/-- If not all parts succeed, one of them has failed. -/
theorem error_of_mapM {action : α → Except ε β} {items : List α}
    (failed : items.mapM action = .error error) : ∃ item ∈ items, action item = .error error := by
  induction items with
  | nil => cases failed
  | cons first rest ih =>
      rw [List.mapM_cons] at failed
      rcases error_cases_of_bind failed with own | ⟨value, -, failed⟩
      · exact ⟨first, List.mem_cons_self, own⟩
      rcases error_cases_of_bind failed with others | ⟨values, -, made⟩
      · obtain ⟨item, later, found⟩ := ih others
        exact ⟨item, List.mem_cons_of_mem _ later, found⟩
      · cases made

end BridgeCode
