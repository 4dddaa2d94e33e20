import BridgeCode.Text.Split

/-!
Parts of a text between separators.

`Text.splitOn` is the library's splitting of lists (`splitOn_eq`). It takes out the separators and
nothing else (`flatten_splitOn`), so no part has one in it (`mem_of_mem_splitOn`).
-/

namespace BridgeCode.Text

theorem splitOn_eq (sep : Char) (cs : List Char) : Text.splitOn sep cs = cs.splitOn sep := by
  induction cs with
  | nil => rfl
  | cons c rest ih =>
      rw [Text.splitOn, List.splitOn_cons_eq_if_modifyHead, ih]
      by_cases same : c = sep
      · simp [same]
      · simp only [same, if_false, beq_iff_eq]
        obtain ⟨part, parts, split⟩ :=
          List.exists_cons_of_ne_nil (List.splitOn_ne_nil sep rest)
        rw [split]
        rfl

theorem flatten_splitOn (sep : Char) (text : List Char) :
    (splitOn sep text).flatten = text.filter (· ≠ sep) := by
  induction text with
  | nil => rfl
  | cons c rest ih =>
      rw [splitOn]
      by_cases same : c = sep
      · rw [if_pos same, List.flatten_cons, ih, List.filter_cons_of_neg (by simpa using same)]
        rfl
      · rw [if_neg same, List.filter_cons_of_pos (by simpa using same), ← ih]
        cases splitOn sep rest <;> rfl

theorem mem_of_mem_splitOn {sep c : Char} {text part : List Char} (member : part ∈ splitOn sep text)
    (inside : c ∈ part) : c ∈ text ∧ c ≠ sep := by
  have flat : c ∈ (splitOn sep text).flatten := List.mem_flatten.2 ⟨part, member, inside⟩
  rw [flatten_splitOn, List.mem_filter] at flat
  exact flat.imp_right of_decide_eq_true

end BridgeCode.Text
