import BridgeCode.Emit.Buffer
import BridgeCode.Proofs.Text.Utf16

/-!
The portions in which a buffer hands texts on.

* `Buffer.Carries`: the texts that were handed on, in groups of which each is one portion, followed
  by those still held are the texts that were written. Every write keeps this (`Carries.write`), so
  any number of writes does (`Carries.foldl_write`).
* `Buffer.output_groups`: in the end all texts have been handed on, none lost, repeated or moved, and
  none divided between two portions.
-/

namespace BridgeCode

namespace Buffer

/-- The texts were written to the buffer: the first of them were handed on in portions of one or
more texts, and the others are held. -/
structure Orders (texts : List Text.Raw) (buffer : Buffer) : Prop where
  inOrder : ∃ groups : List (List Text.Raw), buffer.portions = groups.map List.flatten ∧
    texts = groups.flatten ++ buffer.held.reverse

/-- Besides, what is held is shorter than the threshold. -/
structure Carries (texts : List Text.Raw) (buffer : Buffer) : Prop extends Orders texts buffer where
  size_eq : buffer.size = buffer.held.reverse.flatten.length
  size_lt : buffer.size < threshold

variable {texts : List Text.Raw} {buffer : Buffer}

theorem flush_of_empty (empty : buffer.held = []) : buffer.flush = buffer := by
  rw [flush, if_pos (by simp [empty])]

theorem flush_of_held (nonempty : buffer.held ≠ []) :
    buffer.flush = { portions := buffer.portions ++ [buffer.held.reverse.flatten] } := by
  rw [flush, if_neg (by simpa using nonempty)]

/-- Below the threshold a text is held. -/
theorem write_of_short {text : Text.Raw} (short : buffer.size + text.length < threshold) :
    buffer.write text =
      { buffer with held := text :: buffer.held, size := buffer.size + text.length } := by
  rw [Buffer.write]
  exact if_neg (Nat.not_le_of_lt short)

/-- With the text that reaches the threshold all that is held is handed on. -/
theorem write_of_reached {text : Text.Raw} (reached : threshold ≤ buffer.size + text.length) :
    buffer.write text =
      { portions := buffer.portions ++ [(text :: buffer.held).reverse.flatten] } := by
  rw [Buffer.write]
  exact (if_pos reached).trans (flush_of_held (List.cons_ne_nil _ _))

/-- Once what is held has been handed on, all texts have been. -/
theorem Orders.flush_portions (orders : Orders texts buffer) :
    ∃ groups : List (List Text.Raw), buffer.flush.portions = groups.map List.flatten ∧
      texts = groups.flatten := by
  obtain ⟨groups, handed, rfl⟩ := orders.inOrder
  by_cases empty : buffer.held = []
  · exact ⟨groups, by rw [flush_of_empty empty, handed], by simp [empty]⟩
  · refine ⟨groups ++ [buffer.held.reverse], ?_, by simp⟩
    rw [flush_of_held empty, handed, List.map_append, List.map_singleton]

theorem Orders.flush (orders : Orders texts buffer) (nonempty : buffer.held ≠ []) :
    Carries texts buffer.flush := by
  obtain ⟨groups, handed, whole⟩ := orders.flush_portions
  rw [flush_of_held nonempty] at handed ⊢
  exact ⟨⟨groups, handed, by rw [whole, List.reverse_nil, List.append_nil]⟩, rfl,
    Nat.zero_lt_succ _⟩

theorem Carries.empty : Carries [] {} where
  inOrder := ⟨[], rfl, rfl⟩
  size_eq := rfl
  size_lt := Nat.zero_lt_succ _

theorem Carries.write (carries : Carries texts buffer) (text : Text.Raw) :
    Carries (texts ++ [text]) (buffer.write text) := by
  obtain ⟨⟨groups, handed, rfl⟩, size_eq, -⟩ := carries
  have orders : Orders (groups.flatten ++ buffer.held.reverse ++ [text])
      { buffer with held := text :: buffer.held, size := buffer.size + text.length } :=
    ⟨groups, handed, by rw [List.reverse_cons, List.append_assoc]⟩
  rcases Nat.lt_or_ge (buffer.size + text.length) threshold with short | reached
  · rw [write_of_short short]
    refine ⟨orders, ?_, short⟩
    rw [List.reverse_cons, List.flatten_append, List.length_append, List.flatten_singleton, size_eq]
  · have flushed := orders.flush (List.cons_ne_nil _ _)
    rw [flush_of_held (List.cons_ne_nil _ _)] at flushed
    rw [write_of_reached reached]
    exact flushed

/-- However the lengths of the texts and the threshold are related, no text is lost, repeated or
moved. -/
theorem Carries.foldl_write (carries : Carries texts buffer) (more : List Text.Raw) :
    Carries (texts ++ more) (more.foldl Buffer.write buffer) := by
  induction more generalizing texts buffer with
  | nil =>
      rw [List.append_nil]
      exact carries
  | cons text more ih =>
      have step := ih (carries.write text)
      rw [List.append_assoc] at step
      exact step

/-- Every portion consists of whole texts, and together they are all texts in their order. -/
theorem output_groups (texts : List Text.Raw) :
    ∃ groups : List (List Text.Raw), output texts = groups.map List.flatten ∧
      texts = groups.flatten :=
  (Carries.empty.foldl_write texts).flush_portions

theorem flatten_output (texts : List Text.Raw) : (output texts).flatten = texts.flatten := by
  obtain ⟨groups, portions, whole⟩ := output_groups texts
  rw [portions, whole, List.flatten_flatten]

theorem foldl_write_of_short {more : List Text.Raw}
    (short : buffer.size + more.flatten.length < threshold) :
    (more.foldl Buffer.write buffer).portions = buffer.portions := by
  induction more generalizing buffer with
  | nil => rfl
  | cons text more ih =>
      rw [List.flatten_cons, List.length_append] at short
      rw [List.foldl_cons, write_of_short (by omega)]
      exact ih (by dsimp only; omega)

/-- Texts that stay below the threshold together are one portion. -/
theorem not_splitsPair_output_of_short (short : texts.flatten.length < threshold) :
    ¬ Text.SplitsPair (output texts) := by
  have handed := @foldl_write_of_short {} texts (by simpa using short)
  by_cases empty : (texts.foldl Buffer.write {}).held = []
  · rw [output, flush_of_empty empty, handed]
    exact id
  · rw [output, flush_of_held empty, handed]
    rintro (parts | none)
    · exact Text.not_partsPair_nil_right _ parts
    · exact none

/-- Texts that are well formed are handed on in portions that are well formed. -/
theorem wellFormed_output (formed : ∀ text ∈ texts, Text.WellFormed text) :
    ∀ portion ∈ output texts, Text.WellFormed portion := by
  obtain ⟨groups, portions, rfl⟩ := output_groups texts
  rw [portions]
  rintro portion member
  obtain ⟨group, inGroups, rfl⟩ := List.mem_map.1 member
  exact .flatten fun text inGroup => formed text (List.mem_flatten_of_mem inGroups inGroup)

/-- The portions say what the texts say in one piece, exactly if no character is split between two
portions. -/
theorem join_decode_output_iff (texts : List Text.Raw) :
    String.join ((output texts).map Text.decode) = Text.decode texts.flatten ↔
      ¬ Text.SplitsPair (output texts) := by
  rw [← flatten_output texts]
  exact Text.join_decode_eq_iff _

/-- So they do if every text is well formed. -/
theorem join_decode_output (formed : ∀ text ∈ texts, Text.WellFormed text) :
    String.join ((output texts).map Text.decode) = Text.decode texts.flatten :=
  (join_decode_output_iff texts).2 (Text.not_splitsPair_of_wellFormed (wellFormed_output formed))

end Buffer

end BridgeCode
