import Mathlib.Data.List.SplitBy
import BridgeCode.Render.DocComment

/-!
The words of a text.

A text falls into pieces: its longest runs of word characters, and every other character alone
(`pieces`). What is done to a text word by word (`Wordwise`) is done to its pieces one by one
(`Wordwise.eq_flatMap`), and as characters between words stay, no piece of the result reaches over
the result of one piece (`Wordwise.pieces_eq`). Replacing one word is of this kind, and it replaces
the pieces that are the word (`replaceWord_eq_flatMap`).
-/

namespace BridgeCode.Render

/-- Whether two characters in a row belong to one word. -/
def sameWord (c d : Char) : Bool := isWordChar c && isWordChar d

/-- The longest runs of word characters in a text, and every other character alone. -/
def pieces (text : List Char) : List (List Char) := text.splitBy sameWord

/-- All characters of the text belong to words. -/
def WordChars (text : List Char) : Prop := ∀ c ∈ text, isWordChar c = true

/-- The text is one word. -/
structure IsWord (text : List Char) : Prop where
  nonempty : text ≠ []
  chars : WordChars text

instance (text : List Char) : Decidable (WordChars text) :=
  List.decidableBAll (isWordChar · = true) text

instance (text : List Char) : Decidable (IsWord text) :=
  decidable_of_iff (text ≠ [] ∧ WordChars text)
    ⟨fun both => ⟨both.1, both.2⟩, fun word => ⟨word.nonempty, word.chars⟩⟩

/-! ## Pieces -/

@[simp]
theorem flatten_pieces (text : List Char) : (pieces text).flatten = text :=
  List.flatten_splitBy _ _

theorem flatMap_pieces (text : List Char) : ((pieces text).flatMap fun piece => piece) = text := by
  rw [List.flatMap_id', flatten_pieces]

theorem ne_nil_of_mem_pieces {text piece : List Char} (member : piece ∈ pieces text) :
    piece ≠ [] :=
  List.ne_nil_of_mem_splitBy member

/-- A word is its own only piece. -/
theorem IsWord.pieces_eq {word : List Char} (isWord : IsWord word) : pieces word = [word] := by
  refine List.splitBy_of_isChain isWord.nonempty (List.Pairwise.isChain ?_)
  refine List.pairwise_of_forall_mem_list fun c member d member' => ?_
  rw [sameWord, isWord.chars c member, isWord.chars d member', Bool.and_self]

/-- Word characters alone have no other piece. -/
theorem eq_of_mem_pieces {text piece : List Char} (chars : WordChars text)
    (member : piece ∈ pieces text) : piece = text := by
  by_cases empty : text = []
  · rw [empty] at member
    cases member
  · rwa [IsWord.pieces_eq ⟨empty, chars⟩, List.mem_singleton] at member

/-- A character between words is a piece alone, and texts on both sides fall apart. -/
theorem pieces_append_cons {c : Char} (between : isWordChar c = false) (front rest : List Char) :
    pieces (front ++ c :: rest) = pieces front ++ [c] :: pieces rest := by
  have before : (front ++ c :: rest).splitBy sameWord =
      front.splitBy sameWord ++ (c :: rest).splitBy sameWord :=
    List.splitBy_append_cons _ fun d _ => by rw [sameWord, between, Bool.and_false]
  have behind : ([c] ++ rest).splitBy sameWord = [c].splitBy sameWord ++ rest.splitBy sameWord := by
    refine List.splitBy_append fun d last e _ => ?_
    rw [Option.mem_def, List.getLast?_singleton, Option.some.injEq] at last
    rw [sameWord, ← last, between, Bool.false_and]
  exact before.trans (congrArg (front.splitBy sameWord ++ ·) behind)

/-- A character between words is its own only piece. -/
theorem pieces_singleton {c : Char} (between : isWordChar c = false) : pieces [c] = [[c]] :=
  pieces_append_cons between [] []

/-- Every text is word characters only, or word characters in front of a character between words
and a text. -/
theorem word_induction {motive : List Char → Prop}
    (word : ∀ run, WordChars run → motive run)
    (step : ∀ run c rest, WordChars run → isWordChar c = false → motive rest →
      motive (run ++ c :: rest)) (text : List Char) : motive text := by
  suffices ∀ run, WordChars run → motive (run ++ text) from this [] nofun
  induction text with
  | nil =>
      intro run chars
      rw [List.append_nil]
      exact word run chars
  | cons c rest ih =>
      intro run chars
      cases inside : isWordChar c with
      | true =>
          rw [← List.singleton_append, ← List.append_assoc]
          exact ih _ (List.forall_mem_append.2 ⟨chars, List.forall_mem_singleton.2 inside⟩)
      | false => exact step run c rest chars inside (ih [] nofun)

/-- A piece is a word or one character between words. -/
theorem cases_of_mem_pieces {text piece : List Char} (member : piece ∈ pieces text) :
    IsWord piece ∨ ∃ c, isWordChar c = false ∧ piece = [c] := by
  have word : ∀ run, WordChars run → piece ∈ pieces run → IsWord piece := fun run chars member =>
    ⟨ne_nil_of_mem_pieces member, eq_of_mem_pieces chars member ▸ chars⟩
  induction text using word_induction with
  | word run chars => exact .inl (word run chars member)
  | step run c rest chars between ih =>
      rw [pieces_append_cons between, List.mem_append, List.mem_cons] at member
      rcases member with member | rfl | member
      · exact .inl (word run chars member)
      · exact .inr ⟨c, between, rfl⟩
      · exact ih member

/-- A piece does not fall apart further. -/
theorem pieces_of_mem_pieces {text piece : List Char} (member : piece ∈ pieces text) :
    pieces piece = [piece] := by
  rcases cases_of_mem_pieces member with word | ⟨c, between, rfl⟩
  · exact word.pieces_eq
  · exact pieces_singleton between

/-- What falls apart at every character between words is put together from the pieces. -/
theorem eq_flatMap_pieces {α : Type} {f : List Char → List α} (nil : f [] = [])
    (append_cons : ∀ front c rest, isWordChar c = false →
      f (front ++ c :: rest) = f front ++ (f [c] ++ f rest)) (text : List Char) :
    f text = (pieces text).flatMap f := by
  have run_eq : ∀ run, WordChars run → f run = (pieces run).flatMap f := by
    intro run chars
    by_cases empty : run = []
    · rw [empty, nil]
      rfl
    · rw [IsWord.pieces_eq ⟨empty, chars⟩, List.flatMap_singleton]
  induction text using word_induction with
  | word run chars => exact run_eq run chars
  | step run c rest chars between ih =>
      rw [append_cons run c rest between, pieces_append_cons between, List.flatMap_append,
        List.flatMap_cons, ← run_eq run chars, ← ih]

/-! ## Word by word -/

/-- The function keeps the characters between words and treats the texts on their sides apart. -/
structure Wordwise (change : List Char → List Char) : Prop where
  nil : change [] = []
  append_cons : ∀ front c rest, isWordChar c = false →
    change (front ++ c :: rest) = change front ++ c :: change rest

namespace Wordwise

variable {change change' : List Char → List Char}

theorem id : Wordwise fun text => text where
  nil := rfl
  append_cons _ _ _ _ := rfl

theorem comp (outer : Wordwise change) (inner : Wordwise change') :
    Wordwise fun text => change (change' text) where
  nil := by rw [inner.nil, outer.nil]
  append_cons front c rest between := by
    rw [inner.append_cons front c rest between, outer.append_cons _ c _ between]

/-- A character between words stays. -/
theorem singleton (wordwise : Wordwise change) {c : Char} (between : isWordChar c = false) :
    change [c] = [c] := by
  have kept := wordwise.append_cons [] c [] between
  rwa [wordwise.nil] at kept

/-- A text is changed piece by piece. -/
theorem eq_flatMap (wordwise : Wordwise change) (text : List Char) :
    change text = (pieces text).flatMap change := by
  refine eq_flatMap_pieces wordwise.nil (fun front c rest between => ?_) text
  rw [wordwise.append_cons front c rest between, wordwise.singleton between, List.singleton_append]

/-- The pieces of the changed text are those of each changed piece. -/
theorem pieces_eq (wordwise : Wordwise change) (text : List Char) :
    pieces (change text) = (pieces text).flatMap fun piece => pieces (change piece) := by
  refine eq_flatMap_pieces (f := fun piece => pieces (change piece)) ?_
    (fun front c rest between => ?_) text
  · rw [wordwise.nil]
    rfl
  · rw [wordwise.append_cons front c rest between, wordwise.singleton between,
      pieces_append_cons between, pieces_singleton between, List.singleton_append]

end Wordwise

/-! ## Replacing a word -/

section Replace

variable {name replacement : List Char} (isWord : IsWord name)

include isWord

/-- A word does not start with a character between words. -/
theorem occursAt_between {c : Char} (between : isWordChar c = false) (inWord : Bool)
    (rest : List Char) : occursAt name inWord (c :: rest) = false := by
  obtain ⟨nonempty, chars⟩ := isWord
  cases name with
  | nil => exact absurd rfl nonempty
  | cons d name =>
      have apart : (d == c) = false := by
        refine beq_false_of_ne fun same => ?_
        rw [← same, chars d List.mem_cons_self] at between
        cases between
      rw [occursAt, List.isPrefixOf_cons_cons, apart]
      rfl

/-- At the start of a run of word characters, a word occurs exactly if it is the run. -/
theorem occursAt_run {run rest : List Char} (nonempty : run ≠ []) (chars : WordChars run)
    (ends : startsInWord rest = false) : occursAt name false (run ++ rest) = true ↔ run = name := by
  have starts : startsInWord (run ++ rest) = true := by
    cases run with
    | nil => exact absurd rfl nonempty
    | cons c run => exact chars c List.mem_cons_self
  have last : endsInWord false name = true := by
    rw [endsInWord, List.getLast?_eq_some_getLast isWord.nonempty]
    exact isWord.chars _ (List.getLast_mem _)
  simp only [occursAt, starts, last, Bool.and_eq_true, List.isPrefixOf_iff_prefix]
  constructor
  · rintro ⟨⟨⟨tail, split⟩, -⟩, behind⟩
    rw [← split, List.drop_left] at behind
    rcases List.append_eq_append_iff.1 split with ⟨more, rfl, rfl⟩ | ⟨more, rfl, rfl⟩
    · -- the run goes on behind the name
      cases more with
      | nil => exact List.append_nil _
      | cons c more =>
          have inside : startsInWord (c :: more ++ rest) = true := chars c (by simp)
          rw [inside] at behind
          cases behind
    · -- the name goes on behind the run
      cases more with
      | nil => exact (List.append_nil _).symm
      | cons c more =>
          have inside : startsInWord (c :: more ++ tail) = true := isWord.chars c (by simp)
          rw [inside] at ends
          cases ends
  · rintro rfl
    rw [List.drop_left, ends]
    exact ⟨⟨List.prefix_append _ _, rfl⟩, rfl⟩

/-- Behind the end of a word it does not matter whether there was one. -/
theorem replaceWord_boundary {rest : List Char} (ends : startsInWord rest = false) (inWord : Bool) :
    replaceWord name replacement 0 inWord rest = replaceWord name replacement 0 false rest := by
  cases rest with
  | nil => simp [replaceWord, isWord.nonempty]
  | cons c rest =>
      simp only [replaceWord, occursAt_between isWord (c := c) ends, Bool.false_eq_true, if_false]

/-- Within a word nothing is replaced. -/
theorem replaceWord_within {run rest : List Char} (chars : WordChars run)
    (ends : startsInWord rest = false) :
    replaceWord name replacement 0 true (run ++ rest) =
      run ++ replaceWord name replacement 0 false rest := by
  induction run with
  | nil => exact replaceWord_boundary isWord ends true
  | cons c run ih =>
      rw [WordChars, List.forall_mem_cons] at chars
      have nowhere : occursAt name true (c :: (run ++ rest)) = false := by
        have starts : startsInWord (c :: (run ++ rest)) = true := chars.1
        simp [occursAt, starts]
      rw [List.cons_append, replaceWord, nowhere, chars.1, if_neg Bool.false_ne_true,
        ih chars.2, List.cons_append]

/-- The rest of a replaced word is passed over. -/
theorem replaceWord_passing {run rest : List Char} (ends : startsInWord rest = false)
    (inWord : Bool) :
    replaceWord name replacement run.length inWord (run ++ rest) =
      replaceWord name replacement 0 false rest := by
  induction run generalizing inWord with
  | nil => exact replaceWord_boundary isWord ends inWord
  | cons c run ih => exact ih (isWordChar c)

/-- In front of the end of a word a run of word characters is replaced if it is the name. -/
theorem replaceWord_run {run rest : List Char} (chars : WordChars run)
    (ends : startsInWord rest = false) :
    replaceWord name replacement 0 false (run ++ rest) =
      (if run = name then replacement else run) ++ replaceWord name replacement 0 false rest := by
  cases run with
  | nil => rw [if_neg isWord.nonempty.symm, List.nil_append, List.nil_append]
  | cons c run =>
      have occurs := occursAt_run isWord (List.cons_ne_nil c run) chars ends
      rw [List.cons_append] at occurs
      rw [List.cons_append, replaceWord]
      by_cases same : c :: run = name
      · have length : name.length - 1 = run.length := by rw [← same]; rfl
        have some : name.isEmpty = false := by rw [← same]; rfl
        rw [if_pos (occurs.2 same), if_pos same, some, if_neg Bool.false_ne_true, length,
          replaceWord_passing isWord ends]
      · rw [WordChars, List.forall_mem_cons] at chars
        rw [if_neg (mt occurs.1 same), if_neg same, chars.1,
          replaceWord_within isWord chars.2 ends, List.cons_append]

/-- A run of word characters alone is replaced if it is the name. -/
theorem replaceWord_alone {run : List Char} (chars : WordChars run) :
    replaceWord name replacement 0 false run = if run = name then replacement else run := by
  have split : replaceWord name replacement 0 false (run ++ []) =
      (if run = name then replacement else run) ++ replaceWord name replacement 0 false [] :=
    replaceWord_run isWord chars rfl
  simpa [replaceWord] using split

/-- A character between words stays. -/
theorem replaceWord_between {c : Char} (between : isWordChar c = false) (rest : List Char) :
    replaceWord name replacement 0 false (c :: rest) =
      c :: replaceWord name replacement 0 false rest := by
  rw [replaceWord, occursAt_between isWord between, if_neg Bool.false_ne_true, between]

/-- A word is replaced word by word. -/
theorem wordwise_replaceWord : Wordwise (replaceWord name replacement 0 false) where
  nil := by simp [replaceWord]
  append_cons front c rest between := by
    have run_eq : ∀ run d rest, WordChars run → isWordChar d = false →
        replaceWord name replacement 0 false (run ++ d :: rest) =
          replaceWord name replacement 0 false run ++
            d :: replaceWord name replacement 0 false rest := by
      intro run d rest chars between
      have ends : startsInWord (d :: rest) = false := between
      rw [replaceWord_run isWord chars ends, replaceWord_between isWord between,
        replaceWord_alone isWord chars]
    induction front using word_induction with
    | word run chars => exact run_eq run c rest chars between
    | step run d front chars between' ih =>
        rw [List.append_assoc, List.cons_append, run_eq run d _ chars between', ih,
          run_eq run d front chars between', List.append_assoc, List.cons_append]

/-- A piece is replaced if it is the name. -/
theorem replaceWord_piece {text piece : List Char} (member : piece ∈ pieces text) :
    replaceWord name replacement 0 false piece = if piece = name then replacement else piece := by
  rcases cases_of_mem_pieces member with word | ⟨c, between, rfl⟩
  · exact replaceWord_alone isWord word.chars
  · have other : [c] ≠ name := by
      rintro rfl
      rw [isWord.chars c List.mem_cons_self] at between
      cases between
    rw [if_neg other, (wordwise_replaceWord isWord).singleton between]

/-- Replacing a word replaces the pieces that are the word. -/
theorem replaceWord_eq_flatMap (text : List Char) :
    replaceWord name replacement 0 false text =
      (pieces text).flatMap fun piece => if piece = name then replacement else piece := by
  rw [(wordwise_replaceWord isWord).eq_flatMap]
  exact List.flatMap_congr fun _ member => replaceWord_piece isWord member

end Replace

end BridgeCode.Render
