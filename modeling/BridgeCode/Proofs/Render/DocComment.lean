import Mathlib.Data.List.Infix
import BridgeCode.Declaration.Document
import BridgeCode.Proofs.Render.Lines

/-!
Doc comments in generated source.

What is written for a doc is one comment as long as the first `*/` behind the opening of the comment
is the one that closes it (`IsComment`). The fixed parts of a comment never form an end mark with
the text beside them: a doc line is empty or starts with a space, so no line that starts with a
slash comes to stand behind a star. The doc itself is written as it is.

* `isComment_docLines_iff`: when the lines of a doc are written as one comment.
* `DocEntry.hasEnd_toDoc_iff`: the lines of a doc have the end marks of the document's text.
* `doc_is_comment_iff`: a doc is written as one comment exactly if its text has no end mark, and,
  where it takes several lines, the indentation has none.
-/

namespace BridgeCode

namespace Text

/-! ## End marks of comments -/

/-- The characters that end a comment. -/
def endMark : List Char := ['*', '/']

/-- The text has an end mark of a comment in it. -/
def HasEnd (text : String) : Prop := endMark <:+: text.toList

instance (text : String) : Decidable (HasEnd text) :=
  inferInstanceAs (Decidable (endMark <:+: text.toList))

/-- An end mark in two texts lies in one of them or is put together where they meet. -/
theorem endMark_infix_append_iff {front back : List Char} :
    endMark <:+: front ++ back ↔
      endMark <:+: front ∨ endMark <:+: back ∨
        front.getLast? = some '*' ∧ back.head? = some '/' := by
  rw [List.infix_append_iff_ne_nil]
  refine or_congr_right (or_congr_right ⟨?_, ?_⟩)
  · rintro ⟨left, right, nonempty, nonempty', split, ⟨before, rfl⟩, ⟨after, rfl⟩⟩
    rcases left with _ | ⟨c, _ | ⟨d, left⟩⟩
    · exact absurd rfl nonempty
    · obtain ⟨rfl, rfl⟩ := List.cons_eq_cons.1 split
      exact ⟨List.getLast?_concat, rfl⟩
    · have lengths := congrArg List.length split
      cases right with
      | nil => exact absurd rfl nonempty'
      | cons e right => simp [endMark] at lengths
  · rintro ⟨last, first⟩
    obtain ⟨before, rfl⟩ := List.getLast?_eq_some_iff.1 last
    obtain ⟨after, rfl⟩ := List.head?_eq_some_iff.1 first
    exact ⟨['*'], ['/'], nofun, nofun, rfl, List.suffix_append _ _, after, rfl⟩

/-- No end mark is put together where the front does not end with a star. -/
theorem hasEnd_append_of_getLast {front back : String} (seam : front.toList.getLast? ≠ some '*') :
    HasEnd (front ++ back) ↔ HasEnd front ∨ HasEnd back := by
  rw [HasEnd, String.toList_append, endMark_infix_append_iff]
  simp only [seam, false_and, or_false]
  rfl

/-- No end mark is put together where the back does not start with a slash. -/
theorem hasEnd_append_of_head {front back : String} (seam : back.toList.head? ≠ some '/') :
    HasEnd (front ++ back) ↔ HasEnd front ∨ HasEnd back := by
  rw [HasEnd, String.toList_append, endMark_infix_append_iff]
  simp only [seam, and_false, or_false]
  rfl

@[simp]
theorem hasEnd_append_newline {line : String} : HasEnd (line ++ "\n") ↔ HasEnd line :=
  (hasEnd_append_of_head (by decide)).trans (or_iff_left (by decide))

/-- The end marks of lines are those of each line. -/
theorem hasEnd_ofLines {lines : List String} :
    HasEnd (ofLines lines) ↔ ∃ line ∈ lines, HasEnd line := by
  induction lines with
  | nil => decide
  | cons line lines ih =>
      have seam : (line ++ "\n").toList.getLast? ≠ some '*' := by simp
      rw [← List.singleton_append, ofLines_append, ofLines_singleton,
        hasEnd_append_of_getLast seam, hasEnd_append_newline, ih, List.singleton_append,
        List.exists_mem_cons_iff]

/-- The lines of a text with their ends are the text with one more end. -/
theorem ofLines_splitOn (text : List Char) :
    ofLines ((splitOn '\n' text).map String.ofList) = String.ofList text ++ "\n" := by
  induction text with
  | nil => rfl
  | cons c rest ih =>
      rw [splitOn]
      refine String.toList_injective ?_
      split
      · next lineEnd =>
          rw [List.map_cons, ← List.singleton_append, ofLines_append, ih, lineEnd]
          simp
      · have chars := congrArg String.toList ih
        cases parts : splitOn '\n' rest with
        | nil => simp [parts] at chars
        | cons part parts =>
            rw [‹splitOn _ _ = _›, List.map_cons, ← List.singleton_append, ofLines_append] at chars
            rw [List.map_cons, ← List.singleton_append, ofLines_append]
            simpa using congrArg (c :: ·) chars

/-- Lines that are not empty are all indented. -/
theorem layout_of_nonempty {indent : String} {lines : List String}
    (nonempty : ∀ line ∈ lines, line ≠ "") :
    layout indent true lines = ofLines (lines.map (indent ++ ·)) := by
  induction lines with
  | nil => rfl
  | cons line lines ih =>
      rw [List.forall_mem_cons] at nonempty
      have blank : line.isEmpty = false := by simpa using nonempty.1
      rw [layout, ih nonempty.2, List.map_cons, ← List.singleton_append, ofLines_append,
        ofLines_singleton, blank]
      rfl

end Text

namespace Render

open Text

/-- Behind the indentation the text is one comment on lines of its own: it opens with `/**`, and
every end mark behind the opening `/*` is the one that ends the last line. -/
def IsComment (indent text : String) : Prop :=
  ∃ body, text = indent ++ "/*" ++ body ++ "*/\n" ∧ body.toList.head? = some '*' ∧
    ∀ front back, body ++ "*/\n" = front ++ "*/" ++ back → front = body

/-- The only end mark is the last one exactly if there is none before its slash. -/
theorem only_end_iff {body : List Char} :
    (∀ front back, body ++ ['*', '/', '\n'] = front ++ endMark ++ back → front = body) ↔
      ¬ endMark <:+: body ++ ['*'] := by
  constructor
  · rintro only ⟨before, after, split⟩
    have earlier := only before (after ++ ['/', '\n']) <| by
      rw [← List.append_assoc, split, List.append_assoc]
      rfl
    have lengths := congrArg List.length split
    simp only [earlier, endMark, List.length_append, List.length_cons, List.length_nil] at lengths
    omega
  · intro none front back split
    rw [List.append_assoc] at split
    rcases List.append_eq_append_iff.1 split with ⟨between, rfl, tail⟩ | ⟨between, rfl, tail⟩
    · -- the mark starts behind the body
      rcases between with _ | ⟨c, _ | ⟨d, _ | ⟨e, between⟩⟩⟩
      · exact List.append_nil _
      all_goals simp [endMark] at tail
    · -- the mark starts in the body
      rcases between with _ | ⟨c, _ | ⟨d, between⟩⟩
      · exact (List.append_nil _).symm
      · simp [endMark] at tail
      · simp only [endMark, List.cons_append, List.cons.injEq] at tail
        obtain ⟨rfl, rfl, -⟩ := tail
        refine absurd ⟨front, between ++ ['*'], ?_⟩ none
        simp [endMark]

theorem isComment_iff {indent text : String} :
    IsComment indent text ↔
      ∃ body, text = indent ++ "/*" ++ body ++ "*/\n" ∧ body.toList.head? = some '*' ∧
        ¬ HasEnd (body ++ "*") := by
  refine exists_congr fun body => and_congr_right fun _ => and_congr_right fun _ => ?_
  rw [HasEnd, String.toList_append]
  refine Iff.trans ⟨fun only front back split => ?_, fun only front back split => ?_⟩ only_end_iff
  · have same := only (String.ofList front) (String.ofList back) <| String.toList_injective <| by
      simpa [endMark] using split
    rw [← same, String.toList_ofList]
  · refine String.toList_injective (only front.toList back.toList ?_)
    simpa [endMark] using congrArg String.toList split

theorem isComment_append_iff {indent body : String} :
    IsComment indent (indent ++ "/*" ++ body ++ "*/\n") ↔
      body.toList.head? = some '*' ∧ ¬ HasEnd (body ++ "*") := by
  rw [isComment_iff]
  constructor
  · rintro ⟨other, same, opened, closed⟩
    rw [String.append_left_inj, String.append_right_inj] at same
    rw [same]
    exact ⟨opened, closed⟩
  · exact fun ⟨opened, closed⟩ => ⟨body, rfl, opened, closed⟩

/-! ## Written docs -/

theorem isComment_single_iff {indent line : String} (seam : line.toList.head? ≠ some '/') :
    IsComment indent (layout indent true (docLines [line])) ↔ ¬ HasEnd line := by
  have written : layout indent true (docLines [line]) =
      indent ++ "/*" ++ ("*" ++ line ++ " ") ++ "*/\n" := by
    rw [docLines, layout_of_nonempty (by simp)]
    exact String.toList_injective (by simp)
  have marks : HasEnd ("*" ++ line ++ " " ++ "*") ↔ HasEnd line := by
    rw [String.append_assoc, hasEnd_append_of_head (by decide), hasEnd_append_of_head seam,
      or_iff_left (by decide), or_iff_right (by decide)]
  rw [written, isComment_append_iff, marks]
  exact and_iff_right (by simp)

/-- What stands between the opening and the end mark of a starred block. -/
def starredBody (indent : String) (doc : Doc) : String :=
  "*\n" ++ ofLines (doc.map (indent ++ " *" ++ ·)) ++ indent ++ " "

theorem layout_starred (indent : String) {doc : Doc} (several : 1 < doc.length) :
    layout indent true (docLines doc) = indent ++ "/*" ++ starredBody indent doc ++ "*/\n" := by
  have lines : docLines doc = "/**" :: (doc.map (" *" ++ ·) ++ [" */"]) := by
    rcases doc with _ | ⟨first, _ | ⟨second, rest⟩⟩
    · cases several
    · cases several.false
    · rfl
  have nonempty : ∀ line ∈ docLines doc, line ≠ "" := by
    rw [lines]
    simp [or_imp, forall_and]
  rw [layout_of_nonempty nonempty, lines, ← List.singleton_append, List.map_append,
    List.map_append, List.map_map, ofLines_append, ofLines_append, starredBody]
  refine String.toList_injective ?_
  simp [Function.comp_def, String.append_assoc]

/-- The end marks up to the last star are those of the doc and of the indentation. -/
theorem hasEnd_starredBody (indent : String) {doc : Doc}
    (seams : ∀ line ∈ doc, line.toList.head? ≠ some '/') :
    HasEnd (starredBody indent doc ++ "*") ↔ (∃ line ∈ doc, HasEnd line) ∨ HasEnd indent := by
  -- with its line end, the text up to the last star consists of lines
  have ended : starredBody indent doc ++ "*" ++ "\n" =
      ofLines ("*" :: (doc.map (indent ++ " *" ++ ·) ++ [indent ++ " *"])) := by
    rw [← List.singleton_append, ofLines_append, ofLines_append, ofLines_singleton,
      ofLines_singleton]
    exact String.toList_injective (by simp [starredBody])
  have star : HasEnd (indent ++ " *") ↔ HasEnd indent := by
    rw [hasEnd_append_of_head (by decide), or_iff_left (by decide)]
  have row : ∀ line ∈ doc, (HasEnd (indent ++ " *" ++ line) ↔ HasEnd indent ∨ HasEnd line) := by
    intro line member
    rw [hasEnd_append_of_head (seams line member), star]
  rw [← hasEnd_append_newline, ended, hasEnd_ofLines, List.exists_mem_cons_iff,
    or_iff_right (by decide)]
  constructor
  · rintro ⟨line, member, marked⟩
    rcases List.mem_append.1 member with member | member
    · obtain ⟨line, among, rfl⟩ := List.mem_map.1 member
      exact ((row line among).1 marked).symm.imp_left fun marked => ⟨line, among, marked⟩
    · rw [List.mem_singleton.1 member, star] at marked
      exact .inr marked
  · rintro (⟨line, member, marked⟩ | marked)
    · exact ⟨_, List.mem_append_left _ (List.mem_map_of_mem member),
        (row line member).2 (.inr marked)⟩
    · exact ⟨_, List.mem_append_right _ List.mem_cons_self, star.2 marked⟩

/-- A doc whose lines do not start with a slash is written as one comment exactly if no line has an
end mark and, where it takes several lines, the indentation has none. -/
theorem isComment_docLines_iff {indent : String} {doc : Doc} (nonempty : doc ≠ [])
    (seams : ∀ line ∈ doc, line.toList.head? ≠ some '/') :
    IsComment indent (layout indent true (docLines doc)) ↔
      (∀ line ∈ doc, ¬ HasEnd line) ∧ (doc.length ≤ 1 ∨ ¬ HasEnd indent) := by
  by_cases several : 1 < doc.length
  · rw [layout_starred indent several, isComment_append_iff, hasEnd_starredBody indent seams,
      or_iff_right (Nat.not_le.2 several)]
    simp [starredBody]
  · obtain ⟨line, rfl⟩ := List.length_eq_one_iff.1 <|
      le_antisymm (not_lt.1 several) (List.length_pos_iff.2 nonempty)
    simp [isComment_single_iff (seams line List.mem_cons_self)]

end Render

/-! ## Docs of a document -/

namespace DocEntry

open Text

/-- The texts of a doc entry. -/
def texts : Option DocEntry → List String
  | none => []
  | some (text value) => [value]
  | some (lines values) => values

theorem head?_docLine (line : String) : (docLine line).toList.head? ≠ some '/' := by
  unfold docLine
  split
  · next blank => rw [String.isEmpty_iff.1 blank]; decide
  · simp

theorem hasEnd_docLine {line : String} : HasEnd (docLine line) ↔ HasEnd line := by
  unfold docLine
  split
  · rfl
  · rw [hasEnd_append_of_getLast (by decide), or_iff_right (by decide)]

/-- No line of a doc starts with a slash. -/
theorem head?_of_mem_toDoc {entry : Option DocEntry} :
    ∀ line ∈ toDoc entry, line.toList.head? ≠ some '/' := by
  rcases entry with _ | value | values
  · nofun
  · exact List.forall_mem_map.2 fun part _ => head?_docLine _
  · exact List.forall_mem_map.2 fun line _ => head?_docLine line

/-- One line end at the end of a text more or less makes no end mark. -/
theorem hasEnd_dropFinalBreak {value : String} :
    HasEnd (String.ofList (dropFinalBreak value.toList)) ↔ HasEnd value := by
  unfold dropFinalBreak
  split
  · next last =>
      obtain ⟨front, split⟩ := List.getLast?_eq_some_iff.1 last
      have ended : value = String.ofList front ++ "\n" :=
        String.toList_injective (by simpa using split)
      rw [split, List.dropLast_concat, ended, hasEnd_append_newline]
  · rw [String.ofList_toList]

/-- The lines of a doc have an end mark exactly if the texts of its entry have one. -/
theorem hasEnd_toDoc_iff {entry : Option DocEntry} :
    (∃ line ∈ toDoc entry, HasEnd line) ↔ ∃ text ∈ texts entry, HasEnd text := by
  rcases entry with _ | value | values
  · rfl
  · have parts := @hasEnd_ofLines
      ((splitOn '\n' (dropFinalBreak value.toList)).map String.ofList)
    rw [ofLines_splitOn, hasEnd_append_newline, hasEnd_dropFinalBreak] at parts
    simpa [toDoc, texts, hasEnd_docLine] using parts.symm
  · simp [toDoc, texts, hasEnd_docLine]

end DocEntry

namespace Render

open Text

/-- From the start of a line, a doc of a document is written as nothing or as one comment exactly if
the document's text for it has no end mark and, where the doc takes several lines, the indentation
has none. Nothing in the text is escaped, so an end mark in it ends the comment, and what follows is
code of the generated source. -/
theorem doc_is_comment_iff (entry : Option DocEntry) {writer : Writer}
    (start : writer.atLineStart = true) :
    ∃ after written, (docComment (DocEntry.toDoc entry)).runOn writer = (.ok (), after) ∧
      after.text = writer.text ++ written ∧
      (DocEntry.toDoc entry = [] ∧ written = "" ∨ IsComment writer.indent written ↔
        (∀ text ∈ DocEntry.texts entry, ¬ HasEnd text) ∧
          ((DocEntry.toDoc entry).length ≤ 1 ∨ ¬ HasEnd writer.indent)) := by
  obtain ⟨after, ran, -, -, -, text⟩ := writesLines_docComment (DocEntry.toDoc entry) writer
  refine ⟨after, _, ran, text, ?_⟩
  have marks : (∀ text ∈ DocEntry.texts entry, ¬ HasEnd text) ↔
      ∀ line ∈ DocEntry.toDoc entry, ¬ HasEnd line := by
    simpa using (not_congr (@DocEntry.hasEnd_toDoc_iff entry)).symm
  rw [marks, start]
  by_cases empty : DocEntry.toDoc entry = []
  · simp [empty, docLines, layout]
  · rw [isComment_docLines_iff empty DocEntry.head?_of_mem_toDoc]
    simp [empty]

/-- A doc of two lines with the opening of a comment in it, four spaces deep. -/
theorem two_lines_stay_comment :
    ({ indent := "    " } : Writer).atLineStart = true ∧
    ∃ after, (docComment (DocEntry.toDoc (some (.text "Size /* of\n*a list. /\n")))).runOn
        { indent := "    " } = (.ok (), after) ∧
      IsComment "    " after.text := by
  have start : ({ indent := "    " } : Writer).atLineStart = true := rfl
  obtain ⟨after, written, ran, text, comment⟩ :=
    doc_is_comment_iff (some (.text "Size /* of\n*a list. /\n")) start
  have unmarked : (∀ text ∈ DocEntry.texts (some (.text "Size /* of\n*a list. /\n")),
      ¬ HasEnd text) ∧ ((DocEntry.toDoc (some (.text "Size /* of\n*a list. /\n"))).length ≤ 1 ∨
        ¬ HasEnd ({ indent := "    " } : Writer).indent) := by decide
  refine ⟨start, after, ran, ?_⟩
  rw [text]
  exact (comment.2 unmarked).resolve_left fun none => absurd none.1 (by decide)

/-- A doc with an end mark in it: the declaration behind the mark is no part of the comment. -/
theorem marked_doc_escapes :
    ∃ after, (docComment (DocEntry.toDoc (some (.text "Size. */ int leaked; /*")))).runOn {} =
        (.ok (), after) ∧
      after.text = "/** Size. */ int leaked; /* */\n" ∧
      ¬ (after.text = "" ∨ IsComment "" after.text) := by
  have doc : DocEntry.toDoc (some (.text "Size. */ int leaked; /*")) =
      [" Size. */ int leaked; /*"] := by decide
  obtain ⟨after, ran, -, -, -, text⟩ :=
    writesLines_docComment (DocEntry.toDoc (some (.text "Size. */ int leaked; /*"))) {}
  rw [doc] at text
  refine ⟨after, ran, text.trans (by decide), ?_⟩
  rintro (blank | comment)
  · exact absurd (text.symm.trans blank) (by decide)
  · rw [text] at comment
    exact (isComment_single_iff (by decide)).1 comment (by decide)

end Render

end BridgeCode
