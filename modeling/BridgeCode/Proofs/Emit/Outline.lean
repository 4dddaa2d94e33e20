import BridgeCode.Proofs.Path
import BridgeCode.Proofs.Writing

/-!
The layout of written lines.

A writer decides on the indentation of a line late, at the first text that is not empty. The
reference for what it writes knows lines only. A `Program` puts calls on a writer together, with
failures at any point and bodies whose failure is caught. Its marks (`Program.marks`) are the texts
with their depths and the ends of lines, as far as it gets; a `Sheet` gathers the marks into lines,
and `Line.text` lays out one line: nothing for a line of empty texts, and otherwise the indentation
for the depth of its first text that is not empty, followed by all texts.

* `Writer.Shows`: a writer has written a sheet and is indented for a depth.
* `Writing.Lays`: whatever the sheet, an action adds the given marks to it and ends with the given
  outcome at the depth where it started. Each call lays its marks, and laying composes along `++`.
* `Program.lays`: every program lays its marks. So what it writes is the text of its sheet, and the
  lines of this text are the lines of the sheet (`Sheet.splitOn_text`).
-/

namespace BridgeCode

namespace Text

/-- The text has no end of a line in it. -/
def SingleLine (text : String) : Prop := '\n' ∉ text.toList

instance (text : String) : Decidable (SingleLine text) :=
  inferInstanceAs (Decidable ('\n' ∉ text.toList))

theorem SingleLine.append {front back : String} (first : SingleLine front)
    (second : SingleLine back) : SingleLine (front ++ back) := by
  rw [SingleLine, String.toList_append, List.mem_append, not_or]
  exact ⟨first, second⟩

theorem SingleLine.join {texts : List String} (each : ∀ text ∈ texts, SingleLine text) :
    SingleLine (String.join texts) := by
  induction texts with
  | nil => exact List.not_mem_nil
  | cons text texts ih =>
      rw [String.join_cons]
      exact (each text List.mem_cons_self).append
        (ih fun other member => each other (List.mem_cons_of_mem _ member))

/-- Lines with their ends split into the lines, and what comes after the last end is one more. -/
theorem splitOn_ofLines_append {lines : List String} {last : String}
    (each : ∀ line ∈ lines, SingleLine line) (single : SingleLine last) :
    splitOn '\n' (ofLines lines ++ last).toList = (lines ++ [last]).map String.toList := by
  induction lines with
  | nil =>
      rw [ofLines_nil, String.empty_append, splitOn_eq, List.splitOn_eq_singleton single]
      rfl
  | cons line lines ih =>
      have split : (ofLines (line :: lines) ++ last).toList =
          line.toList ++ '\n' :: (ofLines lines ++ last).toList := by
        rw [← List.singleton_append, ofLines_append, ofLines_singleton]
        simp
      have rest := ih fun other member => each other (List.mem_cons_of_mem _ member)
      rw [splitOn_eq] at rest
      rw [split, splitOn_eq, List.splitOn_append_cons_self, rest,
        List.splitOn_eq_singleton (each line List.mem_cons_self)]
      rfl

end Text

namespace Writing

/-! ## Programs and the lines they describe -/

/-- Calls on a writer. -/
inductive Program where
  | done
  | andThen (first second : Program)
  | write (text : String)
  | line (text : String)
  | lineOutdented (text : String)
  | nested (body : Program)
  | nestedBy (levels : Nat) (body : Program)
  | braced (body : Program)
  | raise (fault : Fault)
  /-- Runs the handler where the body fails. -/
  | attempt (body handler : Program)

/-- A text on a line, with the depth at which it was written. -/
structure Piece where
  depth : Nat
  text : String

/-- What a program leaves behind: texts and the ends of lines. -/
inductive Mark where
  | piece (piece : Piece)
  | lineEnd

/-- The texts of a line in a row. -/
abbrev Line := List Piece

/-- The lines that were ended and the line that goes on. -/
structure Sheet where
  ended : List Line := []
  current : Line := []

/-- The marks of what runs only if nothing failed before it. -/
def onSuccess : Except Fault Unit → List Mark → List Mark
  | .ok _, marks => marks
  | .error _, _ => []

/-- The marks of what runs only after a failure. -/
def onFailure : Except Fault Unit → List Mark → List Mark
  | .ok _, _ => []
  | .error _, marks => marks

theorem mem_of_mem_onSuccess {outcome : Except Fault Unit} {marks : List Mark} {mark : Mark}
    (member : mark ∈ onSuccess outcome marks) : mark ∈ marks := by
  cases outcome with
  | ok _ => exact member
  | error _ => cases member

theorem mem_of_mem_onFailure {outcome : Except Fault Unit} {marks : List Mark} {mark : Mark}
    (member : mark ∈ onFailure outcome marks) : mark ∈ marks := by
  cases outcome with
  | ok _ => cases member
  | error _ => exact member

namespace Program

/-- The program as an action on a writer. -/
def perform : Program → Writing Unit
  | done => pure ()
  | andThen first second => do
    first.perform
    second.perform
  | write text => Writing.write text
  | line text => Writing.line text
  | lineOutdented text => Writing.lineOutdented text
  | nested body => Writing.nested body.perform
  | nestedBy levels body => Writing.nestedBy levels body.perform
  | braced body => Writing.braced body.perform
  | raise fault => throw fault
  | attempt body handler => tryCatch body.perform fun _ => handler.perform

/-- How the program ends. -/
def outcome : Program → Except Fault Unit
  | andThen first second => do
    first.outcome
    second.outcome
  | nested body | nestedBy _ body | braced body => body.outcome
  | raise fault => .error fault
  | attempt body handler => tryCatch body.outcome fun _ => handler.outcome
  | _ => .ok ()

/-- The marks of the program at a depth, up to where it fails. -/
def marks : Nat → Program → List Mark
  | depth, write text => [.piece ⟨depth, text⟩]
  | depth, line text => [.piece ⟨depth, text⟩, .lineEnd]
  | depth, lineOutdented text => [.piece ⟨depth - 1, text⟩, .lineEnd]
  | depth, nested body => body.marks (depth + 1)
  | depth, nestedBy levels body => body.marks (depth + levels)
  | depth, braced body =>
    [.piece ⟨depth, "\x7b"⟩, .lineEnd] ++
      (body.marks (depth + 1) ++
        onSuccess body.outcome [.piece ⟨depth, "\x7d"⟩, .lineEnd])
  | depth, andThen first second =>
    first.marks depth ++ onSuccess first.outcome (second.marks depth)
  | depth, attempt body handler =>
    body.marks depth ++ onFailure body.outcome (handler.marks depth)
  | _, done | _, raise _ => []

/-- From the given depth on, no line is outdented at depth zero. -/
def OutdentsWithin : Nat → Program → Prop
  | depth, lineOutdented _ => 0 < depth
  | depth, andThen first second => first.OutdentsWithin depth ∧ second.OutdentsWithin depth
  | depth, nested body | depth, braced body => body.OutdentsWithin (depth + 1)
  | depth, nestedBy levels body => body.OutdentsWithin (depth + levels)
  | depth, attempt body handler => body.OutdentsWithin depth ∧ handler.OutdentsWithin depth
  | _, _ => True

/-- The texts that stand in the program. -/
def texts : Program → List String
  | write text | line text | lineOutdented text => [text]
  | andThen first second => first.texts ++ second.texts
  | nested body | nestedBy _ body | braced body => body.texts
  | attempt body handler => body.texts ++ handler.texts
  | done | raise _ => []

end Program

/-- The indentation at a depth. -/
def indentation (unit start : String) (depth : Nat) : String :=
  start ++ String.join (List.replicate depth unit)

/-- The text of a line. A line of empty texts is empty; any other line is indented for the depth of
its first text that is not. -/
def Line.text (unit start : String) (line : Line) : String :=
  match line.find? (!·.text.isEmpty) with
  | none => ""
  | some first => indentation unit start first.depth ++ String.join (line.map Piece.text)

namespace Sheet

/-- The sheet with one more mark. -/
def add (sheet : Sheet) : Mark → Sheet
  | .piece piece => { sheet with current := sheet.current ++ [piece] }
  | .lineEnd => { ended := sheet.ended ++ [sheet.current], current := [] }

/-- Marks gathered into lines. -/
def ofMarks (marks : List Mark) : Sheet := marks.foldl add {}

/-- All lines, the one that goes on last. -/
def lines (sheet : Sheet) : List Line := sheet.ended ++ [sheet.current]

/-- Everything on the sheet. -/
def text (unit start : String) (sheet : Sheet) : String :=
  Text.ofLines (sheet.ended.map (Line.text unit start)) ++ Line.text unit start sheet.current

end Sheet

/-! ## Lines with one more text -/

variable {unit start : String}

theorem indentation_add (depth levels : Nat) :
    indentation unit start (depth + levels) =
      indentation unit start depth ++ String.join (List.replicate levels unit) := by
  rw [indentation, ← List.replicate_append_replicate, String.join_append, ← String.append_assoc,
    indentation]

theorem indentation_succ (depth : Nat) :
    indentation unit start (depth + 1) = indentation unit start depth ++ unit := by
  simp [indentation_add, String.join]

/-- Taking one level off an indentation that has one leaves the other levels. -/
theorem outdent_indentation_succ (depth : Nat) :
    outdent unit (indentation unit start (depth + 1)) = indentation unit start depth := by
  have length : Text.units (indentation unit start depth ++ unit) - Text.units unit =
      Text.listUnits (indentation unit start depth).toList := by
    rw [Text.units_append, Nat.add_sub_cancel, Text.units]
  rw [outdent, indentation_succ, length, String.toList_append, Text.takeUnits_listUnits_append,
    String.ofList_toList]

/-- All texts of the line are empty. -/
def Line.Blank (line : Line) : Prop := ∀ piece ∈ line, piece.text = ""

theorem Line.find?_eq_none_iff {line : Line} :
    line.find? (!·.text.isEmpty) = none ↔ line.Blank := by
  simp [Line.Blank, List.find?_eq_none]

theorem Line.blank_concat_iff {line : Line} {piece : Piece} :
    Line.Blank (line ++ [piece]) ↔ line.Blank ∧ piece.text = "" := by
  simp [Line.Blank, or_imp, forall_and]

theorem Line.text_of_blank {line : Line} (blank : line.Blank) : line.text unit start = "" := by
  rw [Line.text, Line.find?_eq_none_iff.2 blank]

/-- The first text of a line that is not empty brings the indentation with it. -/
theorem Line.text_concat_of_blank {line : Line} {piece : Piece} (blank : line.Blank)
    (nonempty : piece.text ≠ "") :
    Line.text unit start (line ++ [piece]) =
      indentation unit start piece.depth ++ piece.text := by
  have empty : String.join (line.map Piece.text) = "" := by
    rw [List.map_congr_left blank, ← String.toList_inj]
    simp
  have found : (line ++ [piece]).find? (!·.text.isEmpty) = some piece := by
    rw [List.find?_append, Line.find?_eq_none_iff.2 blank]
    simp [nonempty]
  rw [Line.text, found, List.map_append, String.join_append, empty]
  simp [String.join]

/-- Later texts follow as they are. -/
theorem Line.text_concat_of_not_blank {line : Line} {piece : Piece} (started : ¬ line.Blank) :
    Line.text unit start (line ++ [piece]) = line.text unit start ++ piece.text := by
  obtain ⟨first, found⟩ := Option.ne_none_iff_exists'.1 fun none =>
    started (Line.find?_eq_none_iff.1 none)
  rw [Line.text, Line.text, List.find?_append, found]
  simp [String.join, String.append_assoc]

namespace Sheet

variable {sheet : Sheet} {piece : Piece}

theorem text_add_first (blank : sheet.current.Blank) (nonempty : piece.text ≠ "") :
    (sheet.add (.piece piece)).text unit start =
      sheet.text unit start ++ indentation unit start piece.depth ++ piece.text := by
  rw [text, add, Line.text_concat_of_blank blank nonempty, text, Line.text_of_blank blank,
    String.append_empty, String.append_assoc]

theorem text_add_later (started : ¬ sheet.current.Blank) :
    (sheet.add (.piece piece)).text unit start = sheet.text unit start ++ piece.text := by
  rw [text, add, Line.text_concat_of_not_blank started, text, String.append_assoc]

theorem text_add_empty (empty : piece.text = "") :
    (sheet.add (.piece piece)).text unit start = sheet.text unit start := by
  by_cases blank : sheet.current.Blank
  · rw [text, text, add, Line.text_of_blank blank,
      Line.text_of_blank (Line.blank_concat_iff.2 ⟨blank, empty⟩)]
  · rw [text_add_later blank, empty, String.append_empty]

theorem text_add_lineEnd :
    (sheet.add .lineEnd).text unit start = sheet.text unit start ++ "\n" := by
  have rest : Line.text unit start [] = "" := rfl
  rw [text, add, text, List.map_append, Text.ofLines_append, List.map_singleton,
    Text.ofLines_singleton, rest, String.append_empty, String.append_assoc]

end Sheet

end Writing

/-! ## What a writer has written -/

open Writing

/-- The writer has written the sheet and is indented for the depth. -/
structure Writer.Shows (unit start : String) (depth : Nat) (sheet : Sheet) (writer : Writer) :
    Prop where
  unit_eq : writer.unit = unit
  indent_eq : writer.indent = indentation unit start depth
  text_eq : writer.text = sheet.text unit start
  lineStart_iff : writer.atLineStart = true ↔ sheet.current.Blank

/-- The sheet does not depend on the indentation of the lines to come. -/
theorem Writer.Shows.reindent {unit start : String} {depth : Nat} {sheet : Sheet} {writer : Writer}
    (shows : writer.Shows unit start depth sheet) (other : Nat) :
    ({ writer with indent := indentation unit start other } : Writer).Shows unit start other
      sheet :=
  ⟨shows.unit_eq, rfl, shows.text_eq, shows.lineStart_iff⟩

namespace Writing

variable {depth : Nat}

/-- Whatever is on the sheet, the action adds the marks to it and ends with the outcome, and the
indentation is the one before. -/
def Lays (unit start : String) (depth : Nat) (action : Writing Unit) (outcome : Except Fault Unit)
    (marks : List Mark) : Prop :=
  ∀ (sheet : Sheet) (writer : Writer), writer.Shows unit start depth sheet →
    ∃ after, action.runOn writer = (outcome, after) ∧
      after.Shows unit start depth (marks.foldl Sheet.add sheet)

/-! ### Actions in a row -/

theorem Lays.pure : Lays unit start depth (Pure.pure ()) (.ok ()) [] :=
  fun _ writer shows => ⟨writer, rfl, shows⟩

theorem Lays.throw (fault : Fault) :
    Lays unit start depth (MonadExcept.throw fault) (.error fault) [] :=
  fun _ writer shows => ⟨writer, rfl, shows⟩

/-- The second action adds its marks unless the first one fails. -/
theorem Lays.andThen {action next : Writing Unit} {outcome ending : Except Fault Unit}
    {marks more : List Mark} (first : Lays unit start depth action outcome marks)
    (second : Lays unit start depth next ending more) :
    Lays unit start depth (action >>= fun _ => next) (outcome >>= fun _ => ending)
      (marks ++ onSuccess outcome more) := by
  intro sheet writer shows
  obtain ⟨middle, ran, shows⟩ := first sheet writer shows
  rw [runOn_bind, ran, List.foldl_append]
  cases outcome with
  | ok _ => exact second _ middle shows
  | error fault => exact ⟨middle, rfl, shows⟩

/-- The handler adds its marks if the action fails. -/
theorem Lays.attempt {action handler : Writing Unit} {outcome ending : Except Fault Unit}
    {marks more : List Mark} (first : Lays unit start depth action outcome marks)
    (second : Lays unit start depth handler ending more) :
    Lays unit start depth (tryCatch action fun _ => handler) (tryCatch outcome fun _ => ending)
      (marks ++ onFailure outcome more) := by
  intro sheet writer shows
  obtain ⟨middle, ran, shows⟩ := first sheet writer shows
  rw [runOn_tryCatch, ran, List.foldl_append]
  cases outcome with
  | ok _ => exact ⟨middle, rfl, shows⟩
  | error fault => exact second _ middle shows

/-! ### Single calls -/

/-- An empty text is not written. On a blank line any other text brings the indentation with it, and
on a line that was started it follows. -/
theorem Lays.write (text : String) :
    Lays unit start depth (.write text) (.ok ()) [.piece ⟨depth, text⟩] := by
  intro sheet writer shows
  by_cases empty : text = ""
  · subst empty
    refine ⟨writer, rfl, shows.unit_eq, shows.indent_eq, ?_, ?_⟩
    · exact shows.text_eq.trans (Sheet.text_add_empty rfl).symm
    · simp [shows.lineStart_iff, Sheet.add, Line.blank_concat_iff]
  · have started : ¬ (sheet.add (.piece ⟨depth, text⟩)).current.Blank :=
      fun blank => empty (Line.blank_concat_iff.1 blank).2
    refine ⟨_, runOn_write empty writer, ?_⟩
    by_cases blank : sheet.current.Blank
    · rw [if_pos (shows.lineStart_iff.2 blank)]
      refine ⟨shows.unit_eq, shows.indent_eq, ?_, iff_of_false Bool.false_ne_true started⟩
      rw [List.foldl_cons, List.foldl_nil, Sheet.text_add_first blank empty, ← shows.text_eq,
        ← shows.indent_eq]
      rw [String.append_assoc]
      exact writer.text_push_push text
    · have goesOn : ¬ writer.atLineStart = true := mt shows.lineStart_iff.1 blank
      rw [if_neg goesOn]
      refine ⟨shows.unit_eq, shows.indent_eq, ?_, iff_of_false goesOn started⟩
      rw [List.foldl_cons, List.foldl_nil, Sheet.text_add_later blank, ← shows.text_eq]
      exact writer.text_push text

/-- The end of a line, after the texts on it. -/
theorem Lays.lineEnd :
    Lays unit start depth
      (do
        put (Text.encode "\n")
        modify fun writer => { writer with atLineStart := true })
      (.ok ()) [.lineEnd] := by
  intro sheet writer shows
  refine ⟨_, rfl, shows.unit_eq, shows.indent_eq, ?_, ?_⟩
  · rw [List.foldl_cons, List.foldl_nil, Sheet.text_add_lineEnd, ← shows.text_eq]
    exact writer.text_push "\n"
  · exact iff_of_true rfl fun piece member => nomatch member

theorem Lays.line (text : String) :
    Lays unit start depth (.line text) (.ok ()) [.piece ⟨depth, text⟩, .lineEnd] :=
  .andThen (.write text) .lineEnd

/-- An outdented line is one of the level outside. -/
theorem Lays.lineOutdented (text : String) :
    Lays unit start (depth + 1) (.lineOutdented text) (.ok ())
      [.piece ⟨depth, text⟩, .lineEnd] := by
  intro sheet writer shows
  -- The line is written as one of the depth outside, so the sheet has it there.
  obtain ⟨after, ran, shown⟩ := Lays.line text sheet _ (shows.reindent depth)
  have outdented : outdent writer.unit writer.indent = indentation unit start depth := by
    rw [shows.unit_eq, shows.indent_eq, outdent_indentation_succ]
  have indented : after.indent ++ after.unit = indentation unit start (depth + 1) := by
    rw [shown.indent_eq, shown.unit_eq, indentation_succ]
  refine ⟨_, ?_, shown.reindent (depth + 1)⟩
  unfold Writing.lineOutdented
  rw [runOn_bind, runOn_modify]
  simp only [outdented]
  rw [runOn_bind_ok ran, runOn_modify, indented]

/-- A nested action lays what it lays deeper, and the indentation is put back. -/
theorem Lays.nestedBy {action : Writing Unit} {outcome : Except Fault Unit} {marks : List Mark}
    (levels : Nat) (body : Lays unit start (depth + levels) action outcome marks) :
    Lays unit start depth (.nestedBy levels action) outcome marks := by
  intro sheet writer shows
  obtain ⟨after, ran, shown⟩ := body sheet _ (shows.reindent (depth + levels))
  have indented : writer.indent ++ String.join (List.replicate levels writer.unit) =
      indentation unit start (depth + levels) := by
    rw [shows.indent_eq, shows.unit_eq, indentation_add]
  refine ⟨_, ?_, shown.reindent depth⟩
  rw [Writing.nestedBy, if_neg (Int.not_lt.2 (Int.natCast_nonneg levels)), ← shows.indent_eq]
  refine runOn_restoringIndent ?_
  rw [runOn_bind, runOn_modify, Int.toNat_natCast]
  simp only [indented]
  exact ran

theorem Lays.nested {action : Writing Unit} {outcome : Except Fault Unit} {marks : List Mark}
    (body : Lays unit start (depth + 1) action outcome marks) :
    Lays unit start depth (.nested action) outcome marks :=
  .nestedBy 1 body

/-- The closing brace is written unless the action between the braces fails. -/
theorem Lays.braced {action : Writing Unit} {outcome : Except Fault Unit} {marks : List Mark}
    (body : Lays unit start (depth + 1) action outcome marks) :
    Lays unit start depth (.braced action) outcome
      ([.piece ⟨depth, "\x7b"⟩, .lineEnd] ++
        (marks ++ onSuccess outcome [.piece ⟨depth, "\x7d"⟩, .lineEnd])) := by
  have laid := Lays.andThen (.line "\x7b") (.andThen body.nested (.line "\x7d"))
  -- The outcome of the three in a row is the outcome of the middle one.
  cases outcome with
  | ok _ => exact laid
  | error fault => exact laid

/-! ## Programs -/

namespace Program

/-- Every program lays its marks. -/
theorem lays (program : Program) {depth : Nat} (within : program.OutdentsWithin depth) :
    Lays unit start depth program.perform program.outcome (program.marks depth) := by
  induction program generalizing depth with
  | done => exact .pure
  | andThen first second ihFirst ihSecond =>
      exact .andThen (ihFirst within.1) (ihSecond within.2)
  | write text => exact .write text
  | line text => exact .line text
  | lineOutdented text =>
      obtain ⟨outside, rfl⟩ := Nat.exists_eq_add_one.2 within
      exact .lineOutdented text
  | nested body ih => exact .nested (ih within)
  | nestedBy levels body ih => exact .nestedBy levels (ih within)
  | braced body ih => exact .braced (ih within)
  | raise fault => exact .throw fault
  | attempt body handler ihBody ihHandler =>
      exact .attempt (ihBody within.1) (ihHandler within.2)

theorem text_eq_of_mem_line {depth : Nat} {text : String} {piece : Piece}
    (member : Mark.piece piece ∈ [.piece ⟨depth, text⟩, .lineEnd]) : piece.text = text := by
  simp only [List.mem_cons, Mark.piece.injEq, reduceCtorEq, List.not_mem_nil, or_false] at member
  rw [member]

/-- The texts a program writes are its own texts and braces. -/
theorem mem_texts_of_mem_marks {program : Program} {depth : Nat} {piece : Piece}
    (member : .piece piece ∈ program.marks depth) :
    piece.text ∈ program.texts ∨ piece.text ∈ ["\x7b", "\x7d"] := by
  induction program generalizing depth with
  | done | raise => cases member
  | write text =>
      have same := text_eq_of_mem_line (List.mem_append_left [.lineEnd] member)
      exact .inl (List.mem_singleton.2 same)
  | line text | lineOutdented text =>
      exact .inl (List.mem_singleton.2 (text_eq_of_mem_line member))
  | nested body ih | nestedBy levels body ih => exact ih member
  | andThen first second ihFirst ihSecond =>
      rcases List.mem_append.1 member with member | member
      · exact (ihFirst member).imp_left (List.mem_append_left _)
      · exact (ihSecond (mem_of_mem_onSuccess member)).imp_left (List.mem_append_right _)
  | braced body ih =>
      rcases List.mem_append.1 member with member | member
      · simp [text_eq_of_mem_line member]
      · rcases List.mem_append.1 member with member | member
        · exact ih member
        · simp [text_eq_of_mem_line (mem_of_mem_onSuccess member)]
  | attempt body handler ihBody ihHandler =>
      rcases List.mem_append.1 member with member | member
      · exact (ihBody member).imp_left (List.mem_append_left _)
      · exact (ihHandler (mem_of_mem_onFailure member)).imp_left (List.mem_append_right _)

end Program

/-! ## Lines without ends in them -/

theorem Line.singleLine_text {line : Line} (ofStart : Text.SingleLine start)
    (ofUnit : Text.SingleLine unit) (ofPieces : ∀ piece ∈ line, Text.SingleLine piece.text) :
    Text.SingleLine (line.text unit start) := by
  unfold Line.text
  split
  · exact List.not_mem_nil
  · have levels (depth : Nat) : Text.SingleLine (String.join (List.replicate depth unit)) := by
      refine .join fun text member => ?_
      rw [List.eq_of_mem_replicate member]
      exact ofUnit
    refine (ofStart.append (levels _)).append (.join fun text isText => ?_)
    obtain ⟨piece, member, rfl⟩ := List.mem_map.1 isText
    exact ofPieces piece member

namespace Sheet

/-- Every text on the sheet has the property. -/
def Forall (property : Piece → Prop) (sheet : Sheet) : Prop :=
  ∀ line ∈ sheet.lines, ∀ piece ∈ line, property piece

theorem Forall.add {property : Piece → Prop} {sheet : Sheet} {mark : Mark}
    (all : sheet.Forall property) (new : ∀ piece, mark = .piece piece → property piece) :
    (sheet.add mark).Forall property := by
  have current := all sheet.current (List.mem_append_right _ List.mem_cons_self)
  intro line isLine
  cases mark with
  | piece piece =>
      rcases List.mem_append.1 isLine with isEnded | isCurrent
      · exact all line (List.mem_append_left _ isEnded)
      · rw [List.mem_singleton.1 isCurrent]
        intro other member
        rcases List.mem_append.1 member with member | member
        · exact current other member
        · exact List.mem_singleton.1 member ▸ new piece rfl
  | lineEnd =>
      rcases List.mem_append.1 isLine with isEnded | isCurrent
      · exact all line isEnded
      · rw [List.mem_singleton.1 isCurrent]
        exact fun other member => nomatch member

theorem Forall.ofMarks {property : Piece → Prop} {marks : List Mark}
    (each : ∀ piece, .piece piece ∈ marks → property piece) :
    (Sheet.ofMarks marks).Forall property := by
  refine List.foldlRecOn marks Sheet.add ?_ fun sheet all mark member => ?_
  · intro line isLine piece member
    rw [List.mem_singleton.1 isLine] at member
    cases member
  · exact all.add fun piece isPiece => each piece (isPiece ▸ member)

/-- The lines of the text are the lines of the sheet. -/
theorem splitOn_text {sheet : Sheet} (ofStart : Text.SingleLine start)
    (ofUnit : Text.SingleLine unit) (all : sheet.Forall fun piece => Text.SingleLine piece.text) :
    Text.splitOn '\n' (sheet.text unit start).toList =
      sheet.lines.map fun line => (line.text unit start).toList := by
  have single (line : Line) (isLine : line ∈ sheet.lines) :
      Text.SingleLine (line.text unit start) :=
    Line.singleLine_text ofStart ofUnit (all line isLine)
  rw [text, Text.splitOn_ofLines_append]
  · simp [lines]
  · intro text isText
    obtain ⟨line, isEnded, rfl⟩ := List.mem_map.1 isText
    exact single line (List.mem_append_left _ isEnded)
  · exact single sheet.current (List.mem_append_right _ List.mem_cons_self)

end Sheet

namespace Program

/-- What a program writes is the text of its sheet, up to its end or to where it fails. With no end
of a line in a text, the lines of what is written are the lines of the sheet. -/
theorem written_eq_sheet (unit start : String) (program : Program)
    (within : program.OutdentsWithin 0) :
    ∃ after, program.perform.runOn { unit := unit, indent := start } = (program.outcome, after) ∧
      after.text = (Sheet.ofMarks (program.marks 0)).text unit start ∧
      ((∀ text ∈ start :: unit :: program.texts, Text.SingleLine text) →
        Text.splitOn '\n' after.text.toList =
          (Sheet.ofMarks (program.marks 0)).lines.map fun line =>
            (line.text unit start).toList) := by
  have blank : ({ unit := unit, indent := start } : Writer).Shows unit start 0 {} :=
    ⟨rfl, String.append_empty.symm, rfl, iff_of_true rfl fun piece member => nomatch member⟩
  obtain ⟨after, ran, shown⟩ := program.lays within {} _ blank
  refine ⟨after, ran, shown.text_eq, fun single => ?_⟩
  rw [shown.text_eq]
  refine Sheet.splitOn_text (single start (by simp)) (single unit (by simp)) ?_
  refine .ofMarks fun piece member => ?_
  rcases mem_texts_of_mem_marks member with isText | isBrace
  · exact single _ (List.mem_cons_of_mem _ (List.mem_cons_of_mem _ isText))
  · have braces : ∀ text ∈ ["\x7b", "\x7d"], Text.SingleLine text := by decide
    exact braces _ isBrace

/-- A label stands one level outside, the blank line is empty, and a line that was begun before the
failure keeps its depth although it is ended one level outside. -/
theorem label_written :
    let body : Program :=
      .andThen (.lineOutdented "case 1:")
        (.andThen (.write "return") (.andThen (.line ";")
          (.andThen (.line "") (.andThen (.write "int ") (.raise (.raised .plain "boom"))))))
    let program : Program := .attempt (.nested body) (.line "x;")
    program.OutdentsWithin 0 ∧
      ∃ after, program.perform.runOn { unit := "  ", indent := "> " } = (.ok (), after) ∧
        after.text = "> case 1:\n>   return;\n\n>   int x;\n" := by
  intro body program
  have within : program.OutdentsWithin 0 := by
    simp [program, body, OutdentsWithin]
  obtain ⟨after, ran, written, -⟩ := written_eq_sheet "  " "> " program within
  refine ⟨within, after, ran, written.trans ?_⟩
  decide

end Program

end Writing

end BridgeCode
