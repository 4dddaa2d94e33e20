import BridgeCode.Proofs.Writing
import BridgeCode.Render.DocComment

/-!
Renderings as lines.

`Writing.WritesLines`: from wherever a writer stands, an action writes the given lines and leaves
the indentation alone. The first line goes on where the writer stands; every line that starts is
indented unless it is empty (`Text.layout`). Such actions compose along `++`, and doc comments are
of this kind (`Render.writesLines_docComment`).
-/

namespace BridgeCode

namespace Text

/-- Lines as a writer lays them out with an indentation; `atStart` tells whether the first of them
starts a line or goes on with one. -/
def layout (indent : String) (atStart : Bool) : List String → String
  | [] => ""
  | line :: lines =>
    (if atStart && !line.isEmpty then indent else "") ++ line ++ "\n" ++ layout indent true lines

theorem layout_append (indent : String) (atStart : Bool) (lines more : List String) :
    layout indent atStart (lines ++ more) =
      layout indent atStart lines ++ layout indent (atStart || !lines.isEmpty) more := by
  induction lines generalizing atStart with
  | nil => simp [layout]
  | cons line lines ih => simp [layout, ih, String.append_assoc]

end Text

namespace Writing

/-- From wherever the writer stands the action writes the lines, and the indentation stays. -/
def WritesLines (action : Writing Unit) (lines : List String) : Prop :=
  ∀ writer : Writer, ∃ after, action.runOn writer = (.ok (), after) ∧
    after.unit = writer.unit ∧ after.indent = writer.indent ∧
    after.atLineStart = (writer.atLineStart || !lines.isEmpty) ∧
    after.text = writer.text ++ Text.layout writer.indent writer.atLineStart lines

namespace WritesLines

theorem pure : WritesLines (Pure.pure ()) [] :=
  fun writer => ⟨writer, rfl, rfl, rfl, by simp, by simp [Text.layout]⟩

theorem bind {action : Writing Unit} {next : Unit → Writing Unit} {lines more : List String}
    (first : WritesLines action lines) (second : WritesLines (next ()) more) :
    WritesLines (action >>= next) (lines ++ more) := by
  intro writer
  obtain ⟨middle, ran, unit, indent, start, text⟩ := first writer
  obtain ⟨after, ran', unit', indent', start', text'⟩ := second middle
  refine ⟨after, ?_, unit'.trans unit, indent'.trans indent, ?_, ?_⟩
  · rw [runOn_bind_ok ran, ran']
  · rw [start', start]
    cases lines <;> simp
  · rw [text', text, indent, start, Text.layout_append, String.append_assoc]

theorem line (text : String) : WritesLines (.line text) [text] := by
  intro writer
  unfold Writing.line
  by_cases empty : text = ""
  · subst empty
    have silent : (Writing.write "").runOn writer = (.ok (), writer) := rfl
    rw [runOn_bind_ok silent]
    refine ⟨_, rfl, rfl, rfl, by simp, ?_⟩
    rw [show Text.layout writer.indent writer.atLineStart [""] = "\n" by simp [Text.layout]]
    exact writer.text_push "\n"
  · rw [runOn_bind_ok (runOn_write empty writer)]
    have nonempty : text.isEmpty = false := by simpa using empty
    cases start : writer.atLineStart with
    | true =>
        refine ⟨_, rfl, rfl, rfl, by simp, ?_⟩
        refine (Writer.text_push _ "\n").trans ?_
        rw [if_pos rfl, Writer.text_push_push]
        simp [Text.layout, nonempty, String.append_assoc]
    | false =>
        refine ⟨_, rfl, rfl, rfl, by simp, ?_⟩
        refine (Writer.text_push _ "\n").trans ?_
        refine (congrArg (· ++ "\n") (writer.text_push text)).trans ?_
        simp [Text.layout, String.append_assoc]

theorem forM {α : Type} {items : List α} {action : α → Writing PUnit} {lines : α → List String}
    (each : ∀ item, WritesLines (action item) (lines item)) :
    WritesLines (items.forM action) (items.flatMap lines) := by
  induction items with
  | nil => exact pure
  | cons item items ih => exact bind (each item) ih

end WritesLines

end Writing

namespace Render

/-- The lines of a doc comment. -/
def docLines : Doc → List String
  | [] => []
  | [single] => ["/**" ++ single ++ " */"]
  | doc => "/**" :: (doc.map (" *" ++ ·) ++ [" */"])

theorem writesLines_docComment (doc : Doc) : (docComment doc).WritesLines (docLines doc) := by
  rcases doc with _ | ⟨first, _ | ⟨second, rest⟩⟩
  · exact .pure
  · exact .line _
  · have starred := @Writing.WritesLines.forM _ (first :: second :: rest) _ _
      fun text => .line (" *" ++ text)
    rw [← List.map_eq_flatMap] at starred
    exact .bind (.line "/**") (.bind starred (.line " */"))

end Render

end BridgeCode
