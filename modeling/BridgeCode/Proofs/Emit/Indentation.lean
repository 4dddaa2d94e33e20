import BridgeCode.Proofs.Writing

/-!
The indentation after calls on a writer.

Nested calls save the indentation and put it back, so nothing in a body, failures included, reaches
beyond them. An outdented line takes the length of one level off and adds one level again, which
gives the old indentation back only if it ended with a level (`relevel_eq_iff`).

* `Operation.after_frame`: the indentation after one call, whether it succeeds or fails.
* `Operation.indent_afterAll`: the indentation after calls in a row. The first outdented line leaves
  an indentation that ends with a level, so later ones change nothing more.
* `Operation.indent_restored_iff`: exactly when calls leave the indentation as it was, and how a
  line after them is indented.
-/

namespace BridgeCode

namespace Writing

/-- The indentation after an outdented line. -/
def relevel (unit indent : String) : String := outdent unit indent ++ unit

/-- Taking a level off and adding one again changes nothing exactly if there was one. -/
theorem relevel_eq_iff {unit indent : String} :
    relevel unit indent = indent ↔ unit.toList <:+ indent.toList := by
  constructor
  · intro same
    rw [← same, relevel, String.toList_append]
    exact List.suffix_append _ _
  · rintro ⟨front, split⟩
    have length : Text.units indent - Text.units unit = Text.listUnits front := by
      rw [Text.units, Text.units, ← split, Text.listUnits_append, Nat.add_sub_cancel]
    rw [relevel, outdent, length, ← split, Text.takeUnits_listUnits_append, ← String.toList_inj,
      String.toList_append, String.toList_ofList, split]

theorem relevel_relevel (unit indent : String) :
    relevel unit (relevel unit indent) = relevel unit indent := by
  refine relevel_eq_iff.2 ?_
  rw [relevel, String.toList_append]
  exact List.suffix_append _ _

/-- At the start of a line the indentation stands in front of the text. -/
theorem text_after_line {text : String} (nonempty : text ≠ "") {writer : Writer}
    (start : writer.atLineStart = true) :
    ((Writing.line text).runOn writer).2.text = writer.text ++ (writer.indent ++ text ++ "\n") := by
  unfold Writing.line
  rw [runOn_bind_ok (runOn_write nonempty writer), if_pos start]
  refine (Writer.text_push _ "\n").trans ?_
  rw [Writer.text_push_push, String.append_assoc]

/-! ## Calls with bodies -/

/-- What a nested call runs. It can do anything to the writer but change what a level is. -/
structure Body where
  action : Writing Unit
  keepsUnit : ∀ writer, (action.runOn writer).2.unit = writer.unit

/-- Calls on a writer. -/
inductive Operation where
  | write (text : String)
  | line (text : String)
  | lineOutdented (text : String)
  | nested (body : Body)
  | nestedBy (amount : Int) (body : Body)
  | braced (body : Body)

namespace Operation

/-- The call as an action on a writer. -/
def perform : Operation → Writing Unit
  | write text => Writing.write text
  | line text => Writing.line text
  | lineOutdented text => Writing.lineOutdented text
  | nested body => Writing.nested body.action
  | nestedBy amount body => Writing.nestedBy amount body.action
  | braced body => Writing.braced body.action

/-- Whether the call is for an outdented line. -/
def outdents : Operation → Bool
  | lineOutdented _ => true
  | _ => false

/-- The writer after a call, whatever comes of it. -/
def after (writer : Writer) (operation : Operation) : Writer := (operation.perform.runOn writer).2

/-- The writer after calls. -/
def afterAll (writer : Writer) (operations : List Operation) : Writer :=
  operations.foldl after writer

/-- An outdented line leaves the level alone and levels the indentation. -/
theorem after_lineOutdented (text : String) (writer : Writer) :
    ∃ chunks, after writer (.lineOutdented text) =
      { writer with indent := relevel writer.unit writer.indent, atLineStart := true, chunks } := by
  obtain ⟨chunks, ran⟩ := runOn_line_frame text
    { writer with indent := outdent writer.unit writer.indent }
  refine ⟨chunks, ?_⟩
  unfold after perform Writing.lineOutdented
  rw [runOn_bind_ok (runOn_modify _ writer), runOn_bind_ok ran]
  rfl

/-- A nested call leaves the level and the indentation alone, also where it is refused. -/
theorem runOn_nestedBy_frame (amount : Int) (body : Body) (writer : Writer) :
    ((Writing.nestedBy amount body.action).runOn writer).2.unit = writer.unit ∧
      ((Writing.nestedBy amount body.action).runOn writer).2.indent = writer.indent := by
  unfold Writing.nestedBy
  split
  · exact ⟨rfl, rfl⟩
  · rcases ran : (do
        modify fun writer => { writer with
          indent := writer.indent ++ String.join (List.replicate amount.toNat writer.unit) }
        body.action : Writing Unit).runOn writer with ⟨result, after⟩
    rw [runOn_restoringIndent ran]
    refine ⟨?_, rfl⟩
    rw [runOn_bind_ok (runOn_modify _ writer)] at ran
    have kept := body.keepsUnit { writer with
      indent := writer.indent ++ String.join (List.replicate amount.toNat writer.unit) }
    rw [ran] at kept
    exact kept

/-- A call between braces leaves the level and the indentation alone, also where the body fails. -/
theorem runOn_braced_frame (body : Body) (writer : Writer) :
    ((Writing.braced body.action).runOn writer).2.unit = writer.unit ∧
      ((Writing.braced body.action).runOn writer).2.indent = writer.indent := by
  obtain ⟨chunks, opened⟩ := runOn_line_frame "\x7b" writer
  obtain ⟨unit, indent⟩ := runOn_nestedBy_frame 1 body
    { writer with atLineStart := true, chunks := chunks }
  unfold Writing.braced
  rw [runOn_bind_ok opened, runOn_bind]
  rcases ran : (Writing.nested body.action).runOn
    { writer with atLineStart := true, chunks := chunks } with ⟨fault | value, middle⟩
  · have ran : (Writing.nestedBy 1 body.action).runOn _ = _ := ran
    rw [ran] at unit indent
    exact ⟨unit, indent⟩
  · have ran : (Writing.nestedBy 1 body.action).runOn _ = _ := ran
    rw [ran] at unit indent
    obtain ⟨chunks, closed⟩ := runOn_line_frame "\x7d" middle
    dsimp only
    rw [closed]
    exact ⟨unit, indent⟩

/-- A call leaves the level alone. It leaves the indentation as it was, or levels it if it is for an
outdented line. -/
theorem after_frame (writer : Writer) (operation : Operation) :
    (after writer operation).unit = writer.unit ∧
      (after writer operation).indent =
        if operation.outdents then relevel writer.unit writer.indent else writer.indent := by
  cases operation with
  | write text =>
      obtain ⟨atLineStart, chunks, ran⟩ := runOn_write_frame text writer
      rw [after, perform, ran]
      exact ⟨rfl, rfl⟩
  | line text =>
      obtain ⟨chunks, ran⟩ := runOn_line_frame text writer
      rw [after, perform, ran]
      exact ⟨rfl, rfl⟩
  | lineOutdented text =>
      obtain ⟨chunks, ran⟩ := after_lineOutdented text writer
      rw [ran]
      exact ⟨rfl, rfl⟩
  | nested body => exact runOn_nestedBy_frame 1 body writer
  | nestedBy amount body => exact runOn_nestedBy_frame amount body writer
  | braced body => exact runOn_braced_frame body writer

/-- Calls level the indentation if one of them is for an outdented line. -/
theorem indent_afterAll (writer : Writer) (operations : List Operation) :
    (afterAll writer operations).indent =
      if operations.any outdents then relevel writer.unit writer.indent else writer.indent := by
  induction operations generalizing writer with
  | nil => rfl
  | cons operation operations ih =>
      rw [afterAll, List.foldl_cons, List.any_cons]
      obtain ⟨unit, indent⟩ := after_frame writer operation
      have later := ih (after writer operation)
      rw [unit, indent, afterAll] at later
      rw [later]
      cases operation.outdents with
      | false => rfl
      | true =>
          -- The indentation ends with a level from here on.
          simp only [if_true, relevel_relevel, ite_self, Bool.true_or]

/-- A call leaves the indentation as it was, whether it succeeds or fails, unless it is for an
outdented line and the indentation does not end with a level; so do calls in a row. A line after
them has the old indentation, or the leveled one if one of them was for an outdented line. The
indentation is made of whole characters: one that taking off a level would part is taken off. -/
theorem indent_restored_iff (writer : Writer) (operations : List Operation) :
    (∀ operation, (after writer operation).indent = writer.indent ↔
      (operation.outdents = true → writer.unit.toList <:+ writer.indent.toList)) ∧
    ((afterAll writer operations).indent = writer.indent ↔
      (operations.any outdents = true → writer.unit.toList <:+ writer.indent.toList)) ∧
    ∀ text, text ≠ "" → (afterAll writer operations).atLineStart = true →
      (afterAll writer (operations ++ [.line text])).text =
        (afterAll writer operations).text ++
          ((if operations.any outdents then relevel writer.unit writer.indent else writer.indent) ++
            text ++ "\n") := by
  refine ⟨fun operation => ?_, ?_, fun text nonempty start => ?_⟩
  · rw [(after_frame writer operation).2]
    cases operation.outdents with
    | false => simp
    | true => simpa using relevel_eq_iff
  · rw [indent_afterAll]
    cases operations.any outdents with
    | false => simp
    | true => simpa using relevel_eq_iff
  · have split : afterAll writer (operations ++ [.line text]) =
        after (afterAll writer operations) (.line text) := by
      rw [afterAll, List.foldl_append]
      rfl
    rw [split, after, perform, text_after_line nonempty start, indent_afterAll]

/-- An indentation of two signs in front of levels of four: a nested call that fails is without
effect on it, and an outdented line turns it into a level. -/
theorem short_indentation_leveled :
    let writer : Writer := { unit := "    ", indent := "> " }
    let boom : Body := ⟨throw (.raised .plain "boom"), fun _ => rfl⟩
    (after writer (.nestedBy (-2) boom)).indent = "> " ∧
      (afterAll writer [.braced boom, .line "a"]).indent = "> " ∧
      (afterAll writer [.braced boom, .lineOutdented "a"]).indent ≠ "> " ∧
      (afterAll writer [.braced boom, .lineOutdented "a", .line "b"]).text =
        "> \x7b\na\n    b\n" := by
  intro writer boom
  have unleveled : ¬ writer.unit.toList <:+ writer.indent.toList := by decide
  have plain := indent_restored_iff writer [.braced boom, .line "a"]
  have outdented := indent_restored_iff writer [.braced boom, .lineOutdented "a"]
  refine ⟨(plain.1 _).2 nofun, plain.2.1.2 nofun, fun same => ?_, ?_⟩
  · exact unleveled (outdented.2.1.1 same rfl)
  · have written := outdented.2.2 "b" (by decide) (by decide +kernel)
    refine written.trans ?_
    decide +kernel

/-- An outdented line where there is no indentation to take off: lines after it are indented. -/
theorem margin_not_restored :
    (after {} (.lineOutdented "a")).indent ≠ ({} : Writer).indent ∧
      (afterAll {} [.lineOutdented "a", .line "b"]).text = "a\n    b\n" ∧
      (afterAll {} [.line "a", .line "b"]).text = "a\nb\n" := by
  decide +kernel

end Operation

end Writing

end BridgeCode
