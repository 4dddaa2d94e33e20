import BridgeCode.Proofs.Emit.Calls
import BridgeCode.Proofs.Writing

/-!
Output that reaches the disk through a buffer.

The texts of a body are put in its file portion by portion: each time they have reached the
threshold, so also in the middle of the body, and once more in the end. `Emitter.Delivers` says what
the file holds then, and `Call.delivered_of_opened` says it of every call that opens a file, whether
its body ends or fails. No text is lost, repeated or moved. But every portion is encoded by itself,
so the file has the text of the writer exactly if no portion ends in the first half of a character
whose second half comes next.
-/

namespace BridgeCode

/-! ## Bodies of files -/

namespace OpenMode

/-- The text of a file that stays when it is opened. -/
def kept (fs : FileSystem) (file : String) : OpenMode → String
  | .truncate => ""
  | .append => (fs.read file).toOption.getD ""

end OpenMode

namespace FileSystem

/-- A file that was opened holds the text that stays. -/
theorem openFile_kept {fs fs' : FileSystem} {mode : OpenMode} {file : String} {place : Location}
    (opened : fs.openFile mode file = .ok (fs', place)) :
    fs'.node? place = some (.file (mode.kept fs file)) := by
  cases mode with
  | truncate => exact openFile_truncated opened
  | append =>
      have below := openFile_below opened
      rcases (openFile_ok opened).2 with
        ⟨folder, name, located, rfl, rfl⟩ | ⟨content, located, entry, rfl⟩
      · have unread : (fs.read file).toOption = none := by simp only [read, located]; rfl
        rw [node?_put _ _ _ _ below, if_pos rfl, OpenMode.kept, unread]
        rfl
      · rw [OpenMode.kept, read_of_found located entry]
        exact entry

end FileSystem

/-- What becomes of a body whose file was opened, `files` being the disk right after that. -/
structure Emitter.Delivers (emitter : Emitter) (body : Writing Unit) (file kept : String)
    (files : FileSystem) (place : Location) (result : Except Fault Unit) (after : World) :
    Prop where
  /-- The call ends as its body ends. -/
  ended : result = (body.runOn { unit := emitter.unit }).1
  /-- The portions together are all texts in their order. -/
  inOrder : (emitter.bodyPortions body).flatten = (body.runOn { unit := emitter.unit }).2.raw
  /-- They follow the text that was kept, each encoded by itself. -/
  read : after.files.read file =
    .ok (kept ++ String.join ((emitter.bodyPortions body).map Text.decode))
  /-- The file has the text of the writer, unless two portions split a character. -/
  whole : after.files.read file = .ok (kept ++ (body.runOn { unit := emitter.unit }).2.text) ↔
    ¬ Text.SplitsPair (emitter.bodyPortions body)
  /-- Texts that stay below the threshold together are split nowhere. -/
  short : (body.runOn { unit := emitter.unit }).2.raw.length < Buffer.threshold →
    ¬ Text.SplitsPair (emitter.bodyPortions body)
  /-- Neither are texts that are well formed: the disk is as if each had been put on it at once. -/
  unbuffered : (∀ text ∈ (body.runOn { unit := emitter.unit }).2.chunks.toList,
      Text.WellFormed text) →
    ¬ Text.SplitsPair (emitter.bodyPortions body) ∧
      after.files = Emitter.deliver place (body.runOn { unit := emitter.unit }).2.chunks.toList files
  /-- The body may have failed after any of its texts. -/
  carried : ∀ texts, texts <+: (body.runOn { unit := emitter.unit }).2.chunks.toList →
    Buffer.Carries texts (texts.foldl Buffer.write {})

/-- How a call opens a file, under which path and for which body. -/
def Call.order? : Call → Option (OpenMode × String × Writing Unit)
  | .createFile folder fileName body => some (.truncate, Path.join [folder, fileName], body)
  | .createFileOnce folder fileName body => some (.truncate, Path.join [folder, fileName], body)
  | .appendToFile folder fileName body => some (.append, Path.join [folder, fileName], body)
  | .createFolder .. => none

namespace Emitter

variable {emitter : Emitter} {mode : OpenMode} {file : String} {body : Writing Unit}
  {world : World} {files : FileSystem} {place : Location}

theorem writeTo_delivers (opened : world.files.openFile mode file = .ok (files, place)) :
    emitter.Delivers body file (mode.kept world.files file) files place
      (((emitter.writeTo mode file body).runOn world).1.map fun _ => ())
      ((emitter.writeTo mode file body).runOn world).2 := by
  have read : (files.appendAt place (emitter.bodyText body)).read file =
      .ok (mode.kept world.files file ++ emitter.bodyText body) := by
    have grows := FileSystem.appendAt_grows files place (emitter.bodyText body)
    refine FileSystem.read_of_found (FileSystem.Grows.locate_opened opened grows) ?_
    simp only [FileSystem.node?_appendAt, FileSystem.openFile_kept opened, if_true]
  rw [runOn_writeTo_opened opened]
  refine ⟨?_, ?_, read, ?_, ?_, ?_, ?_⟩
  · rw [bodyResult]
    cases (body.runOn { unit := emitter.unit }).1 <;> rfl
  · exact Buffer.flatten_output _
  · rw [read, Except.ok.injEq, String.append_right_inj]
    exact Buffer.join_decode_output_iff _
  · exact Buffer.not_splitsPair_output_of_short
  · intro formed
    have none := Text.not_splitsPair_of_wellFormed (Buffer.wellFormed_output formed)
    refine ⟨none, ?_⟩
    have same := (Text.join_decode_of_whole none).trans
      (congrArg Text.decode (Buffer.flatten_output _))
    rw [deliver_eq, Text.join_decode_of_whole (Text.not_splitsPair_of_wellFormed formed), ← same]
    rfl
  · intro texts _
    exact Buffer.Carries.empty.foldl_write texts

end Emitter

namespace Call

variable {emitter : Emitter} {world : World} {call : Call} {mode : OpenMode} {file : String}
  {body : Writing Unit} {place : Location}

/-- A call with a body stops before it opens a file, or comes to opening and writing it. -/
theorem perform_of_order (live : emitter.skip = false)
    (order : call.order? = some (mode, file, body)) :
    (call.after emitter world).journal = world.journal ∨
      ∃ before : World, before.journal = world.journal ∧ (mode = .append → before = world) ∧
        (call.perform emitter).runOn world =
          (((emitter.writeTo mode file body).runOn before).1.map fun _ => (),
            ((emitter.writeTo mode file body).runOn before).2) := by
  cases call with
  | createFile folder fileName body =>
      cases order
      have claims := Emission.claim_moves (Path.forwardSlashes (Path.join [folder, fileName])) world
      rw [after, perform, Emission.runOn_discard]
      rcases claimed : (Emission.claim (Path.forwardSlashes (Path.join [folder, fileName]))).runOn
        world with ⟨fault | _, before⟩
      · rw [claimed] at claims
        rw [Emitter.runOn_createFile_unclaimed claimed]
        exact .inl claims.journal
      · rw [claimed] at claims
        cases clash :
          before.session.clash? (before.files.canonicalPath (Path.join [folder, fileName])) with
        | some existing =>
            rw [Emitter.runOn_createFile_refused live claimed clash]
            exact .inl claims.journal
        | none =>
            rw [Emitter.runOn_createFile_fresh live claimed clash]
            exact .inr ⟨before.enter _, claims.journal, by simp, rfl⟩
  | createFileOnce folder fileName body =>
      cases order
      rw [after, perform, Emission.runOn_discard]
      cases clash :
        world.session.clash? (world.files.canonicalPath (Path.join [folder, fileName])) with
      | some existing =>
          rw [Emitter.runOn_createFileOnce_again clash]
          exact .inl rfl
      | none =>
          have claims := Emission.claim_moves (Path.forwardSlashes (Path.join [folder, fileName]))
            (world.enter (world.files.canonicalPath (Path.join [folder, fileName])))
          rw [Emitter.runOn_createFileOnce_first live clash]
          rcases claimed : (Emission.claim
              (Path.forwardSlashes (Path.join [folder, fileName]))).runOn
            (world.enter (world.files.canonicalPath (Path.join [folder, fileName]))) with
            ⟨fault | _, before⟩
          · rw [claimed] at claims
            rw [Emission.runOn_bind_error claimed]
            exact .inl claims.journal
          · rw [claimed] at claims
            rw [Emission.runOn_bind_ok claimed]
            exact .inr ⟨before, claims.journal, by simp, rfl⟩
  | appendToFile folder fileName body =>
      cases order
      rw [perform, Emission.runOn_discard, Emitter.runOn_appendToFile live]
      exact .inr ⟨world, rfl, fun _ => rfl, rfl⟩
  | createFolder label folder => cases order

/-- A call that opens a file ends as its body ends. The file then holds the text it was opened with,
followed by all texts of the body in their order, in portions that are encoded one by one. So the
buffer in front of the file makes no difference, whatever the sizes of the texts and wherever the
body fails, unless it divides the two halves of a character between two portions. -/
theorem delivered_of_opened (order : call.order? = some (mode, file, body))
    (opened : (call.after emitter world).journal = world.journal ++ [.opened mode file place]) :
    ∃ before files, before.files.openFile mode file = .ok (files, place) ∧
      (mode = .append → before = world) ∧
      emitter.Delivers body file (mode.kept world.files file) files place
        ((call.perform emitter).runOn world).1 (call.after emitter world) := by
  have unopened : (call.after emitter world).journal ≠ world.journal := by simp [opened]
  cases live : emitter.skip with
  | true => exact absurd (call.perform_quiet_of_dry live world).unopened unopened
  | false =>
      rcases perform_of_order live order with stopped | ⟨before, journal, same, performed⟩
      · exact absurd stopped unopened
      · rw [after, performed] at opened unopened ⊢
        cases opening : before.files.openFile mode file with
        | error error =>
            rw [Emitter.runOn_writeTo_refused opening] at unopened
            exact absurd journal unopened
        | ok result =>
            obtain ⟨files, reached⟩ := result
            have delivers := @Emitter.writeTo_delivers emitter _ _ body _ _ _ opening
            rw [Emitter.runOn_writeTo_opened opening, journal] at opened
            obtain rfl : reached = place := by simpa using opened
            refine ⟨before, files, opening, same, ?_⟩
            cases mode with
            | truncate => exact delivers
            | append =>
                obtain rfl := same rfl
                exact delivers

/-- A world whose disk has one file. -/
def oneFileWorld : World where
  files := { cwd := [], entries := [(["a.txt"], .file "old")] }

/-- Its file can be opened anew, and gets the body. -/
theorem perform_oneFile (body : Writing Unit) :
    ∃ before files, before.files.openFile .truncate "/a.txt" = .ok (files, ["a.txt"]) ∧
      before.journal = [] ∧
      ((createFile "/" "a.txt" body).perform {}).runOn oneFileWorld =
        (((Emitter.writeTo {} .truncate "/a.txt" body).runOn before).1.map fun _ => (),
          ((Emitter.writeTo {} .truncate "/a.txt" body).runOn before).2) := by
  have file : Path.join ["/", "a.txt"] = "/a.txt" := by decide +kernel
  have located : oneFileWorld.files.locate "/a.txt" = .found ["a.txt"] := by decide +kernel
  have fresh : oneFileWorld.session.clash? (oneFileWorld.files.canonicalPath "/a.txt") = none := rfl
  have opening := FileSystem.openFile_of_found (by decide +kernel) located rfl .truncate
  refine ⟨oneFileWorld.enter (oneFileWorld.files.canonicalPath "/a.txt"), _, opening, rfl, ?_⟩
  rw [← file] at fresh ⊢
  rw [perform, Emission.runOn_discard,
    Emitter.runOn_createFile_fresh rfl (Emission.runOn_claim_off rfl) fresh]

/-- A text of letters. -/
def letters (count : Nat) : String := String.ofList (List.replicate count 'x')

theorem units_letters (count : Nat) : (Text.encode (letters count)).length = count := by
  rw [Text.length_encode, Text.units, letters, String.toList_ofList]
  induction count with
  | zero => rfl
  | succ count ih =>
      rw [List.replicate_succ, Text.listUnits, ih]
      exact Nat.add_comm 1 count

theorem letters_ne_empty {count : Nat} (some : 0 < count) : letters count ≠ "" := by
  intro blank
  have length := units_letters count
  rw [blank] at length
  exact Nat.ne_of_lt some length

/-- The body writes two texts and fails. -/
def failingBody (text : String) : Writing Unit := do
  .write text
  .write "end"
  throw (.raised .plain "stopped")

theorem runOn_failingBody {text : String} (nonempty : text ≠ "") :
    (failingBody text).runOn {} =
      (.error (.raised .plain "stopped"),
        { atLineStart := false
          chunks := #[Text.encode "", Text.encode text, Text.encode "end"] }) := by
  unfold failingBody
  rw [Writing.runOn_bind_ok (Writing.runOn_write nonempty {}),
    Writing.runOn_bind_ok (Writing.runOn_write (by decide) _)]
  rfl

/-- A text that reaches the threshold by itself is put on the disk at once. It and the text behind
it take the place of the old text. -/
theorem failingBody_delivered :
    (((createFile "/" "a.txt" (failingBody (letters Buffer.threshold))).perform {}).runOn
        oneFileWorld).1 = .error (.raised .plain "stopped") ∧
      ((createFile "/" "a.txt" (failingBody (letters Buffer.threshold))).after {}
        oneFileWorld).files.read "/a.txt" = .ok (letters Buffer.threshold ++ "end") := by
  -- The length of the text is of no account, and nothing here computes with it.
  have delivered : ∀ text, text ≠ "" →
      (((createFile "/" "a.txt" (failingBody text)).perform {}).runOn oneFileWorld).1 =
          .error (.raised .plain "stopped") ∧
        ((createFile "/" "a.txt" (failingBody text)).after {} oneFileWorld).files.read "/a.txt" =
          .ok (text ++ "end") := by
    intro text nonempty
    have file : Path.join ["/", "a.txt"] = "/a.txt" := by decide +kernel
    have ran := runOn_failingBody nonempty
    obtain ⟨before, opened, opening, unwritten, performed⟩ := perform_oneFile (failingBody text)
    have journal : ((createFile "/" "a.txt" (failingBody text)).after {} oneFileWorld).journal =
        oneFileWorld.journal ++ [.opened .truncate "/a.txt" ["a.txt"]] := by
      rw [after, performed, Emitter.runOn_writeTo_opened opening, unwritten]
      rfl
    rw [← file] at journal ⊢
    obtain ⟨-, files, -, -, delivers⟩ := delivered_of_opened rfl journal
    have formed : ∀ chunk ∈ ((failingBody text).runOn {}).2.chunks.toList,
        Text.WellFormed chunk := by
      simp only [ran, List.forall_mem_cons]
      exact ⟨⟨_, rfl⟩, ⟨_, rfl⟩, ⟨_, rfl⟩, by simp⟩
    refine ⟨by rw [delivers.ended, ran], ?_⟩
    rw [delivers.whole.2 (delivers.unbuffered formed).1, ran, Writer.text_eq_decode]
    simp [OpenMode.kept, Text.decode_encode_append]
  exact delivered _ (letters_ne_empty (by decide))

/-- The body writes a text and the two halves of a character. -/
def partedBody (text : String) : Writing Unit := do
  .write text
  .writeUnits [0xD83D]
  .writeUnits [0xDE00]

theorem runOn_partedBody {text : String} (nonempty : text ≠ "") :
    (partedBody text).runOn {} =
      (.ok (),
        { atLineStart := false
          chunks := #[Text.encode "", Text.encode text, [0xD83D], [0xDE00]] }) := by
  unfold partedBody
  rw [Writing.runOn_bind_ok (Writing.runOn_write nonempty {})]
  rfl

/-- If the threshold is reached with the first half, the second half is a portion by itself. -/
theorem bodyPortions_partedBody {text : String}
    (length : (Text.encode text).length + 1 = Buffer.threshold) (nonempty : text ≠ "") :
    Emitter.bodyPortions {} (partedBody text) = [Text.encode text ++ [0xD83D], [0xDE00]] := by
  have start : Buffer.write {} [] = { held := [[]] } := rfl
  have held : Buffer.write { held := [[]] } (Text.encode text) =
      { held := [Text.encode text, []], size := (Text.encode text).length } := by
    rw [Buffer.write_of_short (by dsimp only; omega), Nat.zero_add]
  have full : Buffer.write { held := [Text.encode text, []], size := (Text.encode text).length }
      [0xD83D] = { portions := [Text.encode text ++ [0xD83D]] } := by
    rw [Buffer.write_of_reached (Nat.le_of_eq length.symm)]
    simp
  rw [Emitter.bodyPortions, runOn_partedBody nonempty]
  simp only [Buffer.output, List.foldl_cons, List.foldl_nil, Text.encode_empty, start, held, full]
  rfl

/-- The writer has the character. The file has none, because its first half reaches the threshold
and the second half is encoded by itself. -/
theorem partedBody_replaced :
    ((createFile "/" "a.txt" (partedBody (letters 65535))).after {} oneFileWorld).files.read
        "/a.txt" = .ok (letters 65535 ++ "\uFFFD\uFFFD") ∧
      ((partedBody (letters 65535)).runOn {}).2.text = letters 65535 ++ "😀" ∧
      letters 65535 ++ "\uFFFD\uFFFD" ≠ letters 65535 ++ "😀" := by
  have replaced : ∀ text, text ≠ "" → (Text.encode text).length + 1 = Buffer.threshold →
      ((createFile "/" "a.txt" (partedBody text)).after {} oneFileWorld).files.read "/a.txt" =
          .ok (text ++ "\uFFFD\uFFFD") ∧
        ((partedBody text).runOn {}).2.text = text ++ "😀" ∧
        text ++ "\uFFFD\uFFFD" ≠ text ++ "😀" := by
    intro text nonempty length
    have first : Text.decode [0xD83D] = "\uFFFD" := by decide +kernel
    have second : Text.decode [0xDE00] = "\uFFFD" := by decide +kernel
    have both : Text.decode [0xD83D, 0xDE00] = "😀" := by decide +kernel
    refine ⟨?_, ?_, ?_⟩
    · obtain ⟨before, opened, opening, -, performed⟩ := perform_oneFile (partedBody text)
      have delivers := @Emitter.writeTo_delivers {} _ _ (partedBody text) _ _ _ opening
      rw [after, performed, delivers.read, bodyPortions_partedBody length nonempty]
      simp only [List.map_cons, List.map_nil, String.join_cons, String.join_nil,
        Text.decode_encode_append, first, second, OpenMode.kept, String.empty_append,
        String.append_empty, String.append_assoc]
      rfl
    · rw [runOn_partedBody nonempty, Writer.text_eq_decode]
      simp [Text.decode_encode_append, both]
    · rw [Ne, String.append_right_inj]
      decide
  exact replaced _ (letters_ne_empty (by decide)) (by rw [units_letters]; rfl)

end Call

end BridgeCode
