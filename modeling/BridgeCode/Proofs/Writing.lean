import BridgeCode.Proofs.Emit.Operations
import BridgeCode.Target.Backend

/-!
What bodies of files write.

* `Writing.Prints`: from the margin an action writes the given lines and is back at the margin. The
  fixed parts of files are of this kind, and they compose along `++`.
* `Writing.Adds`: whatever an action does, and also where it fails, what was written before it stays
  in front of what it writes, and what it writes are well-formed texts. Bodies of this kind are in
  their file as they were written (`Emitter.bodyText_eq`), whatever portions a buffer divides them
  into.
* `Writing.Opens`: from the margin an action writes the given lines first. A body that prints lines
  and then adds whatever it does is of this kind (`Prints.opens`), and its text starts with the
  lines (`Emitter.bodyText_of_opens`).
-/

namespace BridgeCode

namespace Text

/-- Lines in a row, each with its end. -/
def ofLines (lines : List String) : String := String.join (lines.map (· ++ "\n"))

@[simp]
theorem ofLines_nil : ofLines [] = "" := rfl

@[simp]
theorem ofLines_append (lines more : List String) :
    ofLines (lines ++ more) = ofLines lines ++ ofLines more := by
  rw [ofLines, List.map_append, String.join_append, ofLines, ofLines]

@[simp]
theorem ofLines_singleton (line : String) : ofLines [line] = line ++ "\n" := by
  simp [ofLines, String.join]

end Text

namespace Writer

/-- The writer stands at the start of a line that is not indented. -/
structure AtMargin (writer : Writer) : Prop where
  lineStart : writer.atLineStart = true
  unindented : writer.indent = ""

theorem text_eq_decode (writer : Writer) :
    writer.text = Text.decode writer.chunks.toList.flatten := rfl

@[simp]
theorem text_push (writer : Writer) (text : String) :
    ({ writer with chunks := writer.chunks.push (Text.encode text) } : Writer).text =
      writer.text ++ text := by
  rw [text_eq_decode, text_eq_decode, Array.toList_push, List.flatten_append,
    List.flatten_singleton, Text.decode_append_encode]

/-- The first text of a line follows the indentation. -/
theorem text_push_push (writer : Writer) (text : String) :
    ({ writer with
        atLineStart := false
        chunks := (writer.chunks.push (Text.encode writer.indent)).push (Text.encode text) } :
      Writer).text = writer.text ++ (writer.indent ++ text) := by
  have indented := writer.text_push writer.indent
  have whole := text_push { writer with chunks := writer.chunks.push (Text.encode writer.indent) } text
  rw [indented, String.append_assoc] at whole
  exact whole

end Writer

namespace Writing

variable {α β : Type}

/-! ## How actions of a writer unfold -/

@[simp]
theorem runOn_pure (value : α) (writer : Writer) :
    (pure value : Writing α).runOn writer = (.ok value, writer) := rfl

@[simp]
theorem runOn_throw (fault : Fault) (writer : Writer) :
    (throw fault : Writing α).runOn writer = (.error fault, writer) := rfl

@[simp]
theorem runOn_get (writer : Writer) :
    (get : Writing Writer).runOn writer = (.ok writer, writer) := rfl

@[simp]
theorem runOn_modify (change : Writer → Writer) (writer : Writer) :
    (modify change : Writing Unit).runOn writer = (.ok (), change writer) := rfl

theorem runOn_bind (action : Writing α) (next : α → Writing β) (writer : Writer) :
    (action >>= next).runOn writer =
      match action.runOn writer with
      | (.ok value, after) => (next value).runOn after
      | (.error fault, after) => (.error fault, after) := by
  have unfolded := run_bind_state action next writer
  unfold runOn
  rw [unfolded]
  rcases (ExceptT.run action).run writer with ⟨fault | value, after⟩ <;> rfl

theorem runOn_bind_ok {action : Writing α} {writer after : Writer} {value : α}
    (step : action.runOn writer = (.ok value, after)) (next : α → Writing β) :
    (action >>= next).runOn writer = (next value).runOn after := by
  rw [runOn_bind, step]

theorem runOn_tryCatch (action : Writing α) (handler : Fault → Writing α) (writer : Writer) :
    (tryCatch action handler).runOn writer =
      match action.runOn writer with
      | (.ok value, after) => (.ok value, after)
      | (.error fault, after) => (handler fault).runOn after := by
  have unfolded : ExceptT.run (tryCatch action handler) = ExceptT.tryCatch action handler := rfl
  rw [runOn, unfolded, ExceptT.tryCatch, ExceptT.mk, StateT.run_bind]
  rcases ran : action.runOn writer with ⟨fault | value, after⟩
  · rw [show StateT.run action writer = (.error fault, after) from ran]
    rfl
  · rw [show StateT.run action writer = (.ok value, after) from ran]
    rfl

theorem runOn_restoringIndent {action : Writing α} {writer after : Writer}
    {result : Except Fault α} (ran : action.runOn writer = (result, after)) :
    (restoringIndent action).runOn writer = (result, { after with indent := writer.indent }) := by
  have unfolded : (restoringIndent action).runOn writer =
      ((action.runOn writer).1, { (action.runOn writer).2 with indent := writer.indent }) := rfl
  rw [unfolded, ran]

/-- The first text of a line that is not empty brings the indentation with it. -/
theorem runOn_writeUnits {text : Text.Raw} (nonempty : text ≠ []) (writer : Writer) :
    (Writing.writeUnits text).runOn writer =
      (.ok (),
        if writer.atLineStart then
          { writer with
            atLineStart := false
            chunks := (writer.chunks.push (Text.encode writer.indent)).push text }
        else { writer with chunks := writer.chunks.push text }) := by
  have isText : text.isEmpty = false := by simpa using nonempty
  obtain ⟨unit, indent, atLineStart, chunks⟩ := writer
  unfold Writing.writeUnits
  rw [isText]
  cases atLineStart <;> rfl

theorem runOn_write {text : String} (nonempty : text ≠ "") (writer : Writer) :
    (Writing.write text).runOn writer =
      (.ok (),
        if writer.atLineStart then
          { writer with
            atLineStart := false
            chunks := (writer.chunks.push (Text.encode writer.indent)).push (Text.encode text) }
        else { writer with chunks := writer.chunks.push (Text.encode text) }) :=
  runOn_writeUnits (mt Text.encode_eq_nil_iff.1 nonempty) writer

/-- A text leaves both the level and the indentation alone. -/
theorem runOn_write_frame (text : String) (writer : Writer) :
    ∃ atLineStart chunks,
      (Writing.write text).runOn writer = (.ok (), { writer with atLineStart, chunks }) := by
  by_cases empty : text = ""
  · subst empty
    exact ⟨writer.atLineStart, writer.chunks, rfl⟩
  · rw [runOn_write empty]
    split
    · exact ⟨_, _, rfl⟩
    · exact ⟨writer.atLineStart, _, rfl⟩

/-- A line leaves both the level and the indentation alone. -/
theorem runOn_line_frame (text : String) (writer : Writer) :
    ∃ chunks, (Writing.line text).runOn writer =
      (.ok (), { writer with atLineStart := true, chunks }) := by
  obtain ⟨atLineStart, chunks, wrote⟩ := runOn_write_frame text writer
  refine ⟨chunks.push (Text.encode "\n"), ?_⟩
  unfold Writing.line
  rw [runOn_bind_ok wrote]
  rfl

/-- From the margin a text is written as it is. -/
theorem text_write {writer : Writer} (margin : writer.AtMargin) (text : String) :
    ((Writing.write text).runOn writer).2.text = writer.text ++ text := by
  by_cases blank : text = ""
  · subst blank
    exact String.append_empty.symm
  · rw [runOn_write blank, if_pos margin.lineStart]
    dsimp only
    rw [Writer.text_push_push, margin.unindented, String.empty_append]

/-! ## Actions that add text -/

/-- What was written before stays in front of what the action writes, whether or not it fails, and
each text that it writes is well formed. -/
def Adds (action : Writing α) : Prop :=
  ∀ writer : Writer, ∃ more : List Text.Raw,
    (action.runOn writer).2.chunks.toList = writer.chunks.toList ++ more ∧
      ∀ text ∈ more, Text.WellFormed text

theorem Adds.of_chunks_eq {action : Writing α}
    (same : ∀ writer : Writer, (action.runOn writer).2.chunks = writer.chunks) : Adds action :=
  fun writer => ⟨[], by rw [same, List.append_nil], by simp⟩

theorem Adds.pure (value : α) : Adds (Pure.pure value : Writing α) := .of_chunks_eq fun _ => rfl

theorem Adds.bind {action : Writing α} {next : α → Writing β} (first : Adds action)
    (second : ∀ value, Adds (next value)) : Adds (action >>= next) := by
  intro writer
  obtain ⟨more, chunks, formed⟩ := first writer
  rw [runOn_bind]
  rcases ran : action.runOn writer with ⟨fault | value, middle⟩
  · rw [ran] at chunks
    exact ⟨more, chunks, formed⟩
  · rw [ran] at chunks
    obtain ⟨most, chunks', formed'⟩ := second value middle
    refine ⟨more ++ most, by rw [chunks', chunks, List.append_assoc], fun text member => ?_⟩
    exact (List.mem_append.1 member).elim (formed text) (formed' text)

theorem Adds.put (text : String) : Adds (.put (Text.encode text)) :=
  fun _ => ⟨[Text.encode text], Array.toList_push, by simp [Text.wellFormed_encode]⟩

theorem Adds.write (text : String) : Adds (.write text) := by
  unfold Writing.write writeUnits
  cases (Text.encode text).isEmpty with
  | true => exact .pure _
  | false =>
      refine .bind (.of_chunks_eq fun _ => rfl) fun writer => ?_
      cases writer.atLineStart with
      | false => exact .put text
      | true =>
          refine .bind (.put writer.indent) fun _ => ?_
          exact .bind (.of_chunks_eq fun _ => rfl) fun _ => .put text

theorem Adds.line (text : String) : Adds (.line text) :=
  .bind (.write text) fun _ => .bind (.put "\n") fun _ => .of_chunks_eq fun _ => rfl

theorem Adds.restoringIndent {action : Writing α} (adds : Adds action) :
    Adds (restoringIndent action) := adds

theorem Adds.nested {action : Writing α} (adds : Adds action) : Adds (nested action) := by
  unfold Writing.nested nestedBy
  rw [if_neg (by decide)]
  refine .restoringIndent (.bind ?_ fun _ => adds)
  exact .of_chunks_eq fun _ => rfl

theorem Adds.ofExcept (result : Except GenerateError α) : Adds (.ofExcept result) := by
  cases result with
  | ok value => exact .pure value
  | error error => exact .of_chunks_eq fun _ => rfl

/-- The text that was written before stays in front of the text of the action. -/
theorem Adds.text {action : Writing α} (adds : Adds action) (writer : Writer) :
    ∃ more, (action.runOn writer).2.text = writer.text ++ more := by
  obtain ⟨added, chunks, formed⟩ := adds writer
  obtain ⟨more, whole⟩ := Text.WellFormed.flatten formed
  refine ⟨more, ?_⟩
  rw [Writer.text_eq_decode, chunks, List.flatten_append, whole, Text.decode_append_encode,
    Writer.text_eq_decode]

/-! ## Actions that print lines -/

/-- From the margin the action writes the lines and is back at the margin. -/
structure Prints (action : Writing Unit) (lines : List String) : Prop where
  adds : Adds action
  runs : ∀ writer : Writer, writer.AtMargin →
    ∃ after, action.runOn writer = (.ok (), after) ∧ after.AtMargin ∧
      after.text = writer.text ++ Text.ofLines lines

theorem Prints.pure : Prints (Pure.pure ()) [] where
  adds := .pure ()
  runs writer margin := ⟨writer, rfl, margin, by simp⟩

theorem Prints.bind {action : Writing Unit} {next : Unit → Writing Unit} {lines more : List String}
    (first : Prints action lines) (second : Prints (next ()) more) :
    Prints (action >>= next) (lines ++ more) := by
  refine ⟨first.adds.bind fun _ => second.adds, fun writer margin => ?_⟩
  obtain ⟨middle, ran, margin, text⟩ := first.runs writer margin
  obtain ⟨after, ran', margin, text'⟩ := second.runs middle margin
  refine ⟨after, ?_, margin, ?_⟩
  · rw [runOn_bind_ok ran, ran']
  · rw [text', text, Text.ofLines_append, String.append_assoc]

theorem Prints.line (text : String) : Prints (.line text) [text] := by
  refine ⟨.line text, fun writer margin => ?_⟩
  obtain ⟨atLineStart, chunks, wrote⟩ := runOn_write_frame text writer
  have written := text_write margin text
  rw [wrote] at written
  refine ⟨{ writer with atLineStart := true, chunks := chunks.push (Text.encode "\n") }, ?_,
    ⟨rfl, margin.unindented⟩, ?_⟩
  · unfold Writing.line
    rw [runOn_bind_ok wrote]
    rfl
  · rw [Text.ofLines_singleton, ← String.append_assoc, ← written]
    exact Writer.text_push { writer with atLineStart, chunks } "\n"

theorem Prints.newline : Prints .newline [""] := .line ""

theorem Prints.lines (texts : List String) : Prints (.lines texts) texts := by
  induction texts with
  | nil => exact .pure
  | cons text texts ih =>
      have unfolded : Writing.lines (text :: texts) = .line text >>= fun _ => .lines texts := rfl
      rw [unfolded]
      exact .bind (.line text) ih

/-! ## Actions that write lines first -/

/-- From the margin the action writes the lines and then something, up to its end or to where it
fails. -/
structure Opens (action : Writing Unit) (lines : List String) : Prop where
  adds : Adds action
  starts : ∀ writer : Writer, writer.AtMargin →
    ∃ rest, (action.runOn writer).2.text = writer.text ++ (Text.ofLines lines ++ rest)

theorem Adds.opens {action : Writing Unit} (adds : Adds action) : Opens action [] := by
  refine ⟨adds, fun writer _ => ?_⟩
  obtain ⟨more, text⟩ := adds.text writer
  exact ⟨more, by rw [text, Text.ofLines_nil, String.empty_append]⟩

theorem Prints.opens {action : Writing Unit} {next : Unit → Writing Unit}
    {lines more : List String} (prints : Prints action lines) (opens : Opens (next ()) more) :
    Opens (action >>= next) (lines ++ more) := by
  refine ⟨prints.adds.bind fun _ => opens.adds, fun writer margin => ?_⟩
  obtain ⟨middle, ran, margin, text⟩ := prints.runs writer margin
  obtain ⟨rest, text'⟩ := opens.starts middle margin
  refine ⟨rest, ?_⟩
  rw [runOn_bind_ok ran, text', text, Text.ofLines_append, String.append_assoc,
    String.append_assoc]

end Writing

/-! ## Texts of bodies -/

namespace Emitter

/-- Where an action adds well-formed texts, the file has what the writer says. -/
theorem bodyText_eq (emitter : Emitter) {body : Writing Unit} (adds : body.Adds) :
    emitter.bodyText body = (body.runOn { unit := emitter.unit }).2.text := by
  obtain ⟨texts, chunks, formed⟩ := adds { unit := emitter.unit }
  rw [bodyText, bodyPortions, Writer.text_eq_decode, chunks]
  exact Buffer.join_decode_output formed

/-- A body that prints lines has their text. -/
theorem bodyText_of_prints (emitter : Emitter) {body : Writing Unit} {lines : List String}
    (prints : body.Prints lines) : emitter.bodyText body = Text.ofLines lines := by
  obtain ⟨after, ran, -, text⟩ := prints.runs { unit := emitter.unit } ⟨rfl, rfl⟩
  rw [bodyText_eq emitter prints.adds, ran, text]
  exact String.empty_append

/-- The text of a body that writes lines first starts with them. -/
theorem bodyText_of_opens (emitter : Emitter) {body : Writing Unit} {lines : List String}
    (opens : body.Opens lines) : ∃ rest, emitter.bodyText body = Text.ofLines lines ++ rest := by
  obtain ⟨rest, text⟩ := opens.starts { unit := emitter.unit } ⟨rfl, rfl⟩
  have blank : ({ unit := emitter.unit } : Writer).text = "" := rfl
  rw [blank, String.empty_append] at text
  exact ⟨rest, (bodyText_eq emitter opens.adds).trans text⟩

end Emitter

namespace Render

/-- The lines of the banner at the top of a file. -/
def bannerLines (origin commentMark : String) : List String :=
  [commentMark ++ " AUTOGENERATED FILE - DO NOT MODIFY!",
    commentMark ++ " This file was generated by bridgegen from " ++ origin]

theorem prints_banner (origin commentMark : String) :
    (banner origin commentMark).Prints (bannerLines origin commentMark) :=
  .bind (.line _) (.line _)

end Render

end BridgeCode
