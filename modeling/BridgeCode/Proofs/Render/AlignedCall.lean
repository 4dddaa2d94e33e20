import BridgeCode.Proofs.Emit.Outline
import BridgeCode.Render.AlignedCall

/-!
The columns of aligned calls.

What an aligned call writes is a block of rows, one for each parameter (`Row.block`). A row is the
parameter and what stands in front of it: the indentation and the call for the first one, and the
indentation and the padding for the others (`rowsOf`).

* `Writing.Spans`: from the start of a line or from within it, an action writes a text that depends
  on the indentation only. Such actions compose along `++`, and both kinds of calls are of this
  kind (`spans_alignedCall`, `spans_alignedKeywordCall`).
* `Row.columns_eq`: the columns of the parameters are the lengths of what stands in front of them.
* `aligned_calls_line_up`: both together, for calls with and without keywords.
-/

namespace BridgeCode

namespace Text

/-- The column at the end of a text: the code units since the last end of a line. -/
def column (text : String) : Nat :=
  text.toList.foldl (fun column c => if c = '\n' then 0 else column + charUnits c) 0

theorem column_append_of_singleLine (text : String) {more : String} (single : SingleLine more) :
    column (text ++ more) = column text + units more := by
  have counted : ∀ (chars : List Char) (seen : Nat), '\n' ∉ chars →
      chars.foldl (fun column c => if c = '\n' then 0 else column + charUnits c) seen =
        seen + listUnits chars := by
    intro chars
    induction chars with
    | nil => exact fun _ _ => rfl
    | cons c chars ih =>
        intro seen absent
        rw [List.mem_cons, not_or] at absent
        rw [List.foldl_cons, if_neg (Ne.symm absent.1), ih _ absent.2, listUnits, Nat.add_assoc]
  rw [column, String.toList_append, List.foldl_append, counted _ _ single]
  rfl

@[simp]
theorem column_append_newline (text : String) : column (text ++ "\n") = 0 := by
  rw [column, String.toList_append, List.foldl_append]
  rfl

end Text

namespace Writing

variable {α : Type}

/-! ## Texts within a line -/

/-- From the start of a line or from within it, the action writes a text for the indentation and
stands at the start of a line or within it again. -/
def Spans (starts ends : Bool) (action : Writing Unit) (text : String → String) : Prop :=
  ∀ writer : Writer, writer.atLineStart = starts →
    ∃ after, action.runOn writer = (.ok (), after) ∧ after.indent = writer.indent ∧
      after.atLineStart = ends ∧ after.text = writer.text ++ text writer.indent

namespace Spans

variable {starts middle ends : Bool}

theorem bind {action : Writing Unit} {next : Unit → Writing Unit} {text more : String → String}
    (first : Spans starts middle action text) (second : Spans middle ends (next ()) more) :
    Spans starts ends (action >>= next) fun indent => text indent ++ more indent := by
  intro writer start
  obtain ⟨between, ran, indent, start, written⟩ := first writer start
  obtain ⟨after, ran', indent', start', written'⟩ := second between start
  refine ⟨after, ?_, indent'.trans indent, start', ?_⟩
  · rw [runOn_bind_ok ran, ran']
  · rw [written', written, indent, String.append_assoc]

theorem of_eq {action : Writing Unit} {text text' : String → String}
    (spans : Spans starts ends action text) (same : ∀ indent, text indent = text' indent) :
    Spans starts ends action text' := by
  rwa [← funext same]

theorem pure : Spans starts starts (Pure.pure ()) fun _ => "" :=
  fun writer start => ⟨writer, rfl, rfl, start, String.append_empty.symm⟩

theorem write (text : String) : Spans false false (.write text) fun _ => text := by
  intro writer start
  by_cases empty : text = ""
  · subst empty
    exact ⟨writer, rfl, rfl, start, String.append_empty.symm⟩
  · rw [runOn_write empty, if_neg (Bool.eq_false_iff.1 start)]
    exact ⟨_, rfl, rfl, start, writer.text_push text⟩

theorem write_start {text : String} (nonempty : text ≠ "") :
    Spans true false (.write text) fun indent => indent ++ text := by
  intro writer start
  rw [runOn_write nonempty, if_pos start]
  exact ⟨_, rfl, rfl, rfl, writer.text_push_push text⟩

theorem newline : Spans false true .newline fun _ => "\n" :=
  fun writer _ => ⟨_, rfl, rfl, rfl, writer.text_push "\n"⟩

theorem line (text : String) : Spans false true (.line text) fun _ => text ++ "\n" :=
  .bind (.write text) newline

/-- At the start of a line, a text in front of others takes the indentation with it, or leaves it to
them if it is empty. -/
theorem write_bind {front : String} {next : Unit → Writing Unit} {more : String}
    (fresh : Spans true ends (next ()) fun indent => indent ++ more)
    (within : Spans false ends (next ()) fun _ => more) :
    Spans true ends (.write front >>= next) fun indent => indent ++ (front ++ more) := by
  by_cases empty : front = ""
  · subst empty
    intro writer start
    have silent : (Writing.write "").runOn writer = (.ok (), writer) := rfl
    rw [runOn_bind_ok silent, String.empty_append]
    exact fresh writer start
  · simpa only [String.append_assoc] using bind (write_start empty) within

theorem forM {items : List α} {action : α → Writing PUnit} {text : α → String → String}
    (each : ∀ item ∈ items, Spans starts starts (action item) (text item)) :
    Spans starts starts (items.forM action) fun indent =>
      String.join (items.map (text · indent)) := by
  induction items with
  | nil => exact pure
  | cons item items ih =>
      simp only [List.map_cons, String.join_cons]
      exact bind (each item List.mem_cons_self)
        (ih fun other member => each other (List.mem_cons_of_mem _ member))

end Spans

end Writing

namespace Render

open Text Writing

variable {α : Type}

/-! ## Rows -/

/-- A parameter and what stands in front of it on its line. -/
structure Row where
  lead : String
  param : String
deriving DecidableEq

/-- The rows of parameters: `call` stands in front of the first one and a padding in front of each
of the others, behind the indentation. -/
def rowsOf (indent call : String) (padding param : α → String) : List α → List Row
  | [] => []
  | first :: rest =>
    ⟨indent ++ call, param first⟩ :: rest.map fun item => ⟨indent ++ padding item, param item⟩

namespace Row

/-- The text of a row. -/
def text (row : Row) : String := row.lead ++ row.param

/-- Rows one below the other. The delimiter stands at the end of all but the last. -/
def block (delimiter : String) (rows : List Row) : String :=
  (delimiter ++ "\n").intercalate (rows.map text)

/-- The columns in which the parameters of a block start, when the rows stand below `above`. -/
def columns (delimiter : String) : String → List Row → List Nat
  | _, [] => []
  | above, row :: rows =>
    column (above ++ row.lead) :: columns delimiter (above ++ row.text ++ (delimiter ++ "\n")) rows

theorem block_cons (delimiter : String) (row : Row) (rows : List Row) :
    block delimiter (row :: rows) =
      row.text ++ String.join (rows.map fun row => delimiter ++ "\n" ++ row.text) := by
  induction rows generalizing row with
  | nil => simp [block, String.join]
  | cons next rows ih =>
      have step : block delimiter (row :: next :: rows) =
          row.text ++ (delimiter ++ "\n") ++ block delimiter (next :: rows) := by
        rw [block, List.map_cons, List.map_cons, String.intercalate_cons_cons]
        rfl
      rw [step, ih, List.map_cons, String.join_cons]
      simp only [String.append_assoc]

/-- A parameter starts in the column that is the length of what stands in front of it. -/
theorem columns_eq {delimiter above : String} {rows : List Row} (margin : column above = 0)
    (single : ∀ row ∈ rows, SingleLine row.lead) :
    columns delimiter above rows = rows.map (units ·.lead) := by
  induction rows generalizing above with
  | nil => rfl
  | cons row rows ih =>
      rw [List.forall_mem_cons] at single
      rw [columns, List.map_cons, column_append_of_singleLine above single.1, margin, Nat.zero_add,
        ih _ single.2]
      rw [← String.append_assoc, column_append_newline]

end Row

/-! ## Calls as rows -/

@[simp]
theorem units_spaces (count : Nat) : units (spaces count) = count := by
  rw [units, spaces, String.toList_ofList]
  induction count with
  | zero => rfl
  | succ count ih => rw [List.replicate_succ, listUnits, ih, Nat.add_comm]; rfl

/-- The padding below a call starts the line, as a call is not empty. -/
theorem spaces_units_ne {call : String} (nonempty : call ≠ "") : spaces (units call) ≠ "" := by
  intro blank
  have none : units call = 0 := by rw [← units_spaces (units call), blank]; rfl
  refine nonempty (String.toList_injective ?_)
  cases chars : call.toList with
  | nil => rfl
  | cons c rest =>
      have := charUnits_pos c
      rw [units, chars, listUnits] at none
      omega

/-- The rows of an aligned call. -/
def callRows (indent call : String) (param : α → String) (params : List α) : List Row :=
  rowsOf indent call (fun _ => spaces (units call)) param params

/-- The rows of a keyword call. A keyword is padded to the length of the call. -/
def keywordRows (indent call : String) (keyword value : α → String) (params : List α) : List Row :=
  rowsOf indent call
    (fun param => spaces (units call - units (keyword param)) ++ keyword param)
    (fun param => ":" ++ value param) params

/-- What a call writes: its rows, or the call alone, and the end text. -/
def callText (indent call delimiter closing : String) (rows : List Row) : String :=
  (if rows.isEmpty then indent ++ call else Row.block delimiter rows) ++ closing

theorem callText_rowsOf_cons {indent call delimiter closing : String} {padding param : α → String}
    {first : α} {rest : List α} :
    callText indent call delimiter closing (rowsOf indent call padding param (first :: rest)) =
      indent ++ call ++ (param first ++ (String.join (rest.map fun item =>
        delimiter ++ "\n" ++ (indent ++ padding item ++ param item)) ++ closing)) := by
  rw [rowsOf, callText, List.isEmpty_cons, if_neg Bool.false_ne_true, Row.block_cons, List.map_map]
  simp only [Row.text, Function.comp_def, String.append_assoc]

theorem spans_alignedCall {call closing delimiter : String} (nonempty : call ≠ "")
    {params : List α} {render : α → Writing String} {param : α → String}
    (rendered : ∀ item ∈ params, render item = pure (param item)) :
    Spans true false (alignedCall call params closing render delimiter) fun indent =>
      callText indent call delimiter closing (callRows indent call param params) := by
  cases params with
  | nil => exact .bind (.write_start nonempty) (.write closing)
  | cons first rest =>
      rw [List.forall_mem_cons] at rendered
      have row : ∀ item ∈ rest, Spans false false (do
          .line delimiter
          .write (spaces (units call))
          .write (← render item)) fun indent =>
            delimiter ++ "\n" ++ (indent ++ spaces (units call) ++ param item) := by
        intro item member
        rw [rendered.2 item member]
        exact .bind (.line delimiter) (.bind (.write_start (spaces_units_ne nonempty)) (.write _))
      simp only [callRows, callText_rowsOf_cons]
      unfold alignedCall
      dsimp only
      rw [rendered.1]
      exact .bind (.write_start nonempty) (.bind (.write _) (.bind (.forM row) (.write closing)))

/-- A keyword behind its padding and the value behind it, on a line of their own. -/
theorem spans_keywordRow (call keyword value : String) :
    Spans false false (do
        .newline
        .write (spaces (units call - units keyword))
        .write keyword
        .write (":" ++ value)) fun indent =>
      "" ++ "\n" ++
        (indent ++ (spaces (units call - units keyword) ++ keyword) ++ (":" ++ value)) := by
  -- padding and keyword may be empty, the colon is not
  have colon : Spans true false (.write (":" ++ value)) fun indent => indent ++ (":" ++ value) :=
    .write_start (by simp)
  have keyed : Spans true false (do .write keyword; .write (":" ++ value))
      fun indent => indent ++ (keyword ++ (":" ++ value)) := .write_bind colon (.write _)
  have within : Spans false false (do .write keyword; .write (":" ++ value))
      fun _ => keyword ++ (":" ++ value) := .bind (.write _) (.write _)
  refine (Spans.bind .newline (.write_bind keyed within)).of_eq fun indent => ?_
  simp only [String.append_assoc, String.empty_append]

theorem spans_alignedKeywordCall {call closing : String} (nonempty : call ≠ "")
    {params : List α} {render : α → Writing (String × String)} {keyword value : α → String}
    (rendered : ∀ item ∈ params, render item = pure (keyword item, value item)) :
    Spans true false (alignedKeywordCall call params closing render) fun indent =>
      callText indent call "" closing (keywordRows indent call keyword value params) := by
  cases params with
  | nil => exact .bind (.write_start nonempty) (.write closing)
  | cons first rest =>
      rw [List.forall_mem_cons] at rendered
      simp only [keywordRows, callText_rowsOf_cons]
      unfold alignedKeywordCall
      dsimp only
      rw [rendered.1, pure_bind]
      refine .bind (.write_start nonempty) (.bind (.write _) (.bind (.forM ?_) (.write closing)))
      intro item member
      rw [rendered.2 item member, pure_bind]
      exact spans_keywordRow call (keyword item) (value item)

/-! ## Columns -/

theorem units_lead_callRows (indent call : String) (param : α → String) (params : List α) :
    (callRows indent call param params).map (units ·.lead) =
      List.replicate params.length (units indent + units call) := by
  cases params with
  | nil => rfl
  | cons first rest =>
      rw [callRows, rowsOf, List.map_cons, List.map_map, units_append, List.length_cons,
        List.replicate_succ, ← List.map_const']
      refine congrArg _ (List.map_congr_left fun item _ => ?_)
      rw [Function.comp_apply, units_append, units_spaces]

/-- The columns of the colons of a keyword call: the first one stands behind the call, and a later
one behind the call or its own keyword, whichever is longer. -/
def colonColumns (indent call : String) (keyword : α → String) : List α → List Nat
  | [] => []
  | _ :: rest =>
    (units indent + units call) ::
      rest.map fun item => units indent + max (units call) (units (keyword item))

theorem units_lead_keywordRows (indent call : String) (keyword value : α → String)
    (params : List α) :
    (keywordRows indent call keyword value params).map (units ·.lead) =
      colonColumns indent call keyword params := by
  cases params with
  | nil => rfl
  | cons first rest =>
      rw [keywordRows, rowsOf, List.map_cons, List.map_map, units_append, colonColumns]
      refine congrArg _ (List.map_congr_left fun item _ => ?_)
      rw [Function.comp_apply, units_append, units_append, units_spaces, Nat.sub_add_eq_max]

/-- Without a keyword that is longer than the call all colons stand in one column. -/
theorem colonColumns_of_le {indent call : String} {keyword : α → String} {params : List α}
    (short : ∀ item ∈ params.tail, units (keyword item) ≤ units call) :
    colonColumns indent call keyword params =
      List.replicate params.length (units indent + units call) := by
  cases params with
  | nil => rfl
  | cons first rest =>
      rw [colonColumns, List.length_cons, List.replicate_succ, ← List.map_const']
      refine congrArg _ (List.map_congr_left fun item member => ?_)
      rw [Nat.max_eq_left (short item member)]

/-- On a writer an action writes the rows of a call, and the parameters start in the given columns:
so many units stand in front of them on their rows, and where no line ends in front of a parameter
within its row, these are the columns in the text. -/
structure LinesUp (action : Writing Unit) (writer : Writer) (call delimiter closing : String)
    (rows : List Row) (columns : List Nat) : Prop where
  written : ∃ after, action.runOn writer = (.ok (), after) ∧
    after.text = writer.text ++ callText writer.indent call delimiter closing rows
  leads : rows.map (units ·.lead) = columns
  starts : (∀ row ∈ rows, SingleLine row.lead) → Row.columns delimiter "" rows = columns

theorem LinesUp.of_spans {action : Writing Unit} {writer : Writer}
    {call delimiter closing : String} {rows : String → List Row} {columns : List Nat}
    (start : writer.atLineStart = true)
    (spans : Spans true false action fun indent =>
      callText indent call delimiter closing (rows indent))
    (leads : (rows writer.indent).map (units ·.lead) = columns) :
    LinesUp action writer call delimiter closing (rows writer.indent) columns where
  written := by
    obtain ⟨after, ran, -, -, text⟩ := spans writer start
    exact ⟨after, ran, text⟩
  leads := leads
  starts single := (Row.columns_eq rfl single).trans leads

/-- From the start of a line, at any indentation, an aligned call writes the call and its first
parameter, and each other parameter on a line of its own, behind the indentation and as many spaces
as the call is long, so all parameters start in one column. In a keyword call the colons stand in
one column, but for those behind a keyword that is longer than the call. -/
theorem aligned_calls_line_up {writer : Writer} (start : writer.atLineStart = true) {call : String}
    (nonempty : call ≠ "") (closing : String) (params : List α) :
    (∀ (render : α → Writing String) (param : α → String) (delimiter : String),
      (∀ item ∈ params, render item = pure (param item)) →
        LinesUp (alignedCall call params closing render delimiter) writer call delimiter closing
          (callRows writer.indent call param params)
          (List.replicate params.length (units writer.indent + units call))) ∧
    ∀ (render : α → Writing (String × String)) (keyword value : α → String),
      (∀ item ∈ params, render item = pure (keyword item, value item)) →
        LinesUp (alignedKeywordCall call params closing render) writer call "" closing
          (keywordRows writer.indent call keyword value params)
          (colonColumns writer.indent call keyword params) ∧
        ((∀ item ∈ params.tail, units (keyword item) ≤ units call) →
          colonColumns writer.indent call keyword params =
            List.replicate params.length (units writer.indent + units call)) :=
  ⟨fun _ _ _ rendered =>
      .of_spans start (spans_alignedCall nonempty rendered) (units_lead_callRows ..),
    fun _ _ _ rendered =>
      ⟨.of_spans start (spans_alignedKeywordCall nonempty rendered) (units_lead_keywordRows ..),
        colonColumns_of_le⟩⟩

/-- A call with two parameters four spaces deep, and a keyword call whose last keyword is longer
than the call. -/
theorem initializer_lined_up :
    ({ indent := "    " } : Writer).atLineStart = true ∧ "- (id)set" ≠ "" ∧
    (∃ after, (alignedCall "- (id)set" ["a", "b"] ")" pure ",").runOn { indent := "    " } =
      (.ok (), after) ∧ after.text = "    - (id)seta,\n             b)") ∧
    Row.columns "," "" (callRows "    " "- (id)set" id ["a", "b"]) = [13, 13] ∧
    (∃ after, (alignedKeywordCall "- (id)set" ["a", "ab", "longKeyword"] ";"
        fun item => pure (item, "(T)" ++ item)).runOn { indent := "    " } = (.ok (), after) ∧
      after.text =
        "    - (id)set:(T)a\n           ab:(T)ab\n    longKeyword:(T)longKeyword;") ∧
    Row.columns "" "" (keywordRows "    " "- (id)set" id ("(T)" ++ ·) ["a", "ab", "longKeyword"]) =
      [13, 13, 15] := by
  have call : "- (id)set" ≠ "" := by decide
  have start : ({ indent := "    " } : Writer).atLineStart = true := rfl
  have plain := (aligned_calls_line_up start call ")" ["a", "b"]).1 pure id "," fun _ _ => rfl
  have keyed := ((aligned_calls_line_up start call ";" ["a", "ab", "longKeyword"]).2
    (fun item => pure (item, "(T)" ++ item)) id ("(T)" ++ ·) fun _ _ => rfl).1
  refine ⟨start, call, ?_, plain.starts (by decide), ?_, keyed.starts (by decide)⟩
  · obtain ⟨after, ran, text⟩ := plain.written
    exact ⟨after, ran, text.trans (by decide)⟩
  · obtain ⟨after, ran, text⟩ := keyed.written
    exact ⟨after, ran, text.trans (by decide)⟩

end Render

end BridgeCode
