import BridgeCode.Proofs.Render.EnumOptions
import BridgeCode.Proofs.Text.Plain
import BridgeCode.Proofs.Writing
import BridgeCode.Render.AlignedCall
import BridgeCode.Render.Header

/-!
Brackets in what is written.

* `Writing.Nests`: what an action writes leaves given brackets open, and if the action fails, what
  it wrote so far is the front of such a text. Actions in a row multiply what they leave open
  (`Nests.bind`), so an action is followed call by call.
* Doc comments, lists of options, aligned calls and namespaces leave nothing open.
* `Render.opens_path`: a namespace is opened part by part along the path that qualified names start
  with, and as many parts are closed behind it.
-/

namespace BridgeCode

open Text (brackets)

/-! ## Results -/

/-- The result, if there is one, fits; and there is one if `complete` holds. -/
def Delivers {α : Type} (complete : Prop) (fits : α → Prop) : Except GenerateError α → Prop
  | .ok value => fits value
  | .error _ => ¬ complete

namespace Delivers

variable {α β : Type} {complete : Prop} {fits : α → Prop}

theorem pure {value : α} (good : fits value) : Delivers complete fits (Pure.pure value) := good

/-- What is known of a result if there is one, and when there is one. -/
theorem of_found {result : Except GenerateError α} (good : Delivers False fits result)
    (found : complete → ∃ value, result = .ok value) : Delivers complete fits result := by
  cases result with
  | ok value => exact good
  | error error =>
      intro whole
      obtain ⟨value, isOk⟩ := found whole
      cases isOk

theorem bind {fits' : β → Prop} {first : Except GenerateError α}
    {next : α → Except GenerateError β} (before : Delivers complete fits first)
    (behind : ∀ value, fits value → Delivers complete fits' (next value)) :
    Delivers complete fits' (first >>= next) := by
  cases first with
  | ok value => exact behind value before
  | error error => exact before

theorem mapM {items : List β} {action : β → Except GenerateError α}
    (each : ∀ item ∈ items, Delivers complete fits (action item)) :
    Delivers complete (fun values => ∀ value ∈ values, fits value) (items.mapM action) := by
  induction items with
  | nil => exact .pure (List.forall_mem_nil _)
  | cons item items ih =>
      rw [List.forall_mem_cons] at each
      rw [List.mapM_cons]
      refine .bind each.1 fun value good => .bind (ih each.2) fun values all => .pure ?_
      exact List.forall_mem_cons.2 ⟨good, all⟩

theorem requireArg {type : String} {args : List (Except GenerateError α)}
    (each : ∀ arg ∈ args, Delivers False fits arg) (index : Nat) :
    Delivers False fits (requireArg type args index) := by
  unfold BridgeCode.requireArg
  split
  · next arg found => exact each arg (List.mem_of_getElem? found)
  · exact id

end Delivers

/-! ## Actions of a writer -/

/-- Neither the indentation of a writer nor a level of it has a bracket. -/
structure Writer.PlainIndent (writer : Writer) : Prop where
  unit : Text.Plain writer.unit
  indent : Text.Plain writer.indent

namespace Writing

variable {α β : Type} {complete : Prop}

/-- The action adds text that leaves the brackets open. If it fails, which it does not if
`complete` holds, it has written the front of such a text. Its result fits. -/
def Nests (complete : Prop) (action : Writing α) (nesting : Nesting × Nesting)
    (fits : α → Prop) : Prop :=
  ∀ writer : Writer, writer.PlainIndent →
    (action.runOn writer).2.PlainIndent ∧
      match (action.runOn writer).1 with
      | .ok value =>
        fits value ∧ brackets (action.runOn writer).2.text = brackets writer.text * nesting
      | .error _ =>
        ¬ complete ∧ ∃ rest,
          brackets (action.runOn writer).2.text * rest = brackets writer.text * nesting

namespace Nests

/-- An action that succeeds. -/
theorem of_runOn {action : Writing α} {nesting : Nesting × Nesting} {fits : α → Prop}
    (ran : ∀ writer : Writer, writer.PlainIndent →
      ∃ value after, action.runOn writer = (.ok value, after) ∧ after.PlainIndent ∧ fits value ∧
        brackets after.text = brackets writer.text * nesting) :
    Nests complete action nesting fits := by
  intro writer plain
  obtain ⟨value, after, ran, plain', fits, text⟩ := ran writer plain
  rw [ran]
  exact ⟨plain', fits, text⟩

theorem of_eq {action : Writing α} {nesting nesting' : Nesting × Nesting} {fits : α → Prop}
    (nests : Nests complete action nesting fits) (same : nesting = nesting') :
    Nests complete action nesting' fits := same ▸ nests

theorem pure {fits : α → Prop} {value : α} (good : fits value) :
    Nests complete (Pure.pure value) 1 fits :=
  .of_runOn fun writer plain => ⟨value, writer, rfl, plain, good, (mul_one _).symm⟩

theorem bind {action : Writing α} {next : α → Writing β} {nesting nesting' : Nesting × Nesting}
    {fits : α → Prop} {fits' : β → Prop} (first : Nests complete action nesting fits)
    (second : ∀ value, fits value → Nests complete (next value) nesting' fits') :
    Nests complete (action >>= next) (nesting * nesting') fits' := by
  intro writer plain
  have done := first writer plain
  rw [runOn_bind]
  generalize action.runOn writer = outcome at done ⊢
  rcases outcome with ⟨fault | value, middle⟩
  · obtain ⟨plain', incomplete, rest, text⟩ := done
    exact ⟨plain', incomplete, rest * nesting', by rw [← mul_assoc, text, mul_assoc]⟩
  · obtain ⟨plain', good, text⟩ := done
    have text : brackets middle.text = brackets writer.text * nesting := text
    have done' := second value good middle plain'
    rw [text, mul_assoc] at done'
    exact done'

/-- A sequence whose first action leaves nothing open. -/
theorem seq {action : Writing α} {next : α → Writing β} {nesting : Nesting × Nesting}
    {fits : α → Prop} {fits' : β → Prop} (first : Nests complete action 1 fits)
    (second : ∀ value, fits value → Nests complete (next value) nesting fits') :
    Nests complete (action >>= next) nesting fits' :=
  (first.bind second).of_eq (one_mul _)

theorem forM {items : List α} {action : α → Writing PUnit}
    (each : ∀ item ∈ items, Nests complete (action item) 1 fun _ => True) :
    Nests complete (items.forM action) 1 fun _ => True := by
  induction items with
  | nil => exact .pure trivial
  | cons item items ih =>
      rw [List.forall_mem_cons] at each
      exact each.1.seq fun _ _ => ih each.2

theorem write (text : String) : Nests complete (.write text) (brackets text) fun _ => True := by
  refine .of_runOn fun writer plain => ?_
  by_cases empty : text = ""
  · subst empty
    exact ⟨(), writer, rfl, plain, trivial, (mul_one _).symm⟩
  · refine ⟨(), _, runOn_write empty writer, ?_⟩
    split
    · refine ⟨⟨plain.unit, plain.indent⟩, trivial, ?_⟩
      have indented := Text.brackets_of_plain plain.indent
      rw [Writer.text_push_push, Text.brackets_append, Text.brackets_append, indented, one_mul]
    · refine ⟨⟨plain.unit, plain.indent⟩, trivial, ?_⟩
      rw [Writer.text_push, Text.brackets_append]

theorem line (text : String) : Nests complete (.line text) (brackets text) fun _ => True := by
  have ending : Nests complete (do
      Writing.put (Text.encode "\n")
      modify fun writer => { writer with atLineStart := true }) 1 fun _ => True := by
    refine .of_runOn fun writer plain => ⟨(), _, rfl, ⟨plain.unit, plain.indent⟩, trivial, ?_⟩
    show brackets ({ writer with chunks := writer.chunks.push (Text.encode "\n") } : Writer).text = _
    rw [Writer.text_push, Text.brackets_append]
    rfl
  exact ((write text).bind fun _ _ => ending).of_eq (mul_one _)

theorem newline : Nests complete .newline 1 fun _ => True := line ""

theorem lines {texts : List String} (even : ∀ text ∈ texts, brackets text = 1) :
    Nests complete (.lines texts) 1 fun _ => True :=
  .forM fun text member => (line text).of_eq (even text member)

theorem restoringIndent {action : Writing α} {nesting : Nesting × Nesting} {fits : α → Prop}
    (inner : Nests complete action nesting fits) :
    Nests complete (.restoringIndent action) nesting fits := by
  intro writer plain
  have done := inner writer plain
  exact ⟨⟨done.1.unit, plain.indent⟩, done.2⟩

theorem nested {action : Writing α} {nesting : Nesting × Nesting} {fits : α → Prop}
    (inner : Nests complete action nesting fits) :
    Nests complete (.nested action) nesting fits := by
  have deeper : Nests complete (modify fun writer : Writer =>
      { writer with indent := writer.indent ++ String.join (List.replicate 1 writer.unit) }) 1
      fun _ => True := by
    refine .of_runOn fun writer plain => ⟨(), _, rfl, ⟨plain.unit, ?_⟩, trivial, ?_⟩
    · exact Text.plain_append plain.indent (Text.plain_join (by simp [plain.unit]))
    · exact (mul_one _).symm
  unfold Writing.nested nestedBy
  rw [if_neg (by decide)]
  exact .restoringIndent (deeper.seq fun _ _ => inner)

theorem ofExcept {result : Except GenerateError α} {fits : α → Prop}
    (delivers : Delivers complete fits result) : Nests complete (.ofExcept result) 1 fits := by
  cases result with
  | ok value => exact .pure delivers
  | error error => exact fun writer plain => ⟨plain, delivers, 1, rfl⟩

end Nests

/-- The action leaves no bracket open. -/
abbrev Even (complete : Prop) (action : Writing Unit) : Prop :=
  Nests complete action 1 fun _ => True

/-- A line that opens nothing. -/
theorem Even.line {text : String} (even : brackets text = 1) : Even complete (.line text) :=
  (Nests.line text).of_eq even

theorem Even.write {text : String} (even : brackets text = 1) : Even complete (.write text) :=
  (Nests.write text).of_eq even

/-- A line that opens brackets, what stands deeper, and what closes them. -/
theorem Even.enclosed {opening : String} {inner rest : Writing Unit} {nesting : Nesting × Nesting}
    (even : Even complete inner) (closes : Nests complete rest nesting fun _ => True)
    (matched : brackets opening * nesting = 1) :
    Even complete (do
      .line opening
      .nested inner
      rest) :=
  ((Nests.line opening).bind fun _ _ => even.nested.seq fun _ _ => closes).of_eq matched

end Writing

namespace Render

open Writing (Nests Even)

variable {α : Type} {complete : Prop}

/-! ## Doc comments and aligned calls -/

theorem even_docComment {doc : Doc} (plain : ∀ line ∈ doc, Text.Plain line) :
    Even complete (docComment doc) := by
  have even : ∀ line ∈ doc, brackets line = 1 :=
    fun line member => Text.brackets_of_plain (plain line member)
  unfold docComment
  split
  · exact .pure trivial
  · next single =>
      refine .line ?_
      rw [Text.brackets_append, Text.brackets_append, even single List.mem_cons_self]
      decide
  · refine Nests.seq (Even.line (by decide)) fun _ _ => ?_
    refine Nests.seq (Nests.forM fun text member => Even.line ?_) fun _ _ => ?_
    · rw [Text.brackets_append, even text member]
      decide
    · exact Even.line (by decide)

/-- A text in parentheses. -/
theorem brackets_parens {text : String} (even : brackets text = 1) :
    brackets (parens text) = 1 := by
  rw [parens, Text.brackets_append, Text.brackets_append, even]
  decide

/-- Texts between commas. -/
theorem brackets_commas {texts : List String} (even : ∀ text ∈ texts, brackets text = 1) :
    brackets (", ".intercalate texts) = 1 := by
  rw [Text.brackets_intercalate (by decide)]
  refine List.prod_eq_one fun nesting member => ?_
  obtain ⟨text, among, rfl⟩ := List.mem_map.1 member
  exact even text among

theorem brackets_spaces (count : Nat) : brackets (spaces count) = 1 := by
  refine Text.brackets_of_plain fun c member => ?_
  rw [spaces, String.toList_ofList] at member
  rw [List.eq_of_mem_replicate member]
  rfl

theorem nests_alignedCall {call closing delimiter : String} {params : List α}
    {render : α → Writing String} (delimited : brackets delimiter = 1)
    (each : ∀ param ∈ params, Nests complete (render param) 1 (brackets · = 1)) :
    Nests complete (alignedCall call params closing render delimiter)
      (brackets call * brackets closing) fun _ => True := by
  refine (Nests.write call).bind fun _ _ => ?_
  cases params with
  | nil => exact .write closing
  | cons first rest =>
      rw [List.forall_mem_cons] at each
      refine each.1.seq fun text even => Nests.seq (Even.write even) fun _ _ => ?_
      refine Nests.seq (Nests.forM fun param member => ?_) fun _ _ => .write closing
      refine Nests.seq (Even.line delimited) fun _ _ => ?_
      refine Nests.seq (Even.write (brackets_spaces _)) fun _ _ => ?_
      exact (each.2 param member).seq fun text even => Even.write even

theorem nests_alignedKeywordCall {call closing : String} {params : List α}
    {render : α → Writing (String × String)}
    (each : ∀ param ∈ params, Nests complete (render param) 1
      fun pair => brackets pair.1 = 1 ∧ brackets pair.2 = 1) :
    Nests complete (alignedKeywordCall call params closing render)
      (brackets call * brackets closing) fun _ => True := by
  have colon : ∀ value, brackets value = 1 → brackets (":" ++ value) = 1 := by
    intro value even
    rw [Text.brackets_append, even]
    decide
  refine (Nests.write call).bind fun _ _ => ?_
  cases params with
  | nil => exact .write closing
  | cons first rest =>
      rw [List.forall_mem_cons] at each
      refine each.1.seq fun pair even => Nests.seq (Even.write (colon _ even.2)) fun _ _ => ?_
      refine Nests.seq (Nests.forM fun param member => ?_) fun _ _ => .write closing
      refine (each.2 param member).seq fun pair even => Nests.seq .newline fun _ _ => ?_
      refine Nests.seq (Even.write (brackets_spaces _)) fun _ _ => ?_
      exact Nests.seq (Even.write even.1) fun _ _ => Even.write (colon _ even.2)

/-! ## Options of enums -/

theorem brackets_toString (n : Nat) : brackets (toString n) = 1 := by
  refine Text.brackets_of_plain fun c member => ?_
  have digits : (toString n).toList = Nat.toDigits 10 n := by simp [toString, Nat.repr]
  rw [digits] at member
  have digit := Nat.isDigit_of_mem_toDigits (by decide) (by decide) member
  refine Bool.eq_false_iff.2 fun bracket => ?_
  rcases Text.isBracket_cases bracket with rfl | rfl | rfl | rfl <;> cases digit

/-- Entries have names and expressions made of spelled names, and the docs of their options. -/
theorem even_of_mem_encodeOptions {spell : String → String} {body : EnumBody}
    (names : ∀ option ∈ body.options, brackets (spell option.name) = 1) {entry : EncodedOption}
    (member : entry ∈ encodeOptions spell body) :
    entry.option ∈ body.options ∧ brackets entry.name = 1 ∧
      ∀ expr ∈ entry.expr, brackets expr = 1 := by
  have zero : brackets "0" = 1 := by decide
  rcases mem_encodeOptions_iff.1 member with
    ⟨option, found, rfl⟩ | ⟨k, option, found, rfl⟩ | ⟨option, found, rfl⟩
  · have among := List.mem_of_find?_eq_some found
    refine ⟨among, names option among, fun expr isExpr => ?_⟩
    cases isExpr
    exact zero
  · have among := List.mem_of_mem_filter (List.mem_of_getElem? found)
    refine ⟨among, names option among, fun expr isExpr => ?_⟩
    unfold ordinaryEntry at isExpr
    dsimp only at isExpr
    split at isExpr
    · cases isExpr
      rw [Text.brackets_append, brackets_toString]
      decide
    · cases isExpr
  · have among := List.mem_of_find?_eq_some found
    refine ⟨among, names option among, fun expr isExpr => ?_⟩
    cases isExpr
    split
    · exact zero
    · rw [Text.brackets_intercalate (by decide)]
      refine List.prod_eq_one fun nesting spelled => ?_
      rw [List.map_map] at spelled
      obtain ⟨option, member, rfl⟩ := List.mem_map.1 spelled
      exact names option (List.mem_of_mem_filter member)

theorem even_enumOptions {spell : String → String} {body : EnumBody}
    (names : ∀ option ∈ body.options, brackets (spell option.name) = 1)
    (docs : ∀ option ∈ body.options, ∀ line ∈ option.doc, Text.Plain line) :
    Even complete (enumOptions spell body) := by
  refine Nests.forM fun entry member => ?_
  obtain ⟨among, name, exprs⟩ := even_of_mem_encodeOptions names member
  refine Nests.seq (even_docComment (docs _ among)) fun _ _ => ?_
  split
  · next expr isExpr =>
      refine Even.line ?_
      simp only [Text.brackets_append, name, exprs expr isExpr]
      decide
  · refine Even.line ?_
    rw [Text.brackets_append, name]
    decide

/-! ## Namespaces -/

theorem splitOnPair_ne_nil (sep : Char) (text : List Char) : Text.splitOnPair sep text ≠ [] := by
  unfold Text.splitOnPair
  split
  · simp
  · simp
  · split
    · simp
    · split <;> simp

/-- The parts of a text and the separators between them are the text. -/
theorem intercalate_splitOnPair (sep : Char) (text : List Char) :
    [sep, sep].intercalate (Text.splitOnPair sep text) = text := by
  fun_induction Text.splitOnPair sep text with
  | case1 => rfl
  | case2 c => rfl
  | case3 c d rest pair ih =>
      obtain ⟨part, parts, parted⟩ :=
        List.exists_cons_of_ne_nil (splitOnPair_ne_nil sep rest)
      rw [parted] at ih
      rw [parted, List.intercalate_cons_cons, ih, pair.1, pair.2]
      rfl
  | case4 c d rest pair none ih => exact absurd none (splitOnPair_ne_nil _ _)
  | case5 c d rest pair part parts parted ih =>
      rw [parted] at ih
      cases parts with
      | nil =>
          rw [List.intercalate_singleton] at ih ⊢
          rw [ih]
      | cons other parts =>
          rw [List.intercalate_cons_cons] at ih ⊢
          rw [List.cons_append, List.cons_append, ih]

/-- The first part is a front of the text. -/
theorem prefix_of_splitOnPair {sep : Char} {text part : List Char} {parts : List (List Char)}
    (parted : Text.splitOnPair sep text = part :: parts) : part <+: text := by
  rw [← intercalate_splitOnPair sep text, parted]
  cases parts with
  | nil => simp only [List.intercalate_singleton, List.prefix_refl]
  | cons other parts =>
      rw [List.intercalate_cons_cons, List.append_assoc]
      exact List.prefix_append part _

/-- No part has the separator in it. -/
theorem pairless_of_mem_splitOnPair {sep : Char} {text part : List Char}
    (member : part ∈ Text.splitOnPair sep text) : ¬ [sep, sep] <:+: part := by
  fun_induction Text.splitOnPair sep text generalizing part with
  | case1 =>
      intro occurs
      simp [List.mem_singleton.1 member] at occurs
  | case2 c =>
      intro occurs
      have short := occurs.length_le
      simp [List.mem_singleton.1 member] at short
  | case3 c d rest pair ih =>
      rcases List.mem_cons.1 member with rfl | member
      · simp
      · exact ih member
  | case4 c d rest pair none ih => exact absurd none (splitOnPair_ne_nil _ _)
  | case5 c d rest pair first parts parted ih =>
      rw [parted] at ih
      rcases List.mem_cons.1 member with rfl | member
      · rw [List.infix_cons_iff]
        rintro (starts | occurs)
        · -- A separator that starts at `c` would go on with `d`, where the rest starts.
          rw [List.cons_prefix_cons] at starts
          have next := (starts.2.trans (prefix_of_splitOnPair parted))
          rw [List.cons_prefix_cons] at next
          exact pair ⟨starts.1.symm, next.1.symm⟩
        · exact ih List.mem_cons_self occurs
      · exact ih (List.mem_cons_of_mem _ member)

theorem intercalate_namespaceParts (ns : String) : "::".intercalate (namespaceParts ns) = ns := by
  have chars : (namespaceParts ns).map String.toList = Text.splitOnPair ':' ns.toList := by
    rw [namespaceParts, List.map_map]
    simp [Function.comp_def]
  refine String.toList_injective ?_
  rw [String.toList_intercalate, chars]
  exact intercalate_splitOnPair ':' ns.toList

/-- Opening a namespace and closing it again. -/
theorem even_inNamespace {ns : String} (plain : Text.Plain ns) {body : Writing Unit}
    (even : Even complete body) : Even complete (inNamespace ns body) := by
  have parts : ∀ part ∈ namespaceParts ns, brackets part = 1 := by
    have whole := plain
    rw [← intercalate_namespaceParts ns] at whole
    exact fun part member =>
      Text.brackets_of_plain (Text.plain_of_plain_intercalate whole part member)
  have opening : brackets (" ".intercalate
      ((namespaceParts ns).map fun part => "namespace " ++ part ++ " \x7b")) =
        brackets "\x7b" ^ (namespaceParts ns).length := by
    rw [Text.brackets_intercalate (by decide), List.map_map,
      List.prod_eq_pow_card _ (brackets "\x7b"), List.length_map]
    intro nesting member
    obtain ⟨part, among, rfl⟩ := List.mem_map.1 member
    simp only [Function.comp_apply, Text.brackets_append, parts part among]
    decide
  have closing : brackets (" ".intercalate ((namespaceParts ns).map fun _ => "\x7d") ++
      "  // namespace " ++ ns) = brackets "\x7d" ^ (namespaceParts ns).length := by
    rw [Text.brackets_append, Text.brackets_append, Text.brackets_of_plain plain,
      Text.brackets_intercalate (by decide), List.map_map,
      List.prod_eq_pow_card _ (brackets "\x7d"), List.length_map]
    · have comment : brackets "  // namespace " = 1 := by decide
      rw [comment, mul_one, mul_one]
    · intro nesting member
      obtain ⟨part, among, rfl⟩ := List.mem_map.1 member
      rfl
  unfold inNamespace
  split
  · exact even
  · have matched : brackets "\x7b" * brackets "\x7d" = 1 := by decide
    refine .of_eq (.bind ((Nests.line _).of_eq opening) fun _ _ => ?_)
      (pow_mul_pow_eq_one (namespaceParts ns).length matched)
    refine Nests.seq .newline fun _ _ => even.seq fun _ _ => Nests.seq .newline fun _ _ => ?_
    exact (Nests.line _).of_eq closing

/-! ## Headers -/

theorem even_banner {origin : String} (even : brackets origin = 1) :
    Even complete (banner origin "//") := by
  refine Nests.seq (Even.line (by decide)) fun _ _ => Even.line ?_
  rw [Text.brackets_append, even]
  decide

/-- A header without forward declarations. -/
theorem HeaderFile.even_text {header : HeaderFile} (origin : brackets header.origin = 1)
    (includes : ∀ line ∈ header.includes, brackets line = 1) (ns : Text.Plain header.ns)
    (forwards : header.forwards = []) (body : Even complete header.body)
    (after : Even complete header.after) : Even complete header.text := by
  have rest : Even complete (do
      .newline
      inNamespace header.ns header.body
      header.after) :=
    Nests.seq .newline fun _ _ => (even_inNamespace ns body).seq fun _ _ => after
  unfold text
  rw [forwards]
  refine Nests.seq (even_banner origin) fun _ _ => Nests.seq .newline fun _ _ => ?_
  refine Nests.seq (Even.line (by decide)) fun _ _ => ?_
  cases header.includes.isEmpty with
  | true => exact rest
  | false =>
      exact Nests.seq .newline fun _ _ => Nests.seq (.lines includes) fun _ _ => rest

/-! ## Paths of namespaces -/

/-- The lines of a body in the namespaces of a path. As many are closed as are opened. -/
def namespaceLines (ns : String) (path lines : List String) : List String :=
  if path.isEmpty then lines
  else
    " ".intercalate (path.map fun part => "namespace " ++ part ++ " \x7b") :: "" ::
      (lines ++
        ["", " ".intercalate (List.replicate path.length "\x7d") ++ "  // namespace " ++ ns])

theorem join_map_append_intercalate {separator : String} {texts : List String}
    (nonempty : texts ≠ []) :
    String.join (texts.map (separator ++ ·)) = separator ++ separator.intercalate texts := by
  induction texts with
  | nil => exact absurd rfl nonempty
  | cons text texts ih =>
      cases texts with
      | nil => simp
      | cons other texts =>
          rw [List.map_cons, String.join_cons, ih (by simp), String.intercalate_cons_cons,
            String.append_assoc, String.append_assoc]

/-- A namespace is opened along a path, part by part, and all parts are closed again. The path is
the namespace taken apart, and it is the one that qualified names start with. -/
theorem opens_path (ns : String) :
    ∃ path : List String, (path = [] ↔ ns = "") ∧ "::".intercalate path = ns ∧
      (∀ part ∈ path, ¬ [':', ':'] <:+: part.toList) ∧
      (∀ name, qualify (some ns) name = String.join (path.map ("::" ++ ·)) ++ "::" ++ name) ∧
      ∀ body lines, body.WritesLines lines →
        (inNamespace ns body).WritesLines (namespaceLines ns path lines) := by
  by_cases empty : ns = ""
  · subst empty
    exact ⟨[], by simp, rfl, nofun, fun name => by simp [qualify], fun _ _ writes => writes⟩
  · have isText : ns.isEmpty = false := by simpa using empty
    have some : namespaceParts ns ≠ [] := by simp [namespaceParts, splitOnPair_ne_nil]
    refine ⟨namespaceParts ns, by simp [some, empty], intercalate_namespaceParts ns, ?_, ?_, ?_⟩
    · intro part member
      obtain ⟨chars, among, rfl⟩ := List.mem_map.1 member
      rw [String.toList_ofList]
      exact pairless_of_mem_splitOnPair among
    · intro name
      rw [join_map_append_intercalate some, intercalate_namespaceParts, qualify, isText]
      rfl
    · intro body lines writes
      unfold inNamespace namespaceLines
      rw [isText, List.isEmpty_eq_false_iff.2 some, ← List.map_const']
      exact .bind (.line _) (.bind (.line "") (.bind writes (.bind (.line "") (.line _))))

end Render

end BridgeCode
