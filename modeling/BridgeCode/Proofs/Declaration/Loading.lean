import BridgeCode.Declaration.Document
import BridgeCode.Proofs.Results
import BridgeCode.Proofs.Text.Split
import Mathlib.Data.Option.Basic

/-!
From a checked document to declarations.

A document spells types in fields, in parameters and in results, and nothing but a type can keep it
from becoming declarations. `spelledTypes` lists the types with the places that errors name, in the
order in which they stand in the document.

* `ReportsFirst`: a result is the error of the first of some types that cannot be read, and no error
  if all can. Parts that follow one another report along `++`, so the whole document reports the
  first of all its types (`DeclDocument.reportsFirst_toDecls`).
* `DeclEntry.Becomes`: what a declaration of a document becomes. Nothing is left out or moved, types
  are read, and the doc of the document is found again in the lines that are kept.
* `document_loads_or_reports_first`: both for a whole document.
-/

namespace BridgeCode

/-! ## The types of a document -/

/-- A type in a document. -/
structure SpelledType where
  /-- The name of its place. -/
  place : String
  source : String
deriving DecidableEq

namespace SpelledType

/-- Whether the type can be read. -/
def Readable (type : SpelledType) : Prop := ∃ ref, TypeRef.parse type.source = .ok ref

/-- The error of a type that cannot be read. -/
def error? (type : SpelledType) : Option DocumentError :=
  match TypeRef.parse type.source with
  | .ok _ => none
  | .error reason => some (.badType type.place reason.message)

theorem error?_eq_none_iff {type : SpelledType} : type.error? = none ↔ type.Readable := by
  unfold error? Readable
  cases TypeRef.parse type.source <;> simp

theorem error?_eq_some_iff {type : SpelledType} {error : DocumentError} :
    type.error? = some error ↔ ∃ reason, TypeRef.parse type.source = .error reason ∧
      error = .badType type.place reason.message := by
  unfold error?
  cases TypeRef.parse type.source with
  | ok ref => simp
  | error reason => simp [eq_comm]

end SpelledType

/-- The type of a field; `owner` names what the field belongs to. -/
def FieldEntry.spelledType (owner : String) (entry : FieldEntry) : SpelledType :=
  ⟨owner ++ "." ++ entry.name, entry.type⟩

/-- The types of a method: those of its parameters, then that of its result. -/
def MethodEntry.spelledTypes (owner : String) (entry : MethodEntry) : List SpelledType :=
  entry.params.map (·.spelledType (owner ++ "." ++ entry.name)) ++
    entry.ret.toList.map fun source => ⟨owner ++ "." ++ entry.name, source⟩

/-- The types of a body. -/
def BodyEntry.spelledTypes (owner : String) : BodyEntry → List SpelledType
  | .enum _ _ => []
  | .record fields => fields.map (·.spelledType owner)
  | .interface methods => methods.flatMap (·.spelledTypes owner)

/-- The types of a declaration. -/
def DeclEntry.spelledTypes (entry : DeclEntry) : List SpelledType :=
  entry.body.spelledTypes entry.name

/-- The types of a document. -/
def DeclDocument.spelledTypes (document : DeclDocument) : List SpelledType :=
  document.declarations.flatMap (·.spelledTypes)

/-- The type is the first of the types that cannot be read. -/
def FirstUnreadable (types : List SpelledType) (type : SpelledType) (reason : TypeRef.ParseError) :
    Prop :=
  ∃ front rest, types = front ++ type :: rest ∧ (∀ earlier ∈ front, earlier.Readable) ∧
    TypeRef.parse type.source = .error reason

/-! ## The first error -/

/-- The result is the error of the first of the types that cannot be read, if there is one. -/
def ReportsFirst {α : Type} (types : List SpelledType) (result : Except DocumentError α) : Prop :=
  ∀ error, result = .error error ↔ types.findSome? SpelledType.error? = some error

namespace ReportsFirst

variable {α β : Type} {types more : List SpelledType}

theorem ok (value : α) : ReportsFirst [] (.ok value : Except DocumentError α) :=
  fun _ => ⟨nofun, nofun⟩

/-- Without an error all types can be read. -/
theorem findSome?_eq_none {value : α} (reports : ReportsFirst types (.ok value)) :
    types.findSome? SpelledType.error? = none := by
  cases found : types.findSome? SpelledType.error? with
  | none => rfl
  | some _ => cases (reports _).2 found

/-- There is an error exactly if a type cannot be read. -/
theorem fails_iff {result : Except DocumentError α} (reports : ReportsFirst types result) :
    (∃ error, result = .error error) ↔ ∃ type ∈ types, ¬ type.Readable := by
  have each : (∃ error, types.findSome? SpelledType.error? = some error) ↔
      ∃ type ∈ types, ¬ type.Readable := by
    rw [← Option.ne_none_iff_exists', ne_eq, List.findSome?_eq_none_iff]
    simp [SpelledType.error?_eq_none_iff]
  exact (exists_congr reports).trans each

/-- Of two parts the second reports what the first does not. -/
theorem bind {first : Except DocumentError α} {next : α → Except DocumentError β}
    (front : ReportsFirst types first) (back : ∀ value, ReportsFirst more (next value)) :
    ReportsFirst (types ++ more) (first >>= next) := by
  intro error
  rw [List.findSome?_append]
  cases first with
  | error own =>
      rw [(front own).1 rfl, Option.some_or, Option.some_inj]
      exact ⟨Except.error.inj, congrArg Except.error⟩
  | ok value =>
      rw [front.findSome?_eq_none, Option.none_or]
      exact back value error

/-- What is done with a result reports nothing of its own. -/
theorem bind_ok {first : Except DocumentError α} (reports : ReportsFirst types first)
    (make : α → β) : ReportsFirst types (first >>= fun value => .ok (make value)) := by
  rw [← List.append_nil types]
  exact reports.bind fun value => .ok _

theorem mapM {items : List α} {action : α → Except DocumentError β} {own : α → List SpelledType}
    (each : ∀ item, ReportsFirst (own item) (action item)) :
    ReportsFirst (items.flatMap own) (items.mapM action) := by
  induction items with
  | nil => exact .ok []
  | cons item items ih =>
      rw [List.mapM_cons, List.flatMap_cons]
      exact (each item).bind fun value => ih.bind_ok (value :: ·)

theorem parseTypeAt (place source : String) :
    ReportsFirst [⟨place, source⟩] (BridgeCode.parseTypeAt place source) := by
  intro error
  rw [List.findSome?_singleton, SpelledType.error?, BridgeCode.parseTypeAt]
  cases TypeRef.parse source <;> simp

end ReportsFirst

theorem FieldEntry.reportsFirst_toField (owner : String) (entry : FieldEntry) :
    ReportsFirst [entry.spelledType owner] (entry.toField owner) :=
  (ReportsFirst.parseTypeAt _ _).bind_ok _

theorem FieldEntry.reportsFirst_mapM (owner : String) (entries : List FieldEntry) :
    ReportsFirst (entries.map (·.spelledType owner)) (entries.mapM (·.toField owner)) := by
  have each : ReportsFirst (entries.flatMap fun entry => [entry.spelledType owner])
      (entries.mapM (·.toField owner)) := .mapM (FieldEntry.reportsFirst_toField owner)
  rwa [← List.map_eq_flatMap] at each

/-- A method is made of its parameters and then of its result. -/
theorem MethodEntry.toMethod_eq (owner : String) (entry : MethodEntry) :
    entry.toMethod owner =
      entry.params.mapM (·.toField (owner ++ "." ++ entry.name)) >>= fun params =>
        entry.ret.mapM (parseTypeAt (owner ++ "." ++ entry.name)) >>= fun ret =>
          .ok { name := entry.name, params, ret, doc := DocEntry.toDoc entry.doc
                isStatic := entry.isStatic, isConst := entry.isConst } := by
  unfold MethodEntry.toMethod
  cases entry.ret <;> rfl

theorem MethodEntry.reportsFirst_toMethod (owner : String) (entry : MethodEntry) :
    ReportsFirst (entry.spelledTypes owner) (entry.toMethod owner) := by
  rw [entry.toMethod_eq]
  refine (FieldEntry.reportsFirst_mapM _ entry.params).bind fun params => .bind_ok ?_ _
  cases entry.ret with
  | none => exact .ok none
  | some source => exact (ReportsFirst.parseTypeAt _ source).bind_ok some

theorem BodyEntry.reportsFirst_toBody (owner : String) (entry : BodyEntry) :
    ReportsFirst (entry.spelledTypes owner) (entry.toBody owner) := by
  cases entry with
  | enum flags options => exact .ok _
  | record fields => exact (FieldEntry.reportsFirst_mapM owner fields).bind_ok _
  | interface methods =>
      exact (ReportsFirst.mapM (MethodEntry.reportsFirst_toMethod owner)).bind_ok _

theorem DeclDocument.reportsFirst_toDecls (document : DeclDocument) :
    ReportsFirst document.spelledTypes document.toDecls :=
  .mapM fun entry => (BodyEntry.reportsFirst_toBody entry.name entry.body).bind_ok _

/-! ## What entries become -/

/-- A kept line without the space in front of it. -/
def plainLine (line : String) : String := String.ofList line.toList.tail

theorem plainLine_docLine (line : String) : plainLine (docLine line) = line := by
  unfold docLine plainLine
  split
  · next empty =>
      rw [String.isEmpty_iff.1 empty]
      rfl
  · simp

namespace DocEntry

/-- The lines are those of the entry. A text is its lines with a break between any two, and with one
more at its end if it has one there. -/
def Recovered : Option DocEntry → List String → Prop
  | none, plain => plain = []
  | some (lines values), plain => plain = values
  | some (text value), plain =>
    plain ≠ [] ∧ (∀ line ∈ plain, '\n' ∉ line.toList) ∧
      "\n".intercalate plain ++ (if value.toList.getLast? = some '\n' then "\n" else "") = value

/-- The doc has a space in front of each line that is not empty, and without it the lines of the
entry. -/
structure KeptAs (entry : Option DocEntry) (doc : Doc) : Prop where
  marked : ∀ line ∈ doc, line = "" ∨ ∃ rest, rest ≠ "" ∧ line = " " ++ rest
  recovered : Recovered entry (doc.map plainLine)

theorem docLine_marked (line : String) :
    docLine line = "" ∨ ∃ rest, rest ≠ "" ∧ docLine line = " " ++ rest := by
  unfold docLine
  split
  · next empty => exact .inl (String.isEmpty_iff.1 empty)
  · next nonempty => exact .inr ⟨line, fun empty => nonempty (String.isEmpty_iff.2 empty), rfl⟩

/-- Marked lines are kept for what the lines are. -/
theorem Recovered.keptAs {entry : Option DocEntry} {lines : List String}
    (recovered : Recovered entry lines) : KeptAs entry (lines.map docLine) := by
  refine ⟨List.forall_mem_map.2 fun line _ => docLine_marked line, ?_⟩
  have undone : plainLine ∘ docLine = id := funext plainLine_docLine
  rwa [List.map_map, undone, List.map_id]

theorem dropFinalBreak_append (value : List Char) :
    dropFinalBreak value ++ (if value.getLast? = some '\n' then ['\n'] else []) = value := by
  unfold dropFinalBreak
  split
  · next last => exact List.dropLast_append_getLast? _ last
  · exact List.append_nil value

/-- A text is recovered from the lines it is cut into. -/
theorem recovered_text (value : String) :
    Recovered (some (text value))
      ((Text.splitOn '\n' (dropFinalBreak value.toList)).map String.ofList) := by
  refine ⟨?_, ?_, String.toList_injective ?_⟩
  · rw [Text.splitOn_eq]
    simp
  · intro line member
    obtain ⟨part, cut, rfl⟩ := List.mem_map.1 member
    rw [String.toList_ofList]
    exact fun inside => (Text.mem_of_mem_splitOn cut inside).2 rfl
  · have joined : ("\n".intercalate
        ((Text.splitOn '\n' (dropFinalBreak value.toList)).map String.ofList)).toList =
          dropFinalBreak value.toList := by
      have undone : String.toList ∘ String.ofList = id := funext fun _ => String.toList_ofList
      rw [String.toList_intercalate, List.map_map, undone, List.map_id, Text.splitOn_eq]
      exact List.intercalate_splitOn '\n'
    rw [String.toList_append, joined, apply_ite String.toList]
    exact dropFinalBreak_append value.toList

theorem keptAs_toDoc (entry : Option DocEntry) : KeptAs entry (toDoc entry) := by
  rcases entry with _ | value | values
  · exact ⟨nofun, rfl⟩
  · have kept := (recovered_text value).keptAs
    rwa [List.map_map] at kept
  · exact Recovered.keptAs rfl

end DocEntry

/-- What a field of a document becomes. -/
structure FieldEntry.Becomes (entry : FieldEntry) (field : Field) : Prop where
  name : field.name = entry.name
  type : TypeRef.parse entry.type = .ok field.type
  doc : DocEntry.KeptAs entry.doc field.doc

/-- What an option of a document becomes. -/
structure OptionEntry.Becomes (entry : OptionEntry) (option : EnumOption) : Prop where
  name : option.name = entry.name
  doc : DocEntry.KeptAs entry.doc option.doc
  special : option.special = entry.special

/-- What a method of a document becomes. -/
structure MethodEntry.Becomes (entry : MethodEntry) (method : Method) : Prop where
  name : method.name = entry.name
  params : List.Forall₂ FieldEntry.Becomes entry.params method.params
  ret : Option.Rel (fun source ref => TypeRef.parse source = .ok ref) entry.ret method.ret
  doc : DocEntry.KeptAs entry.doc method.doc
  isStatic : method.isStatic = entry.isStatic
  isConst : method.isConst = entry.isConst

/-- What a body of a document becomes. -/
inductive BodyEntry.Becomes : BodyEntry → DeclBody → Prop
  | enum {flags : Bool} {entries : List OptionEntry} {options : List EnumOption} :
      List.Forall₂ OptionEntry.Becomes entries options →
      BodyEntry.Becomes (.enum flags entries) (.enum { options, flags })
  | record {entries : List FieldEntry} {fields : List Field} :
      List.Forall₂ FieldEntry.Becomes entries fields →
      BodyEntry.Becomes (.record entries) (.record fields)
  | interface {entries : List MethodEntry} {methods : List Method} :
      List.Forall₂ MethodEntry.Becomes entries methods →
      BodyEntry.Becomes (.interface entries) (.interface methods)

/-- What a declaration of a document becomes. -/
structure DeclEntry.Becomes (defaultOrigin : String) (entry : DeclEntry) (decl : TypeDecl) :
    Prop where
  name : decl.name = entry.name
  params : decl.params = entry.params
  doc : DocEntry.KeptAs entry.doc decl.doc
  origin : decl.origin = entry.origin.getD defaultOrigin
  scope : decl.scope = .imported ↔ entry.imported = true
  body : entry.body.Becomes decl.body

/-! ## Entries that are loaded -/

theorem parse_of_parseTypeAt {place source : String} {ref : TypeRef}
    (ran : parseTypeAt place source = .ok ref) : TypeRef.parse source = .ok ref := by
  unfold parseTypeAt at ran
  split at ran
  · next parsed =>
      cases ran
      exact parsed
  · cases ran

theorem FieldEntry.becomes_of_toField {owner : String} {entry : FieldEntry} {field : Field}
    (ran : entry.toField owner = .ok field) : entry.Becomes field := by
  obtain ⟨type, parsed, made⟩ := exists_ok_of_bind ran
  cases made
  exact ⟨rfl, parse_of_parseTypeAt parsed, DocEntry.keptAs_toDoc entry.doc⟩

theorem MethodEntry.becomes_of_toMethod {owner : String} {entry : MethodEntry} {method : Method}
    (ran : entry.toMethod owner = .ok method) : entry.Becomes method := by
  rw [entry.toMethod_eq] at ran
  obtain ⟨params, ranParams, ran⟩ := exists_ok_of_bind ran
  obtain ⟨ret, ranRet, made⟩ := exists_ok_of_bind ran
  cases made
  have result : Option.Rel (fun source ref => TypeRef.parse source = .ok ref) entry.ret ret := by
    cases source : entry.ret with
    | none =>
        rw [source] at ranRet
        cases ranRet
        exact .none
    | some source' =>
        rw [source] at ranRet
        obtain ⟨ref, parsed, made⟩ := exists_ok_of_bind ranRet
        cases made
        exact .some (parse_of_parseTypeAt parsed)
  exact ⟨rfl, forall₂_of_mapM FieldEntry.becomes_of_toField ranParams, result,
    DocEntry.keptAs_toDoc entry.doc, rfl, rfl⟩

theorem OptionEntry.becomes_toOption (entry : OptionEntry) : entry.Becomes entry.toOption :=
  ⟨rfl, DocEntry.keptAs_toDoc entry.doc, rfl⟩

theorem BodyEntry.becomes_of_toBody {owner : String} {entry : BodyEntry} {body : DeclBody}
    (ran : entry.toBody owner = .ok body) : entry.Becomes body := by
  cases entry with
  | enum flags entries =>
      cases ran
      exact .enum (List.forall₂_map_right_iff.2
        (List.forall₂_same.2 fun entry _ => entry.becomes_toOption))
  | record entries =>
      obtain ⟨fields, ranFields, made⟩ := exists_ok_of_bind ran
      cases made
      exact .record (forall₂_of_mapM FieldEntry.becomes_of_toField ranFields)
  | interface entries =>
      obtain ⟨methods, ranMethods, made⟩ := exists_ok_of_bind ran
      cases made
      exact .interface (forall₂_of_mapM MethodEntry.becomes_of_toMethod ranMethods)

theorem DeclEntry.becomes_of_toDecl {defaultOrigin : String} {entry : DeclEntry} {decl : TypeDecl}
    (ran : entry.toDecl defaultOrigin = .ok decl) : entry.Becomes defaultOrigin decl := by
  obtain ⟨body, ranBody, made⟩ := exists_ok_of_bind ran
  cases made
  refine ⟨rfl, rfl, DocEntry.keptAs_toDoc entry.doc, rfl, ?_, BodyEntry.becomes_of_toBody ranBody⟩
  cases entry.imported <;> simp

/-! ## Whole documents -/

/-- Types have a first one that cannot be read exactly if its error is the first. -/
theorem findSome?_error?_eq_some_iff {types : List SpelledType} {error : DocumentError} :
    types.findSome? SpelledType.error? = some error ↔
      ∃ type reason, FirstUnreadable types type reason ∧
        error = .badType type.place reason.message := by
  rw [List.findSome?_eq_some_iff]
  simp only [SpelledType.error?_eq_none_iff, SpelledType.error?_eq_some_iff]
  constructor
  · rintro ⟨front, type, rest, split, ⟨reason, unread, same⟩, readable⟩
    exact ⟨type, reason, ⟨front, rest, split, readable, unread⟩, same⟩
  · rintro ⟨type, reason, ⟨front, rest, split, readable, unread⟩, same⟩
    exact ⟨front, type, rest, split, ⟨reason, unread, same⟩, readable⟩

/-- A document is refused for the first of its types that cannot be read, and for nothing else. A
document that is not refused becomes its declarations, all of them and in order. -/
theorem document_loads_or_reports_first (document : DeclDocument) :
    (∀ error, document.toDecls = .error error ↔
      ∃ type reason, FirstUnreadable document.spelledTypes type reason ∧
        error = .badType type.place reason.message) ∧
    ((∃ error, document.toDecls = .error error) ↔
      ∃ type ∈ document.spelledTypes, ¬ type.Readable) ∧
    (∀ error, document.toDecls = .error error →
      error.code = .invalidDocument ∧
        ∃ type reason, FirstUnreadable document.spelledTypes type reason ∧
          error.message = "Invalid type for " ++ type.place ++ ": " ++ reason.message) ∧
    ∀ decls, document.toDecls = .ok decls →
      List.Forall₂ (DeclEntry.Becomes document.origin) document.declarations decls := by
  have reported : ∀ error, document.toDecls = .error error ↔
      ∃ type reason, FirstUnreadable document.spelledTypes type reason ∧
        error = .badType type.place reason.message := fun error =>
    (document.reportsFirst_toDecls error).trans findSome?_error?_eq_some_iff
  refine ⟨reported, document.reportsFirst_toDecls.fails_iff, fun error failed => ?_,
    fun decls loaded => ?_⟩
  · obtain ⟨type, reason, first, rfl⟩ := (reported error).1 failed
    exact ⟨rfl, type, reason, first, rfl⟩
  · exact forall₂_of_mapM DeclEntry.becomes_of_toDecl loaded

/-- A record, an interface with a bad parameter in front of a bad result, and a bad field. -/
def sketchDocument : DeclDocument where
  origin := "sketch.idl"
  declarations :=
    [{ name := "size", doc := some (.text "Width\n\nand height.\n"), origin := none
       imported := false, params := [], body := .record [⟨"width", "i32", none⟩] },
      { name := "painter", doc := none, origin := some "paint.idl", imported := true, params := []
        body := .interface
          [{ name := "draw", params := [⟨"sizes", "list<size>", none⟩, ⟨"by", "map<string,", none⟩]
             ret := some "list<", doc := none, isStatic := false, isConst := false }] },
      { name := "late", doc := none, origin := none, imported := false, params := []
        body := .record [⟨"x", ">", none⟩] }]

/-- The parameter is reported, not the result behind it and not the field of the last declaration.
The first declaration alone is loaded. -/
theorem sketchDocument_reported :
    let opening : DeclDocument := ⟨"sketch.idl", sketchDocument.declarations.take 1⟩
    sketchDocument.toDecls =
        .error (.badType "painter.draw.by" "expected a type name in \"map<string,\"") ∧
      ∃ decls, opening.toDecls = .ok decls ∧
        List.Forall₂ (DeclEntry.Becomes "sketch.idl") opening.declarations decls := by
  intro opening
  have types : sketchDocument.spelledTypes =
      [⟨"size.width", "i32"⟩, ⟨"painter.draw.sizes", "list<size>"⟩] ++
        ⟨"painter.draw.by", "map<string,"⟩ :: [⟨"painter.draw", "list<"⟩, ⟨"late.x", ">"⟩] := by
    decide +kernel
  have readable : ∀ type ∈ [(⟨"size.width", "i32"⟩ : SpelledType),
      ⟨"painter.draw.sizes", "list<size>"⟩], type.Readable := by
    refine List.forall_mem_cons.2 ⟨⟨.mk "i32" [], rfl⟩, List.forall_mem_singleton.2 ?_⟩
    exact ⟨.mk "list" [.mk "size" []], rfl⟩
  have first : FirstUnreadable sketchDocument.spelledTypes ⟨"painter.draw.by", "map<string,"⟩
      (.expectedName "map<string,") := ⟨_, _, types, readable, rfl⟩
  have loads : opening.toDecls = .ok [⟨"size", [], [" Width", "", " and height."], "sketch.idl",
      .defined, .record [⟨"width", .mk "i32" [], []⟩]⟩] := rfl
  exact ⟨((document_loads_or_reports_first sketchDocument).1 _).2 ⟨_, _, first, rfl⟩,
    _, loads, (document_loads_or_reports_first opening).2.2.2 _ loads⟩

end BridgeCode
