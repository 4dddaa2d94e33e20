import BridgeCode.Ident.Bundle
import BridgeCode.Proofs.Path
import BridgeCode.Proofs.Text.Brackets
import BridgeCode.Render.DocComment

/-!
Texts without brackets.

Spelling brings no bracket in. A style takes a token apart, joins the parts again and changes the
case of letters, and no letter has a bracket for its upper case (`plain_upperChar`). So a token
without brackets is spelled without brackets by every converter whose literal has none
(`Converter.plain_apply`), and a doc that names its parameters by such spellings has none either
(`Render.plain_renameParams`).
-/

namespace BridgeCode

namespace Text

/-! ## Texts in pieces -/

theorem plain_append_iff {text more : String} : Plain (text ++ more) ↔ Plain text ∧ Plain more := by
  unfold Plain
  rw [String.toList_append]
  exact List.forall_mem_append

theorem plain_append {text more : String} (first : Plain text) (second : Plain more) :
    Plain (text ++ more) := plain_append_iff.2 ⟨first, second⟩

theorem plain_join {texts : List String} (each : ∀ text ∈ texts, Plain text) :
    Plain (String.join texts) := by
  intro c member
  rw [String.toList_join, List.mem_flatMap] at member
  obtain ⟨text, among, member⟩ := member
  exact each text among c member

theorem plain_intercalate {separator : String} {texts : List String} (between : Plain separator)
    (each : ∀ text ∈ texts, Plain text) : Plain (separator.intercalate texts) := by
  induction texts with
  | nil => nofun
  | cons text texts ih =>
      rw [List.forall_mem_cons] at each
      cases texts with
      | nil =>
          rw [String.intercalate_singleton]
          exact each.1
      | cons other texts =>
          rw [String.intercalate_cons_cons]
          exact plain_append (plain_append each.1 between) (ih each.2)

/-- The parts of a text without brackets have none. -/
theorem plain_of_plain_intercalate {separator : String} {texts : List String}
    (plain : Plain (separator.intercalate texts)) : ∀ text ∈ texts, Plain text := by
  induction texts with
  | nil => nofun
  | cons text texts ih =>
      cases texts with
      | nil =>
          rw [String.intercalate_singleton] at plain
          exact List.forall_mem_singleton.2 plain
      | cons other texts =>
          rw [String.intercalate_cons_cons, plain_append_iff, plain_append_iff] at plain
          exact List.forall_mem_cons.2 ⟨plain.1.1, ih plain.2⟩

/-! ## Upper case -/

/-- The codes of brackets. -/
def bracketCodes : List Nat := [0x28, 0x29, 0x7B, 0x7D]

/-- No run of the table leads to a bracket. -/
theorem upperRuns_plain : ∀ run ∈ CaseTable.upperRuns, ∀ code ∈ bracketCodes,
    (code : Int) < run.first + run.shift ∨ run.last + run.shift < (code : Int) := by
  decide +kernel

/-- No expansion in the table has a bracket in it. -/
theorem upperExpansions_plain : ∀ entry ∈ CaseTable.upperExpansions, ∀ code ∈ entry.2,
    isBracket (Char.ofNat code) = false := by
  decide +kernel

theorem toUpper_plain : ∀ code < 0x80, isBracket (Char.ofNat code) = false →
    isBracket (Char.ofNat code).toUpper = false := by
  decide +kernel

theorem code_of_isBracket {code : Nat} (bracket : isBracket (Char.ofNat code) = true) :
    code ∈ bracketCodes := by
  have coded : ∀ c : Char, isBracket c = true → c.toNat ∈ bracketCodes := by
    intro c bracket
    rcases isBracket_cases bracket with rfl | rfl | rfl | rfl <;> decide
  by_cases valid : code.isValidChar
  · rw [Char.ofNat, dif_pos valid] at bracket
    exact coded _ bracket
  · rw [Char.ofNat, dif_neg valid] at bracket
    cases bracket

theorem map?_upperRuns_plain {code target : Nat}
    (mapped : CaseTable.map? CaseTable.upperRuns code = some target) :
    isBracket (Char.ofNat target) = false := by
  obtain ⟨run, among, covered⟩ := List.exists_of_findSome?_eq_some mapped
  unfold CaseTable.Run.target? at covered
  split at covered
  · next range =>
      cases covered
      refine Bool.eq_false_iff.2 fun bracket => ?_
      have code := code_of_isBracket bracket
      have apart := upperRuns_plain run among _ code
      simp only [bracketCodes, List.mem_cons, List.not_mem_nil, or_false] at code
      omega
  · cases covered

theorem mapChar_upper_plain {c : Char} (plain : isBracket c = false) :
    ∀ d ∈ mapChar CaseTable.upperExpansions CaseTable.upperRuns c, isBracket d = false := by
  intro d member
  unfold mapChar at member
  split at member
  · next codes found =>
      obtain ⟨code, among, rfl⟩ := List.mem_map.1 member
      obtain ⟨_, _, table, -⟩ := List.lookup_eq_some_iff.1 found
      exact upperExpansions_plain (c.toNat, codes) (by rw [table]; simp) code among
  · split at member
    · next target mapped =>
        rw [List.mem_singleton.1 member]
        exact map?_upperRuns_plain mapped
    · rwa [List.mem_singleton.1 member]

/-- The upper case of what is no bracket is none. -/
theorem plain_upperChar {c : Char} (plain : isBracket c = false) :
    ∀ d ∈ upperChar c, isBracket d = false := by
  intro d member
  unfold upperChar at member
  split at member
  · next ascii =>
      have upper := toUpper_plain c.toNat ascii
      rw [Char.ofNat_toNat] at upper
      rw [List.mem_singleton.1 member]
      exact upper plain
  · exact mapChar_upper_plain plain d member

theorem plain_upper {text : String} (plain : Plain text) : Plain (upper text) := by
  intro d member
  rw [upper, String.toList_ofList, List.mem_flatMap] at member
  obtain ⟨c, among, member⟩ := member
  exact plain_upperChar (plain c among) d member

theorem plain_firstUpper {text : String} (plain : Plain text) : Plain (firstUpper text) := by
  unfold firstUpper
  split
  · exact plain
  · next c rest chars =>
      rw [Plain, chars, List.forall_mem_cons] at plain
      split
      · intro d member
        rw [String.toList_ofList, List.mem_append] at member
        exact member.elim (plain_upperChar plain.1 d) (plain.2 d)
      · rw [Plain, chars, List.forall_mem_cons]
        exact plain

end Text

/-! ## Spellings -/

namespace Ident

open Text

theorem intercalate_wordsOf (token : String) : "_".intercalate (wordsOf token) = token := by
  have chars : (wordsOf token).map String.toList = token.toList.splitOn '_' := by
    rw [wordsOf, List.map_map, splitOn_eq]
    simp [Function.comp_def]
  refine String.toList_injective ?_
  rw [String.toList_intercalate, chars]
  exact List.intercalate_splitOn '_'

theorem plain_of_mem_wordsOf {token : String} (plain : Plain token) :
    ∀ word ∈ wordsOf token, Plain word := by
  rw [← intercalate_wordsOf token] at plain
  exact plain_of_plain_intercalate plain

theorem plain_map_firstUpper {words : List String} (each : ∀ word ∈ words, Plain word) :
    ∀ word ∈ words.map firstUpper, Plain word := by
  intro word member
  obtain ⟨source, among, rfl⟩ := List.mem_map.1 member
  exact plain_firstUpper (each source among)

theorem Style.plain_apply {token : String} (plain : Plain token) (style : Style) :
    Plain (style.apply token) := by
  have words := plain_of_mem_wordsOf plain
  cases style with
  | camelUpper => exact plain_join (plain_map_firstUpper words)
  | camelLower =>
      rw [Style.apply]
      cases parts : wordsOf token with
      | nil => decide
      | cons first rest =>
          rw [parts, List.forall_mem_cons] at words
          exact plain_append words.1 (plain_join (plain_map_firstUpper words.2))
  | identity => exact plain
  | underscoreCap => exact plain_intercalate (by decide) (plain_map_firstUpper words)
  | allCaps => exact plain_upper plain

/-- A converter brings in no bracket but those of its literal. -/
theorem Converter.plain_apply {converter : Converter} {token : String}
    (lead : Plain converter.lead) (plain : Plain token) : Plain (converter.apply token) :=
  plain_append lead (converter.style.plain_apply plain)

/-- A bundle brings in no bracket but those of its literals. -/
theorem Bundle.plain_spell {bundle : Bundle} (leads : ∀ role, Plain (bundle.converter role).lead)
    (role : Role) {token : String} (plain : Plain token) : Plain (bundle.spell role token) :=
  Converter.plain_apply (leads role) plain

theorem Bundle.brackets_spell {bundle : Bundle}
    (leads : ∀ role, Plain (bundle.converter role).lead) (role : Role) {token : String}
    (plain : Plain token) : brackets (bundle.spell role token) = 1 :=
  brackets_of_plain (plain_spell leads role plain)

end Ident

/-! ## Docs -/

namespace Render

open Text

/-- Replacing a word brings in no character but those of the replacement. -/
theorem mem_replaceWord {name replacement : List Char} {c : Char} {passing : Nat} {inWord : Bool}
    {text : List Char} (member : c ∈ replaceWord name replacement passing inWord text) :
    c ∈ replacement ∨ c ∈ text := by
  fun_induction replaceWord name replacement passing inWord text with
  | case1 => exact .inl member
  | case2 => cases member
  | case3 _ _ _ _ ih => exact (ih member).imp_right (List.mem_cons_of_mem _)
  | case4 _ d rest _ _ ih =>
      rw [List.mem_append, List.mem_cons] at member
      rcases member with member | rfl | member
      · exact .inl member
      · exact .inr List.mem_cons_self
      · exact (ih member).imp_right (List.mem_cons_of_mem _)
  | case5 _ d rest _ _ ih =>
      rcases List.mem_append.1 member with member | member
      · exact .inl member
      · exact (ih member).imp_right (List.mem_cons_of_mem _)
  | case6 _ d rest _ ih =>
      rcases List.mem_cons.1 member with rfl | member
      · exact .inr List.mem_cons_self
      · exact (ih member).imp_right (List.mem_cons_of_mem _)

theorem plain_renameIn {spell : String → String} {line param : String} (plain : Plain line)
    (spelled : Plain (spell param)) : Plain (renameIn spell line param) := by
  intro c member
  rw [renameIn, String.toList_ofList] at member
  exact (mem_replaceWord member).elim (spelled c) (plain c)

theorem plain_renameParams {spell : String → String} {params : List String} {doc : Doc}
    (spelled : ∀ param ∈ params, Plain (spell param)) (plain : ∀ line ∈ doc, Plain line) :
    ∀ line ∈ renameParams spell params doc, Plain line := by
  intro line member
  obtain ⟨source, among, rfl⟩ := List.mem_map.1 member
  refine List.foldlRecOn params (renameIn spell) (plain source among) ?_
  intro line plain param among
  exact plain_renameIn plain (spelled param among)

end Render

end BridgeCode
