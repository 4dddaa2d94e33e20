import BridgeCode.Ident.Style
import BridgeCode.Proofs.Path
import BridgeCode.Proofs.Render.Words
import BridgeCode.Proofs.TypeExpr.Lexing

/-!
What spelling does to words.

A style takes underscores out of a word and raises letters, and it puts nothing in. So the spelling
of a word weighs what the word weighs, less an underscore for each that is taken out, and more for
each letter that is raised (`weight` counts a capital twice). A converter adds the weight of its
literal.

* `Style.toList_apply`: the spelling of a word as a list of characters.
* `Converter.stays_or_swells`: a word that occurs in a spelling of a converter is spelled as it is,
  or heavier.
-/

namespace BridgeCode

open Render

namespace Text

/-- How much a character counts: a capital counts twice. -/
def charWeight (c : Char) : Nat := if c.isUpper then 2 else 1

/-- The characters of a text, capitals counted twice. -/
def weight : List Char → Nat
  | [] => 0
  | c :: text => charWeight c + weight text

@[simp]
theorem weight_cons (c : Char) (text : List Char) :
    weight (c :: text) = charWeight c + weight text :=
  rfl

@[simp]
theorem weight_append (text more : List Char) :
    weight (text ++ more) = weight text + weight more := by
  induction text with
  | nil => exact (Nat.zero_add _).symm
  | cons c text ih => rw [List.cons_append, weight_cons, weight_cons, ih, Nat.add_assoc]

theorem charWeight_pos (c : Char) : 0 < charWeight c := by
  unfold charWeight
  split <;> omega

theorem length_le_weight (text : List Char) : text.length ≤ weight text := by
  induction text with
  | nil => exact Nat.le_refl _
  | cons c text ih =>
      have := charWeight_pos c
      rw [List.length_cons, weight_cons]
      omega

/-- Characters that are taken out weigh what is missing. -/
theorem weight_filter_add_count (text : List Char) :
    weight (text.filter (· ≠ '_')) + text.count '_' = weight text := by
  induction text with
  | nil => rfl
  | cons c text ih =>
      by_cases underscore : c = '_'
      · have single : charWeight '_' = 1 := by decide
        rw [underscore, List.filter_cons_of_neg (by decide), List.count_cons_self, weight_cons,
          single]
        omega
      · rw [List.filter_cons_of_pos (by simpa using underscore), List.count_cons_of_ne underscore,
          weight_cons, weight_cons]
        omega

/-! ## Capitals of word characters -/

/-- Raising a character of a word gives one again, brings no underscore in, and makes it heavier if
it changes it. -/
theorem toUpper_of_code : ∀ code < 0x80, isWordChar (Char.ofNat code) = true →
    isWordChar (Char.ofNat code).toUpper = true ∧
    ((Char.ofNat code).toUpper = '_' → Char.ofNat code = '_') ∧
    (Char.ofNat code).toUpper.toUpper = (Char.ofNat code).toUpper ∧
    ((Char.ofNat code).toUpper = Char.ofNat code ∨
      charWeight (Char.ofNat code) < charWeight (Char.ofNat code).toUpper) := by
  decide +kernel

/-- Characters of words may stand in names, which are ASCII. -/
theorem toNat_of_isWordChar {c : Char} (inside : isWordChar c = true) : c.toNat < 0x80 := by
  have named : TypeRef.isNameChar c = true := Bool.or_eq_true_iff.2 (.inl inside)
  exact (TypeRef.toNat_of_isNameChar named).2

section Letters

variable {c : Char} (inside : isWordChar c = true)

include inside

theorem toUpper_of_isWordChar :
    isWordChar c.toUpper = true ∧ (c.toUpper = '_' → c = '_') ∧
    c.toUpper.toUpper = c.toUpper ∧
    (c.toUpper = c ∨ charWeight c < charWeight c.toUpper) := by
  have facts := toUpper_of_code c.toNat (toNat_of_isWordChar inside)
  rw [Char.ofNat_toNat] at facts
  exact facts inside

theorem isWordChar_toUpper : isWordChar c.toUpper = true :=
  (toUpper_of_isWordChar inside).1

theorem eq_underscore_of_toUpper (raised : c.toUpper = '_') : c = '_' :=
  (toUpper_of_isWordChar inside).2.1 raised

theorem toUpper_toUpper : c.toUpper.toUpper = c.toUpper :=
  (toUpper_of_isWordChar inside).2.2.1

theorem toUpper_stays_or_swells : c.toUpper = c ∨ charWeight c < charWeight c.toUpper :=
  (toUpper_of_isWordChar inside).2.2.2

theorem upperChar_eq : upperChar c = [c.toUpper] := by
  rw [upperChar, if_pos (toNat_of_isWordChar inside)]

end Letters

/-! ## Raised words -/

/-- A word with its first character raised. -/
def capitalize : List Char → List Char
  | [] => []
  | c :: rest => c.toUpper :: rest

theorem wordChars_capitalize {word : List Char} (chars : WordChars word) :
    WordChars (capitalize word) := by
  cases word with
  | nil => exact chars
  | cons c rest =>
      rw [WordChars, List.forall_mem_cons] at chars
      exact List.forall_mem_cons.2 ⟨isWordChar_toUpper chars.1, chars.2⟩

theorem not_mem_capitalize {word : List Char} (chars : WordChars word) (absent : '_' ∉ word) :
    '_' ∉ capitalize word := by
  cases word with
  | nil => exact absent
  | cons c rest =>
      rw [List.mem_cons, not_or] at absent
      intro member
      rcases List.mem_cons.1 member with raised | member
      · exact absent.1 (eq_underscore_of_toUpper (chars c List.mem_cons_self) raised.symm).symm
      · exact absent.2 member

theorem capitalize_capitalize {word : List Char} (chars : WordChars word) :
    capitalize (capitalize word) = capitalize word := by
  cases word with
  | nil => rfl
  | cons c rest => rw [capitalize, capitalize, toUpper_toUpper (chars c List.mem_cons_self)]

theorem capitalize_stays_or_swells {word : List Char} (chars : WordChars word) :
    capitalize word = word ∨ weight word < weight (capitalize word) := by
  cases word with
  | nil => exact .inl rfl
  | cons c rest =>
      rcases toUpper_stays_or_swells (chars c List.mem_cons_self) with stays | swells
      · exact .inl (by rw [capitalize, stays])
      · exact .inr (by rw [capitalize, weight_cons, weight_cons]; omega)

theorem weight_le_capitalize {word : List Char} (chars : WordChars word) :
    weight word ≤ weight (capitalize word) := by
  rcases capitalize_stays_or_swells chars with stays | swells
  · rw [stays]
  · exact Nat.le_of_lt swells

theorem firstUpper_ofList {word : List Char} (chars : WordChars word) :
    firstUpper (String.ofList word) = String.ofList (capitalize word) := by
  cases word with
  | nil => rfl
  | cons c rest =>
      have inside := chars c List.mem_cons_self
      have narrow : c.toNat < 0x10000 := by
        have := toNat_of_isWordChar inside
        omega
      simp only [firstUpper, String.toList_ofList, if_pos narrow, upperChar_eq inside]
      rfl

/-! ## Parts between underscores -/

theorem wordChars_of_mem_splitOn {text : List Char} (chars : WordChars text) :
    ∀ part ∈ splitOn '_' text, WordChars part :=
  fun _ member c inside => chars c (mem_of_mem_splitOn member inside).1

theorem not_mem_of_mem_splitOn {text : List Char} : ∀ part ∈ splitOn '_' text, '_' ∉ part :=
  fun _ member inside => (mem_of_mem_splitOn member inside).2 rfl

/-- Underscores in front of a text without any leave empty parts. -/
theorem splitOn_replicate_append {text : List Char} (absent : '_' ∉ text) (count : Nat) :
    splitOn '_' (List.replicate count '_' ++ text) = List.replicate count [] ++ [text] := by
  induction count with
  | zero => rw [splitOn_eq]; exact List.splitOn_eq_singleton absent
  | succ count ih =>
      rw [List.replicate_succ, List.cons_append, splitOn, if_pos rfl, ih, List.replicate_succ,
        List.cons_append]

theorem weight_flatten_le {parts : List (List Char)} (chars : ∀ part ∈ parts, WordChars part) :
    weight parts.flatten ≤ weight (parts.flatMap capitalize) := by
  induction parts with
  | nil => exact Nat.le_refl _
  | cons part parts ih =>
      rw [List.forall_mem_cons] at chars
      have := weight_le_capitalize chars.1
      have := ih chars.2
      rw [List.flatten_cons, List.flatMap_cons, weight_append, weight_append]
      omega

theorem weight_intercalate_le {parts : List (List Char)} (chars : ∀ part ∈ parts, WordChars part) :
    weight (['_'].intercalate parts) ≤ weight (['_'].intercalate (parts.map capitalize)) := by
  induction parts with
  | nil => exact Nat.le_refl _
  | cons part parts ih =>
      rw [List.forall_mem_cons] at chars
      have := weight_le_capitalize chars.1
      cases parts with
      | nil => rwa [List.map_singleton, List.intercalate_singleton, List.intercalate_singleton]
      | cons other parts =>
          have := ih chars.2
          rw [List.map_cons] at this
          rw [List.map_cons, List.map_cons, List.intercalate_cons_cons, List.intercalate_cons_cons]
          simp only [weight_append]
          omega

theorem weight_le_map_toUpper {text : List Char} (chars : WordChars text) :
    weight text ≤ weight (text.map Char.toUpper) := by
  induction text with
  | nil => exact Nat.le_refl _
  | cons c text ih =>
      rw [WordChars, List.forall_mem_cons] at chars
      have := ih chars.2
      rw [List.map_cons, weight_cons, weight_cons]
      rcases toUpper_stays_or_swells chars.1 with stays | swells
      · rw [stays]
        omega
      · omega

theorem wordChars_intercalate {parts : List (List Char)} (chars : ∀ part ∈ parts, WordChars part) :
    WordChars (['_'].intercalate parts) := by
  induction parts with
  | nil => nofun
  | cons part parts ih =>
      rw [List.forall_mem_cons] at chars
      cases parts with
      | nil => rw [List.intercalate_singleton]; exact chars.1
      | cons other parts =>
          rw [List.intercalate_cons_cons]
          have underscore : WordChars ['_'] := List.forall_mem_singleton.2 (by decide)
          exact List.forall_mem_append.2
            ⟨List.forall_mem_append.2 ⟨chars.1, underscore⟩, ih chars.2⟩

theorem wordChars_flatMap {parts : List (List Char)} (chars : ∀ part ∈ parts, WordChars part) :
    WordChars (parts.flatMap capitalize) := by
  intro c member
  obtain ⟨part, among, member⟩ := List.mem_flatMap.1 member
  exact wordChars_capitalize (chars part among) c member

theorem not_mem_flatMap {parts : List (List Char)} (chars : ∀ part ∈ parts, WordChars part)
    (absent : ∀ part ∈ parts, '_' ∉ part) : '_' ∉ parts.flatMap capitalize := by
  intro member
  obtain ⟨part, among, member⟩ := List.mem_flatMap.1 member
  exact not_mem_capitalize (chars part among) (absent part among) member

end Text

namespace Ident

open Text

/-! ## Spellings of words -/

namespace Style

/-- Parts in a row, all but the first one raised. -/
def joinLower : List (List Char) → List Char
  | [] => []
  | first :: rest => first ++ rest.flatMap capitalize

/-- How a style spells word characters. -/
def spelled (style : Style) (text : List Char) : List Char :=
  match style with
  | .camelUpper => (splitOn '_' text).flatMap capitalize
  | .camelLower => joinLower (splitOn '_' text)
  | .identity => text
  | .underscoreCap => ['_'].intercalate ((splitOn '_' text).map capitalize)
  | .allCaps => text.map Char.toUpper

/-- The style takes underscores out. -/
def IsCamel (style : Style) : Prop := style = .camelUpper ∨ style = .camelLower

theorem map_firstUpper {parts : List (List Char)} (chars : ∀ part ∈ parts, WordChars part) :
    (parts.map String.ofList).map firstUpper = (parts.map capitalize).map String.ofList := by
  rw [List.map_map, List.map_map]
  exact List.map_congr_left fun part member => firstUpper_ofList (chars part member)

theorem toList_join_ofList (parts : List (List Char)) :
    (String.join ((parts.map capitalize).map String.ofList)).toList = parts.flatMap capitalize := by
  rw [String.toList_join, List.flatMap_map, List.flatMap_map]
  exact List.flatMap_congr fun _ _ => String.toList_ofList

theorem toList_apply {style : Style} {token : String} (chars : WordChars token.toList) :
    (style.apply token).toList = style.spelled token.toList := by
  have each := wordChars_of_mem_splitOn chars
  cases style with
  | camelUpper => rw [apply, wordsOf, map_firstUpper each, toList_join_ofList, spelled]
  | camelLower =>
      rw [apply, wordsOf, spelled]
      generalize splitOn '_' token.toList = parts at each
      cases parts with
      | nil => rfl
      | cons first rest =>
          rw [List.forall_mem_cons] at each
          simp only [List.map_cons, map_firstUpper each.2, String.toList_append,
            toList_join_ofList, String.toList_ofList, joinLower]
  | identity => rfl
  | underscoreCap =>
      rw [apply, wordsOf, map_firstUpper each, String.toList_intercalate, List.map_map, spelled]
      refine congrArg _ (List.map_congr_left fun _ _ => String.toList_ofList) |>.trans ?_
      rw [List.map_id']
      rfl
  | allCaps =>
      rw [apply, upper, String.toList_ofList, spelled, List.map_eq_flatMap]
      exact List.flatMap_congr fun c member => upperChar_eq (chars c member)

theorem wordChars_spelled {style : Style} {text : List Char} (chars : WordChars text) :
    WordChars (style.spelled text) := by
  have each := wordChars_of_mem_splitOn chars
  cases style with
  | camelUpper => exact wordChars_flatMap each
  | camelLower =>
      rw [spelled]
      generalize splitOn '_' text = parts at each
      cases parts with
      | nil => nofun
      | cons first rest =>
          rw [List.forall_mem_cons] at each
          exact List.forall_mem_append.2 ⟨each.1, wordChars_flatMap each.2⟩
  | identity => exact chars
  | underscoreCap =>
      refine wordChars_intercalate fun part member => ?_
      obtain ⟨source, among, rfl⟩ := List.mem_map.1 member
      exact wordChars_capitalize (each source among)
  | allCaps => exact List.forall_mem_map.2 fun c member => isWordChar_toUpper (chars c member)

/-! ### Camel case -/

theorem not_mem_spelled {style : Style} (camel : style.IsCamel) {text : List Char}
    (chars : WordChars text) : '_' ∉ style.spelled text := by
  have each := wordChars_of_mem_splitOn chars
  have absent := @not_mem_of_mem_splitOn text
  rcases camel with rfl | rfl
  · exact not_mem_flatMap each absent
  · rw [spelled]
    generalize splitOn '_' text = parts at each absent
    cases parts with
    | nil => nofun
    | cons first rest =>
        rw [List.forall_mem_cons] at each absent
        rw [joinLower, List.mem_append, not_or]
        exact ⟨absent.1, not_mem_flatMap each.2 absent.2⟩

/-- The spelling weighs at least what the text weighs without its underscores. -/
theorem weight_le_camel {style : Style} (camel : style.IsCamel) {text : List Char}
    (chars : WordChars text) : weight text ≤ weight (style.spelled text) + text.count '_' := by
  have each := wordChars_of_mem_splitOn chars
  have taken := weight_filter_add_count text
  rw [← flatten_splitOn] at taken
  suffices weight (splitOn '_' text).flatten ≤ weight (style.spelled text) by omega
  rcases camel with rfl | rfl
  · exact weight_flatten_le each
  · rw [spelled]
    generalize splitOn '_' text = parts at each
    cases parts with
    | nil => exact Nat.le_refl _
    | cons first rest =>
        rw [List.forall_mem_cons] at each
        have := weight_flatten_le each.2
        rw [joinLower, List.flatten_cons, weight_append, weight_append]
        omega

/-- Behind underscores, a text without any is spelled as it is, or raised. -/
theorem spelled_underscores_append {style : Style} (camel : style.IsCamel) {text : List Char}
    (absent : '_' ∉ text) (count : Nat) :
    style.spelled (List.replicate count '_' ++ text) = text ∨
      style.spelled (List.replicate count '_' ++ text) = capitalize text := by
  have raised : (List.replicate count [] ++ [text]).flatMap capitalize = capitalize text := by
    simp [List.flatMap_replicate, capitalize]
  rcases camel with rfl | rfl
  · rw [spelled, splitOn_replicate_append absent]
    exact .inr raised
  · rw [spelled, splitOn_replicate_append absent]
    cases count with
    | zero => exact .inl (List.append_nil text)
    | succ count =>
        rw [List.replicate_succ, List.cons_append, List.flatMap_cons] at raised
        exact .inr raised

/-! ### Styles that keep underscores -/

theorem weight_le_spelled {style : Style} (keeps : ¬ style.IsCamel) {text : List Char}
    (chars : WordChars text) : weight text ≤ weight (style.spelled text) := by
  cases style with
  | camelUpper => exact absurd (.inl rfl) keeps
  | camelLower => exact absurd (.inr rfl) keeps
  | identity => exact Nat.le_refl _
  | underscoreCap =>
      have raised := weight_intercalate_le (wordChars_of_mem_splitOn chars)
      rwa [splitOn_eq, List.intercalate_splitOn, ← splitOn_eq] at raised
  | allCaps => exact weight_le_map_toUpper chars

/-- A spelling is spelled as it is. -/
theorem spelled_spelled {style : Style} (keeps : ¬ style.IsCamel) {text : List Char}
    (chars : WordChars text) : style.spelled (style.spelled text) = style.spelled text := by
  cases style with
  | camelUpper => exact absurd (.inl rfl) keeps
  | camelLower => exact absurd (.inr rfl) keeps
  | identity => rfl
  | underscoreCap =>
      have each := wordChars_of_mem_splitOn chars
      have absent : ∀ part ∈ (splitOn '_' text).map capitalize, '_' ∉ part :=
        List.forall_mem_map.2 fun part member =>
          not_mem_capitalize (each part member) (not_mem_of_mem_splitOn part member)
      have some : (splitOn '_' text).map capitalize ≠ [] := by
        rw [splitOn_eq]
        simp
      rw [spelled, spelled, splitOn_eq _ (['_'].intercalate _),
        List.splitOn_intercalate '_' absent some, List.map_map]
      exact congrArg _ (List.map_congr_left fun part member =>
        capitalize_capitalize (each part member))
  | allCaps =>
      rw [spelled, spelled, List.map_map]
      exact List.map_congr_left fun c member => toUpper_toUpper (chars c member)

end Style

/-! ## Spellings of converters -/

namespace Converter

/-- How a converter spells word characters. -/
def spelled (converter : Converter) (text : List Char) : List Char :=
  converter.lead.toList ++ converter.style.spelled text

theorem toList_apply {converter : Converter} {token : String} (chars : WordChars token.toList) :
    (converter.apply token).toList = converter.spelled token.toList := by
  rw [apply, String.toList_append, Style.toList_apply chars, spelled]

/-- A word in a spelling is spelled as it is or heavier. The literal makes up for the underscores
that are taken out of the word, as the style leaves none: so the word has at most those of the
literal. If the literal is underscores only, the word is the whole spelling, and at most its first
letter can still be raised. -/
theorem stays_or_swells (converter : Converter) {name word : List Char} (chars : WordChars name)
    (isWord : IsWord word) (occurs : word ∈ pieces (converter.spelled name)) :
    converter.spelled word = word ∨ weight word < weight (converter.spelled word) := by
  obtain ⟨lead, style⟩ := converter
  have spelling := @Style.wordChars_spelled style _ chars
  unfold spelled at occurs ⊢
  dsimp only at occurs ⊢
  generalize lead.toList = front at occurs ⊢
  have long := length_le_weight front
  rw [weight_append]
  by_cases camel : style.IsCamel
  · have absent := Style.not_mem_spelled camel chars
    have lighter := Style.weight_le_camel camel isWord.chars
    have underscores : word.count '_' ≤ front.count '_' := by
      have inner := (List.sublist_flatten_of_mem occurs).count_le '_'
      rwa [flatten_pieces, List.count_append, List.count_eq_zero.2 absent] at inner
    by_cases only : front.count '_' = front.length
    · obtain ⟨count, rfl⟩ : ∃ count, front = List.replicate count '_' :=
        ⟨_, List.eq_replicate_iff.2 ⟨rfl, fun c member =>
          (List.count_eq_length.1 only c member).symm⟩⟩
      have underscore : isWordChar '_' = true := by decide
      have whole : WordChars (List.replicate count '_' ++ style.spelled name) :=
        List.forall_mem_append.2
          ⟨fun c member => (List.eq_of_mem_replicate member).symm ▸ underscore, spelling⟩
      rw [eq_of_mem_pieces whole occurs, weight_append]
      rcases Style.spelled_underscores_append camel absent count with same | raised
      · exact .inl (by rw [same])
      · rw [raised]
        rcases capitalize_stays_or_swells spelling with stays | swells
        · exact .inl (by rw [stays])
        · exact .inr (by omega)
    · have := @List.count_le_length _ _ '_' front
      exact .inr (by omega)
  · have heavier := Style.weight_le_spelled camel isWord.chars
    cases front with
    | nil =>
        rw [List.nil_append] at occurs
        rw [eq_of_mem_pieces spelling occurs]
        exact .inl (Style.spelled_spelled camel chars)
    | cons c front =>
        have := charWeight_pos c
        exact .inr (by rw [weight_cons]; omega)

end Converter

end Ident

end BridgeCode
