import BridgeCode.Proofs.Ident.Weight
import BridgeCode.Proofs.Text.Plain

/-!
Canonical identifiers and their spellings.

A canonical identifier is made of words in lower case with an underscore between any two. No style
loses the words. A camel case style takes the underscores out, but it raises the first letter of
each word behind one, and a word has no other capital: so a cut in front of each capital falls where
an underscore was (`cutAtCapitals_flatten`). The other styles keep the underscores. What is left is
to lower the pieces (`Style.readWords_apply`), so no two canonical identifiers share a spelling, in
any style and behind any literals.
-/

namespace BridgeCode

open Render

namespace Text

/-! ## Words in lower case -/

/-- Whether a character may stand in a word behind its first letter. -/
def isLowChar (c : Char) : Bool := c.isLower || c.isDigit

/-- A letter in lower case, then such letters and digits. -/
def IsLowWord : List Char → Prop
  | [] => False
  | c :: rest => c.isLower = true ∧ ∀ d ∈ rest, isLowChar d = true

instance : DecidablePred IsLowWord
  | [] => .isFalse id
  | c :: rest =>
    decidable_of_iff ((c.isLower && rest.all isLowChar) = true) (by simp [IsLowWord])

theorem toUpper_of_lowCode : ∀ code < 0x80, isLowChar (Char.ofNat code) = true →
    (Char.ofNat code).isUpper = false ∧ Char.ofNat code ≠ '_' ∧
    (Char.ofNat code).toLower = Char.ofNat code ∧
    (Char.ofNat code).toUpper.toLower = Char.ofNat code ∧
    ((Char.ofNat code).isLower = true → (Char.ofNat code).toUpper.isUpper = true) := by
  decide +kernel

theorem isWordChar_of_isLowChar {c : Char} (low : isLowChar c = true) : isWordChar c = true := by
  unfold isWordChar Char.isAlphanum Char.isAlpha
  rcases Bool.or_eq_true_iff.1 low with letter | digit
  · rw [letter, Bool.or_true, Bool.true_or, Bool.true_or]
  · rw [digit, Bool.or_true, Bool.true_or]

theorem isLowChar_of_isLower {c : Char} (lower : c.isLower = true) : isLowChar c = true :=
  Bool.or_eq_true_iff.2 (.inl lower)

section Letters

variable {c : Char} (low : isLowChar c = true)

include low

theorem toUpper_of_isLowChar :
    c.isUpper = false ∧ c ≠ '_' ∧ c.toLower = c ∧ c.toUpper.toLower = c ∧
    (c.isLower = true → c.toUpper.isUpper = true) := by
  have facts := toUpper_of_lowCode c.toNat (toNat_of_isWordChar (isWordChar_of_isLowChar low))
  rw [Char.ofNat_toNat] at facts
  exact facts low

theorem not_isUpper_of_isLowChar : c.isUpper = false :=
  (toUpper_of_isLowChar low).1

theorem ne_underscore_of_isLowChar : c ≠ '_' :=
  (toUpper_of_isLowChar low).2.1

theorem toLower_of_isLowChar : c.toLower = c :=
  (toUpper_of_isLowChar low).2.2.1

theorem toLower_toUpper_of_isLowChar : c.toUpper.toLower = c :=
  (toUpper_of_isLowChar low).2.2.2.1

end Letters

theorem isUpper_toUpper {c : Char} (lower : c.isLower = true) : c.toUpper.isUpper = true :=
  (toUpper_of_isLowChar (isLowChar_of_isLower lower)).2.2.2.2 lower

namespace IsLowWord

variable {word : List Char}

theorem lowChars (low : IsLowWord word) : ∀ c ∈ word, isLowChar c = true := by
  cases word with
  | nil => exact low.elim
  | cons c rest => exact List.forall_mem_cons.2 ⟨isLowChar_of_isLower low.1, low.2⟩

theorem ne_nil (low : IsLowWord word) : word ≠ [] := by
  rintro rfl
  exact low

theorem wordChars (low : IsLowWord word) : WordChars word :=
  fun c member => isWordChar_of_isLowChar (low.lowChars c member)

theorem not_mem_underscore (low : IsLowWord word) : '_' ∉ word :=
  fun member => ne_underscore_of_isLowChar (low.lowChars _ member) rfl

theorem flat (low : IsLowWord word) : ∀ c ∈ word.tail, c.isUpper = false :=
  fun c member => not_isUpper_of_isLowChar (low.lowChars c (List.mem_of_mem_tail member))

theorem capitalize_ne_nil (low : IsLowWord word) : capitalize word ≠ [] := by
  cases word with
  | nil => exact low.elim
  | cons c rest => exact List.cons_ne_nil _ _

theorem flat_capitalize (low : IsLowWord word) :
    ∀ c ∈ (capitalize word).tail, c.isUpper = false := by
  cases word with
  | nil => exact low.elim
  | cons c rest => exact low.flat

theorem raised_capitalize (low : IsLowWord word) :
    ∀ c ∈ (capitalize word).head?, c.isUpper = true := by
  cases word with
  | nil => exact low.elim
  | cons c rest =>
      intro d first
      obtain rfl := Option.some.inj first
      exact isUpper_toUpper low.1

end IsLowWord

/-! ## Lower case -/

theorem lowerFrom_of_ascii {text : List Char} (ascii : ∀ c ∈ text, c.toNat < 0x80)
    (afterCased : Bool) : lowerFrom afterCased text = text.map Char.toLower := by
  induction text generalizing afterCased with
  | nil => rfl
  | cons c rest ih =>
      rw [List.forall_mem_cons] at ascii
      have noSigma : c ≠ 'Σ' := by
        rintro rfl
        exact absurd ascii.1 (by decide)
      rw [lowerFrom, if_neg noSigma, lowerChar, if_pos ascii.1, ih ascii.2, List.map_cons,
        List.singleton_append]

theorem lower_ofList {text : List Char} (chars : WordChars text) :
    lower (String.ofList text) = String.ofList (text.map Char.toLower) := by
  rw [lower, String.toList_ofList,
    lowerFrom_of_ascii fun c member => toNat_of_isWordChar (chars c member)]

/-- A piece of a spelling is a word that is raised in part: in lower case it is the word again. -/
structure Raises (word piece : List Char) : Prop where
  chars : WordChars piece
  lowered : piece.map Char.toLower = word

theorem Raises.lower_eq {word piece : List Char} (raises : Raises word piece) :
    lower (String.ofList piece) = String.ofList word := by
  rw [lower_ofList raises.chars, raises.lowered]

theorem Raises.not_mem_underscore {word piece : List Char} (raises : Raises word piece)
    (absent : '_' ∉ word) : '_' ∉ piece := by
  rw [← raises.lowered] at absent
  exact fun member => absent (List.mem_map.2 ⟨'_', member, rfl⟩)

theorem map_lower_of_raises {words pieces : List (List Char)}
    (raises : List.Forall₂ Raises words pieces) :
    (pieces.map String.ofList).map lower = words.map String.ofList := by
  induction raises with
  | nil => rfl
  | cons first _ ih => rw [List.map_cons, List.map_cons, List.map_cons, first.lower_eq, ih]

theorem not_mem_underscore_of_raises {words pieces : List (List Char)}
    (raises : List.Forall₂ Raises words pieces) (absent : ∀ word ∈ words, '_' ∉ word) :
    ∀ piece ∈ pieces, '_' ∉ piece := by
  induction raises with
  | nil => nofun
  | cons first _ ih =>
      rw [List.forall_mem_cons] at absent
      exact List.forall_mem_cons.2 ⟨first.not_mem_underscore absent.1, ih absent.2⟩

theorem IsLowWord.raises_self {word : List Char} (low : IsLowWord word) : Raises word word where
  chars := low.wordChars
  lowered := by
    rw [List.map_congr_left fun c member => toLower_of_isLowChar (low.lowChars c member),
      List.map_id']

theorem IsLowWord.raises_capitalize {word : List Char} (low : IsLowWord word) :
    Raises word (capitalize word) where
  chars := wordChars_capitalize low.wordChars
  lowered := by
    cases word with
    | nil => rfl
    | cons c rest =>
        have tail : rest.map Char.toLower = rest := by
          rw [List.map_congr_left fun d member => toLower_of_isLowChar (low.2 d member),
            List.map_id']
        rw [capitalize, List.map_cons, tail,
          toLower_toUpper_of_isLowChar (isLowChar_of_isLower low.1)]

theorem IsLowWord.raises_upper {word : List Char} (low : IsLowWord word) :
    Raises word (word.map Char.toUpper) where
  chars := List.forall_mem_map.2 fun c member => isWordChar_toUpper (low.wordChars c member)
  lowered := by
    rw [List.map_map, List.map_congr_left (g := fun c => c), List.map_id']
    exact fun c member => toLower_toUpper_of_isLowChar (low.lowChars c member)

/-! ## Cuts in front of capitals -/

/-- The parts of a text when it is cut in front of each capital. -/
def cutAtCapitals (text : List Char) : List (List Char) := text.splitBy fun _ c => !c.isUpper

/-- Pieces in a row are found again by cutting in front of capitals, if all but the first start with
one and there is no other. -/
theorem cutAtCapitals_flatten {pieces : List (List Char)} (nonempty : ∀ piece ∈ pieces, piece ≠ [])
    (flat : ∀ piece ∈ pieces, ∀ c ∈ piece.tail, c.isUpper = false)
    (raised : ∀ piece ∈ pieces.tail, ∀ c ∈ piece.head?, c.isUpper = true) :
    cutAtCapitals pieces.flatten = pieces := by
  refine List.splitBy_flatten (fun member => nonempty [] member rfl) ?_ ?_
  · intro piece member
    specialize flat piece member
    cases piece with
    | nil => exact .nil
    | cons c rest =>
        have low : ∀ d ∈ rest, (!d.isUpper) = true := fun d inside => by rw [flat d inside]; rfl
        refine List.Pairwise.isChain (List.pairwise_cons.2 ⟨low, ?_⟩)
        exact List.pairwise_of_forall_mem_list fun _ _ d inside => low d inside
  · have seam : ∀ front ∈ pieces, ∀ back ∈ pieces.tail, ∃ (_ : front ≠ []) (some : back ≠ []),
        (!(back.head some).isUpper) = false := by
      intro front member back later
      have some := nonempty back (List.mem_of_mem_tail later)
      refine ⟨nonempty front member, some, ?_⟩
      rw [raised back later _ (List.head_mem_head? some), Bool.not_true]
    cases pieces with
    | nil => exact .nil
    | cons first rest =>
        refine List.Pairwise.isChain (List.pairwise_cons.2 ⟨seam first List.mem_cons_self, ?_⟩)
        exact List.pairwise_of_forall_mem_list fun front member back later =>
          seam front (List.mem_cons_of_mem _ member) back later

/-- A piece without capitals behind its first character, and raised words behind it. -/
theorem cutAtCapitals_cons {first : List Char} {words : List (List Char)} (nonempty : first ≠ [])
    (flat : ∀ c ∈ first.tail, c.isUpper = false) (low : ∀ word ∈ words, IsLowWord word) :
    cutAtCapitals (first :: words.map capitalize).flatten = first :: words.map capitalize := by
  refine cutAtCapitals_flatten ?_ ?_ ?_
  · refine List.forall_mem_cons.2 ⟨nonempty, List.forall_mem_map.2 fun word member => ?_⟩
    exact (low word member).capitalize_ne_nil
  · refine List.forall_mem_cons.2 ⟨flat, List.forall_mem_map.2 fun word member => ?_⟩
    exact (low word member).flat_capitalize
  · refine List.forall_mem_map.2 fun word member => ?_
    exact (low word member).raised_capitalize

/-! ## Parts between underscores -/

theorem intercalate_splitOn (text : List Char) : ['_'].intercalate (splitOn '_' text) = text := by
  rw [splitOn_eq, List.intercalate_splitOn]

theorem map_intercalate (change : Char → Char) (sep : List Char) (parts : List (List Char)) :
    (sep.intercalate parts).map change =
      (sep.map change).intercalate (parts.map (·.map change)) := by
  induction parts with
  | nil => rfl
  | cons part parts ih =>
      cases parts with
      | nil => rw [List.map_singleton, List.intercalate_singleton, List.intercalate_singleton]
      | cons other parts =>
          rw [List.map_cons] at ih
          rw [List.map_cons, List.map_cons, List.intercalate_cons_cons,
            List.intercalate_cons_cons, List.map_append, List.map_append, ih]

end Text

namespace Ident

open Text

/-! ## Canonical identifiers -/

/-- The identifier is made of words in lower case with an underscore between any two. -/
def IsCanonical (token : String) : Prop := ∀ word ∈ wordsOf token, IsLowWord word.toList

instance : DecidablePred IsCanonical := fun token =>
  inferInstanceAs (Decidable (∀ word ∈ wordsOf token, IsLowWord word.toList))

/-- The parts of a name when it is cut in front of each capital. -/
def capitalizedParts (name : String) : List String :=
  (cutAtCapitals name.toList).map String.ofList

/-- The words of a canonical identifier, read off its spelling in a style. -/
def Style.readWords (style : Style) (name : String) : List String :=
  match style with
  | .camelUpper | .camelLower => (capitalizedParts name).map lower
  | .identity | .underscoreCap | .allCaps => (wordsOf name).map lower

/-- A style behind literals, the first of which stands in front. -/
def Converter.stacked (literals : List String) (style : Style) : Converter :=
  literals.foldr Converter.withLead (.ofStyle style)

theorem Converter.apply_stacked (literals : List String) (style : Style) (token : String) :
    (stacked literals style).apply token = String.join literals ++ style.apply token := by
  induction literals with
  | nil => rfl
  | cons literal literals ih =>
      rw [stacked, List.foldr_cons, apply_withLead, String.join_cons, String.append_assoc]
      exact congrArg _ ih

theorem IsCanonical.lowWords {token : String} (canonical : IsCanonical token) :
    ∀ part ∈ splitOn '_' token.toList, IsLowWord part := by
  intro part member
  have low := canonical (String.ofList part) (List.mem_map_of_mem member)
  rwa [String.toList_ofList] at low

theorem IsCanonical.wordChars {token : String} (canonical : IsCanonical token) :
    WordChars token.toList := by
  rw [← intercalate_splitOn token.toList]
  exact wordChars_intercalate fun part member => (canonical.lowWords part member).wordChars

/-! ## Words in spellings -/

namespace Style

/-- The words of a text as a style raises them. -/
def raised (style : Style) (words : List (List Char)) : List (List Char) :=
  match style with
  | .camelUpper | .underscoreCap => words.map capitalize
  | .camelLower =>
    match words with
    | [] => []
    | first :: rest => first :: rest.map capitalize
  | .identity => words
  | .allCaps => words.map (·.map Char.toUpper)

theorem raises_raised (style : Style) {words : List (List Char)}
    (low : ∀ word ∈ words, IsLowWord word) : List.Forall₂ Raises words (style.raised words) := by
  have capitalized : ∀ words : List (List Char), (∀ word ∈ words, IsLowWord word) →
      List.Forall₂ Raises words (words.map capitalize) := by
    intro words low
    rw [List.forall₂_map_right_iff, List.forall₂_same]
    exact fun word member => (low word member).raises_capitalize
  cases style with
  | camelUpper => exact capitalized words low
  | camelLower =>
      cases words with
      | nil => exact .nil
      | cons first rest =>
          rw [List.forall_mem_cons] at low
          exact .cons low.1.raises_self (capitalized rest low.2)
  | identity => exact List.forall₂_same.2 fun word member => (low word member).raises_self
  | underscoreCap => exact capitalized words low
  | allCaps =>
      rw [raised, List.forall₂_map_right_iff, List.forall₂_same]
      exact fun word member => (low word member).raises_upper

theorem spelled_of_isCamel {style : Style} (camel : style.IsCamel) (text : List Char) :
    style.spelled text = (style.raised (splitOn '_' text)).flatten := by
  rcases camel with rfl | rfl
  · rw [spelled, raised, List.flatMap_def]
  · rw [spelled]
    cases splitOn '_' text with
    | nil => rfl
    | cons first rest => rw [joinLower, raised, List.flatten_cons, List.flatMap_def]

theorem spelled_of_not_isCamel {style : Style} (keeps : ¬ style.IsCamel) (text : List Char) :
    style.spelled text = ['_'].intercalate (style.raised (splitOn '_' text)) := by
  cases style with
  | camelUpper => exact absurd (.inl rfl) keeps
  | camelLower => exact absurd (.inr rfl) keeps
  | identity => exact (intercalate_splitOn text).symm
  | underscoreCap => rfl
  | allCaps =>
      have underscore : ['_'].map Char.toUpper = ['_'] := by decide
      rw [spelled, raised, ← underscore, ← map_intercalate, intercalate_splitOn]

/-- In camel case a cut in front of each capital takes the words apart. -/
theorem cutAtCapitals_raised {style : Style} (camel : style.IsCamel) {words : List (List Char)}
    (low : ∀ word ∈ words, IsLowWord word) :
    cutAtCapitals (style.raised words).flatten = style.raised words := by
  cases words with
  | nil => rcases camel with rfl | rfl <;> rfl
  | cons first rest =>
      rw [List.forall_mem_cons] at low
      rcases camel with rfl | rfl
      · exact cutAtCapitals_cons low.1.capitalize_ne_nil low.1.flat_capitalize low.2
      · exact cutAtCapitals_cons low.1.ne_nil low.1.flat low.2

/-- The underscores that a style keeps take the words apart. -/
theorem splitOn_raised (style : Style) {words : List (List Char)} (some : words ≠ [])
    (low : ∀ word ∈ words, IsLowWord word) :
    splitOn '_' (['_'].intercalate (style.raised words)) = style.raised words := by
  have raises := style.raises_raised low
  rw [splitOn_eq]
  refine List.splitOn_intercalate '_' ?_ fun empty => ?_
  · exact not_mem_underscore_of_raises raises fun word member =>
      (low word member).not_mem_underscore
  · rw [empty, List.forall₂_nil_right_iff] at raises
    exact some raises

/-- The words of a canonical identifier are read off its spelling. -/
theorem readWords_apply {token : String} (canonical : IsCanonical token) (style : Style) :
    style.readWords (style.apply token) = wordsOf token := by
  have low := canonical.lowWords
  have lowered := map_lower_of_raises (style.raises_raised low)
  have chars := @toList_apply style token canonical.wordChars
  by_cases camel : style.IsCamel
  · have cut : capitalizedParts (style.apply token) =
        (style.raised (splitOn '_' token.toList)).map String.ofList := by
      rw [capitalizedParts, chars, spelled_of_isCamel camel, cutAtCapitals_raised camel low]
    rw [wordsOf, ← lowered, ← cut]
    rcases camel with rfl | rfl <;> rfl
  · have some : splitOn '_' token.toList ≠ [] := by
      rw [splitOn_eq]
      exact List.splitOn_ne_nil _ _
    have split : wordsOf (style.apply token) =
        (style.raised (splitOn '_' token.toList)).map String.ofList := by
      rw [wordsOf, chars, spelled_of_not_isCamel camel, splitOn_raised style some low]
    rw [wordsOf, ← lowered, ← split]
    cases style with
    | camelUpper => exact absurd (.inl rfl) camel
    | camelLower => exact absurd (.inr rfl) camel
    | identity | underscoreCap | allCaps => rfl

end Style

/-- No two canonical identifiers share a spelling, in any style and behind any literals. The words
are read off a spelling again: in camel case by cuts in front of capitals, and otherwise at the
underscores. -/
theorem canonical_spellings_distinct (literals : List String) (style : Style) :
    (∀ token other, IsCanonical token → IsCanonical other → token ≠ other →
      (Converter.stacked literals style).apply token ≠
        (Converter.stacked literals style).apply other) ∧
    ∀ token, IsCanonical token →
      (capitalizedParts (Style.camelUpper.apply token)).map lower = wordsOf token ∧
      (wordsOf (Style.underscoreCap.apply token)).map lower = wordsOf token := by
  constructor
  · intro token other canonical canonical' apart same
    rw [Converter.apply_stacked, Converter.apply_stacked, String.append_right_inj] at same
    have words : wordsOf token = wordsOf other := by
      rw [← style.readWords_apply canonical, same, style.readWords_apply canonical']
    exact apart (by rw [← intercalate_wordsOf token, words, intercalate_wordsOf])
  · intro token canonical
    exact ⟨Style.camelUpper.readWords_apply canonical,
      Style.underscoreCap.readWords_apply canonical⟩

/-- A word of one letter and a digit at the end of a word: `a_b2_c` and `ab2_c` stay apart. -/
theorem short_words_distinct :
    IsCanonical "a_b2_c" ∧ IsCanonical "ab2_c" ∧
    (Converter.stacked ["k", "_"] .camelLower).apply "a_b2_c" ≠
      (Converter.stacked ["k", "_"] .camelLower).apply "ab2_c" ∧
    (capitalizedParts (Style.camelUpper.apply "a_b2_c")).map lower = ["a", "b2", "c"] ∧
    (wordsOf (Style.underscoreCap.apply "a_b2_c")).map lower = ["a", "b2", "c"] := by
  have canonical : IsCanonical "a_b2_c" := by decide
  have canonical' : IsCanonical "ab2_c" := by decide
  obtain ⟨apart, read⟩ := canonical_spellings_distinct ["k", "_"] .camelLower
  have words : wordsOf "a_b2_c" = ["a", "b2", "c"] := by decide
  refine ⟨canonical, canonical', apart _ _ canonical canonical' (by decide), ?_⟩
  rw [← words]
  exact read _ canonical

end Ident

end BridgeCode
