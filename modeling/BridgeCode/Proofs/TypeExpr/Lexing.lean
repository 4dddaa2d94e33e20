import BridgeCode.Proofs.Results
import BridgeCode.TypeExpr.Parser

/-!
The tokens of type expressions.

`Lexes` says what it means that a text is made of tokens: each may have white space in front of it,
and no name breaks off where it could go on. The tokenizer finds the tokens that a text is made of
(`tokenize_of_tokenizes`). On every text that is not made of tokens it reports where the longest
front that is made of tokens ends (`tokenizes_or_longestFront`): blanks in front of the character
that starts no token are not counted.

The tokenizer goes character by character. `tokensFrom_lexeme` takes it over a whole token, and all
that follows is by induction on tokens.
-/

namespace BridgeCode

namespace TypeRef

open Text (isBlank charUnits listUnits)

/-! ## Texts made of tokens -/

/-- A letter or an underscore, then letters, digits, underscores and dots. -/
def IsWord : List Char → Prop
  | [] => False
  | first :: rest => isNameStart first = true ∧ ∀ c ∈ rest, isNameChar c = true

instance : DecidablePred IsWord
  | [] => .isFalse id
  | first :: rest =>
    decidable_of_iff ((isNameStart first && rest.all isNameChar) = true) (by simp [IsWord])

/-- No name goes on into the text. -/
def Fresh (text : List Char) : Prop := ∀ c ∈ text.head?, isNameChar c = false

namespace Token

/-- A token that a text can be made of: a sign, or a name. -/
def Lexical : Token → Prop
  | .ident name => IsWord name.toList
  | _ => True

/-- The token does not go on into the text behind it. -/
def EndsBefore (rest : List Char) : Token → Prop
  | .ident _ => Fresh rest
  | _ => True

end Token

/-- The text is made of the tokens: white space may stand in front of each, and each is as long as
it can be. -/
inductive Lexes : List Char → List Token → Prop
  | nil : Lexes [] []
  | cons {blanks rest : List Char} {token : Token} {tokens : List Token}
      (blank : ∀ c ∈ blanks, isBlank c = true) (lexical : token.Lexical)
      (longest : token.EndsBefore rest) (more : Lexes rest tokens) :
      Lexes (blanks ++ (token.text.toList ++ rest)) (token :: tokens)

/-- The text is made of the tokens, with white space allowed behind the last one too. -/
def Tokenizes (text : List Char) (tokens : List Token) : Prop :=
  ∃ front blanks, Lexes front tokens ∧ (∀ c ∈ blanks, isBlank c = true) ∧ text = front ++ blanks

/-- The longest front of a text that is made of tokens. -/
structure LongestFront (text front : List Char) : Prop where
  isFront : front <+: text
  lexes : ∃ tokens, Lexes front tokens
  longest : ∀ other tokens, other <+: text → Lexes other tokens → other <+: front

/-! ## Characters -/

theorem isNameChar_of_isNameStart {c : Char} (start : isNameStart c = true) :
    isNameChar c = true := by
  simp only [isNameStart, Bool.or_eq_true] at start
  rcases start with alpha | underscore
  · simp [isNameChar, Char.isAlphanum, alpha]
  · simp [isNameChar, underscore]

/-- Names are made of visible ASCII characters. -/
theorem toNat_of_isNameChar {c : Char} (char : isNameChar c = true) :
    32 < c.toNat ∧ c.toNat < 128 := by
  delta isNameChar Char.isAlphanum Char.isAlpha Char.isUpper Char.isLower Char.isDigit at char
  simp only [Bool.or_eq_true, Bool.and_eq_true, decide_eq_true_eq, beq_iff_eq, ge_iff_le,
    UInt32.le_iff_toNat_le] at char
  change ((((65 ≤ c.toNat ∧ c.toNat ≤ 90) ∨ (97 ≤ c.toNat ∧ c.toNat ≤ 122)) ∨
    (48 ≤ c.toNat ∧ c.toNat ≤ 57)) ∨ c = '_') ∨ c = '.' at char
  rcases char with (letterOrDigit | rfl) | rfl
  · omega
  · decide
  · decide

theorem isBlank_of_isNameChar {c : Char} (char : isNameChar c = true) : isBlank c = false := by
  obtain ⟨low, high⟩ := toNat_of_isNameChar char
  simp only [isBlank, Bool.or_eq_false_iff, Bool.and_eq_false_iff, decide_eq_false_iff_not,
    beq_eq_false_iff_ne]
  omega

theorem charUnits_of_isNameChar {c : Char} (char : isNameChar c = true) : charUnits c = 1 := by
  obtain ⟨-, high⟩ := toNat_of_isNameChar char
  exact if_pos (by omega)

/-- A sign is one character, whatever stands behind it. -/
theorem lexical_of_sign? {c : Char} {token : Token} (sign : sign? c = some token) :
    token.Lexical ∧ (∀ rest, token.EndsBefore rest) ∧ token.text.toList = [c] := by
  unfold sign? at sign
  split at sign
  · cases sign
    exact ⟨trivial, fun _ => trivial, by simp [Token.text, *]⟩
  split at sign
  · cases sign
    exact ⟨trivial, fun _ => trivial, by simp [Token.text, *]⟩
  split at sign
  · cases sign
    exact ⟨trivial, fun _ => trivial, by simp [Token.text, *]⟩
  · cases sign

theorem Token.Lexical.text_ne_nil {token : Token} (lexical : token.Lexical) :
    token.text.toList ≠ [] := by
  cases token with
  | ident name =>
      intro empty
      rw [Token.text] at empty
      rw [Token.Lexical, empty] at lexical
      exact lexical
  | _ => exact nofun

/-! ## How the tokenizer goes on -/

/-- Between two tokens. -/
theorem tokensFrom_between (start offset : Nat) (c : Char) (rest : List Char) :
    tokensFrom start offset [] (c :: rest) =
      if isBlank c then tokensFrom start (offset + charUnits c) [] rest
      else if isNameStart c then tokensFrom start (offset + charUnits c) [c] rest
      else
        match sign? c with
        | some token =>
          (tokensFrom (offset + charUnits c) (offset + charUnits c) [] rest).map (token :: ·)
        | none => .error (.unexpectedCharacter start) := by
  have unchanged : ∀ result : Except ParseError (List Token), result.map ([] ++ ·) = result := by
    intro result
    cases result <;> rfl
  rw [tokensFrom]
  simp only [List.isEmpty_nil, Bool.not_true, Bool.and_false, Bool.false_eq_true, if_false, if_true,
    pendingName, unchanged]
  rfl

theorem tokensFrom_blanks {blanks : List Char} (blank : ∀ c ∈ blanks, isBlank c = true)
    (start offset : Nat) (text : List Char) :
    tokensFrom start offset [] (blanks ++ text) =
      tokensFrom start (offset + listUnits blanks) [] text := by
  induction blanks generalizing offset with
  | nil => rfl
  | cons c blanks ih =>
      rw [List.forall_mem_cons] at blank
      rw [List.cons_append, tokensFrom_between, if_pos blank.1, ih blank.2, listUnits,
        Nat.add_assoc]

/-- The characters of a name that has begun are collected. -/
theorem tokensFrom_chars {chars : List Char} (name : ∀ c ∈ chars, isNameChar c = true)
    {word : List Char} (begun : word ≠ []) (start offset : Nat) (text : List Char) :
    tokensFrom start offset word (chars ++ text) =
      tokensFrom start (offset + listUnits chars) (chars.reverse ++ word) text := by
  induction chars generalizing offset word with
  | nil => rfl
  | cons c chars ih =>
      rw [List.forall_mem_cons] at name
      rw [List.cons_append, tokensFrom, if_pos (by simp [name.1, begun]),
        ih name.2 (List.cons_ne_nil c word)]
      simp [listUnits, charUnits_of_isNameChar name.1, Nat.add_assoc]

theorem tokensFrom_word {word : List Char} (isWord : IsWord word) (start offset : Nat)
    (text : List Char) :
    tokensFrom start offset [] (word ++ text) =
      tokensFrom start (offset + listUnits word) word.reverse text := by
  cases word with
  | nil => exact isWord.elim
  | cons c word =>
      have solid := isBlank_of_isNameChar (isNameChar_of_isNameStart isWord.1)
      rw [List.cons_append, tokensFrom_between, if_neg (by simp [solid]), if_pos isWord.1,
        tokensFrom_chars isWord.2 (List.cons_ne_nil c []), List.reverse_cons, listUnits,
        Nat.add_assoc]

/-- Where a name ends, the search for the next token begins. -/
theorem tokensFrom_wordEnd {word text : List Char} (begun : word ≠ [])
    (ends : Fresh text) (start offset : Nat) :
    tokensFrom start offset word text =
      (tokensFrom offset offset [] text).map (.ident (String.ofList word.reverse) :: ·) := by
  have pending : pendingName word = [.ident (String.ofList word.reverse)] :=
    if_neg (by simpa using begun)
  cases text with
  | nil =>
      rw [tokensFrom, pending]
      rfl
  | cons c rest =>
      have notChar : isNameChar c = false := ends c (by simp)
      rw [tokensFrom_between, tokensFrom]
      simp only [notChar, Bool.false_and, Bool.false_eq_true, if_false, pending,
        List.isEmpty_eq_false_iff.2 begun]
      split
      · rfl
      split
      · rfl
      cases sign? c with
      | none => rfl
      | some token => cases tokensFrom _ _ [] rest <;> rfl

/-- A whole token at once. -/
theorem tokensFrom_lexeme {blanks text : List Char} {token : Token}
    (blank : ∀ c ∈ blanks, isBlank c = true) (lexical : token.Lexical)
    (ends : token.EndsBefore text) (start offset : Nat) :
    tokensFrom start offset [] (blanks ++ (token.text.toList ++ text)) =
      (tokensFrom (offset + listUnits (blanks ++ token.text.toList))
        (offset + listUnits (blanks ++ token.text.toList)) [] text).map (token :: ·) := by
  rw [tokensFrom_blanks blank, Text.listUnits_append, ← Nat.add_assoc]
  cases token with
  | ident name =>
      have begun : name.toList ≠ [] := lexical.text_ne_nil
      rw [Token.text, tokensFrom_word lexical, tokensFrom_wordEnd (by simpa using begun) ends,
        List.reverse_reverse, String.ofList_toList]
  | openAngle => rfl
  | closeAngle => rfl
  | comma => rfl

/-! ## What the tokenizer accepts -/

theorem Token.EndsBefore.of_append {token : Token} {front rest : List Char}
    (ends : token.EndsBefore (front ++ rest)) : token.EndsBefore front := by
  cases token with
  | ident name =>
      cases front with
      | nil => exact nofun
      | cons c front => exact ends
  | _ => trivial

/-- White space ends every token. -/
theorem Token.EndsBefore.append_blanks {token : Token} {front blanks : List Char}
    (ends : token.EndsBefore front) (blank : ∀ c ∈ blanks, isBlank c = true) :
    token.EndsBefore (front ++ blanks) := by
  cases token with
  | ident name =>
      cases front with
      | nil =>
          intro c first
          refine Bool.eq_false_iff.2 fun char => ?_
          have isBlank := blank c (List.mem_of_mem_head? first)
          rw [isBlank_of_isNameChar char] at isBlank
          cases isBlank
      | cons c front => exact ends
  | _ => trivial

/-- The tokens that a text is made of are those that the tokenizer finds. -/
theorem tokensFrom_of_tokenizes {text : List Char} {tokens : List Token}
    (tokenizes : Tokenizes text tokens) (offset : Nat) :
    tokensFrom offset offset [] text = .ok tokens := by
  obtain ⟨front, blanks, lexes, blank, rfl⟩ := tokenizes
  induction lexes generalizing offset with
  | nil =>
      have read := tokensFrom_blanks blank offset offset []
      rw [List.append_nil] at read
      rw [List.nil_append, read]
      rfl
  | cons lead lexical longest _ ih =>
      rw [List.append_assoc, List.append_assoc,
        tokensFrom_lexeme lead lexical (longest.append_blanks blank), ih]
      rfl

theorem tokenize_of_tokenizes {source : String} {tokens : List Token}
    (tokenizes : Tokenizes source.toList tokens) : tokenize source = .ok tokens :=
  tokensFrom_of_tokenizes tokenizes 0

/-- Behind white space a text ends, or goes on with a token, or goes on with a character that starts
no token. -/
theorem scan_cases (text : List Char) :
    ∃ blanks, (∀ c ∈ blanks, isBlank c = true) ∧
      (text = blanks ∨
        (∃ token rest, Token.Lexical token ∧ token.EndsBefore rest ∧
          text = blanks ++ (token.text.toList ++ rest)) ∨
        ∃ c rest, isBlank c = false ∧ isNameStart c = false ∧ sign? c = none ∧
          text = blanks ++ c :: rest) := by
  refine ⟨text.takeWhile isBlank, fun c => List.all_eq_true.1 List.all_takeWhile c, ?_⟩
  have whole := List.takeWhile_append_dropWhile (p := isBlank) (l := text)
  cases left : text.dropWhile isBlank with
  | nil =>
      rw [left, List.append_nil] at whole
      exact .inl whole.symm
  | cons c rest =>
      have solid : isBlank c = false := by
        have := List.head?_dropWhile_not isBlank text
        simpa [left] using this
      rw [left] at whole
      by_cases start : isNameStart c = true
      · refine .inr (.inl ⟨.ident (String.ofList (c :: rest.takeWhile isNameChar)),
          rest.dropWhile isNameChar, ?_, ?_, ?_⟩)
        · rw [Token.Lexical, String.toList_ofList]
          exact ⟨start, fun c => List.all_eq_true.1 List.all_takeWhile c⟩
        · intro d first
          have := List.head?_dropWhile_not isNameChar rest
          rw [Option.mem_def.1 first] at this
          exact this
        · rw [Token.text, String.toList_ofList, List.cons_append,
            List.takeWhile_append_dropWhile, whole]
      cases sign : sign? c with
      | none => exact .inr (.inr ⟨c, rest, solid, Bool.eq_false_iff.2 start, sign, whole.symm⟩)
      | some token =>
          obtain ⟨lexical, ends, spelled⟩ := lexical_of_sign? sign
          refine .inr (.inl ⟨token, rest, lexical, ends rest, ?_⟩)
          rw [spelled, List.singleton_append, whole]

/-! ## Where the tokenizer stops -/

/-- An error is not reported in front of where the search for a token began, or inside a name. -/
theorem le_of_tokensFrom_error {start offset : Nat} {word text : List Char} {place : Nat}
    (ordered : start ≤ offset)
    (failed : tokensFrom start offset word text = .error (.unexpectedCharacter place)) :
    (if word = [] then start else offset) ≤ place := by
  induction text generalizing start offset word with
  | nil => cases failed
  | cons c rest ih =>
      rw [tokensFrom] at failed
      split at failed
      · next char =>
          have begun : word ≠ [] := by
            rintro rfl
            simp at char
          have inside := ih (by omega) failed
          rw [if_neg (List.cons_ne_nil c word)] at inside
          rw [if_neg begun]
          omega
      -- Where the search for the next token begins is all that the other cases know of the name.
      simp only [List.isEmpty_iff] at failed
      generalize searched : (if word = [] then start else offset) = found at failed ⊢
      have before : found ≤ offset := by
        split at searched <;> omega
      have later : offset ≤ offset + charUnits c := Nat.le_add_right _ _
      split at failed
      · exact ih (Nat.le_trans before later) (error_of_map failed)
      split at failed
      · have inside := ih (Nat.le_trans before later) (error_of_map failed)
        rw [if_neg (List.cons_ne_nil c [])] at inside
        omega
      split at failed
      · have inside := ih (Nat.le_refl _) (error_of_map failed)
        rw [if_pos rfl] at inside
        omega
      · cases failed
        exact Nat.le_refl _

/-- The tokenizer finds tokens to the end of the text, or it stops behind a front that is made of
tokens. -/
theorem tokenizes_or_stops (text : List Char) (offset : Nat) :
    (∃ tokens, Tokenizes text tokens) ∨
      ∃ front tokens, front <+: text ∧ Lexes front tokens ∧
        tokensFrom offset offset [] text =
          .error (.unexpectedCharacter (offset + listUnits front)) := by
  -- The recursion is on the length of the text, which a token makes shorter.
  obtain ⟨blanks, blank, rfl | ⟨token, rest, lexical, ends, rfl⟩ |
    ⟨c, rest, solid, start, sign, rfl⟩⟩ := scan_cases text
  · exact .inl ⟨[], [], text, .nil, blank, rfl⟩
  · have shorter : rest.length < (blanks ++ (token.text.toList ++ rest)).length := by
      have nonempty := List.length_pos_iff.2 lexical.text_ne_nil
      simp only [List.length_append]
      omega
    rw [tokensFrom_lexeme blank lexical ends]
    rcases tokenizes_or_stops rest (offset + listUnits (blanks ++ token.text.toList)) with
      ⟨tokens, front, trail, lexes, isBlank, rfl⟩ | ⟨front, tokens, isFront, lexes, stops⟩
    · refine .inl ⟨token :: tokens, _, trail, .cons blank lexical ends.of_append lexes, isBlank, ?_⟩
      simp only [List.append_assoc]
    · obtain ⟨left, rfl⟩ := isFront
      refine .inr ⟨_, token :: tokens, ⟨left, ?_⟩, .cons blank lexical ends.of_append lexes, ?_⟩
      · simp only [List.append_assoc]
      · rw [stops]
        simp only [Text.listUnits_append, Nat.add_assoc]
        rfl
  · refine .inr ⟨[], [], List.nil_prefix, .nil, ?_⟩
    rw [tokensFrom_blanks blank, tokensFrom_between, if_neg (by simp [solid]),
      if_neg (by simp [start]), sign]
    rfl
termination_by text.length

/-- Behind a token no error is reported in front of where the token ends, also where a name goes
on. -/
theorem le_of_lexeme_error {blanks text : List Char} {token : Token}
    (blank : ∀ c ∈ blanks, isBlank c = true) (lexical : token.Lexical) {offset place : Nat}
    (failed : tokensFrom offset offset [] (blanks ++ (token.text.toList ++ text)) =
      .error (.unexpectedCharacter place)) :
    offset + listUnits (blanks ++ token.text.toList) ≤ place := by
  by_cases ends : token.EndsBefore text
  · rw [tokensFrom_lexeme blank lexical ends] at failed
    exact le_of_tokensFrom_error (Nat.le_refl _) (error_of_map failed)
  · cases token with
    | ident name =>
        have begun : name.toList.reverse ≠ [] := by
          simpa [Token.text] using lexical.text_ne_nil
        rw [tokensFrom_blanks blank, Token.text, tokensFrom_word lexical] at failed
        have inside := le_of_tokensFrom_error (by omega) failed
        rw [if_neg begun] at inside
        rw [Token.text, Text.listUnits_append]
        omega
    | _ => exact absurd trivial ends

/-- No front that is made of tokens reaches beyond a reported error. -/
theorem listUnits_le_of_error {front left : List Char} {tokens : List Token}
    (lexes : Lexes front tokens) {offset place : Nat}
    (failed : tokensFrom offset offset [] (front ++ left) =
      .error (.unexpectedCharacter place)) :
    offset + listUnits front ≤ place := by
  induction lexes generalizing offset with
  | nil => exact le_of_tokensFrom_error (Nat.le_refl _) failed
  | @cons blanks rest token tokens blank lexical longest more ih =>
      rw [List.append_assoc, List.append_assoc] at failed
      cases rest with
      | nil =>
          rw [List.append_nil]
          exact le_of_lexeme_error blank lexical failed
      | cons c rest =>
          -- A name does not go on into `c`, which stands in front of `left`.
          have ends : token.EndsBefore (c :: rest ++ left) := by
            cases token with
            | ident name => exact longest
            | _ => trivial
          rw [tokensFrom_lexeme blank lexical ends] at failed
          have bound := ih (error_of_map failed)
          rw [← List.append_assoc, Text.listUnits_append]
          omega

/-- Of two fronts of a text, the one with fewer code units is a front of the other. -/
theorem prefix_of_listUnits_le {text front other : List Char} (isFront : front <+: text)
    (isFront' : other <+: text) (bound : listUnits other ≤ listUnits front) : other <+: front := by
  rcases List.prefix_or_prefix_of_prefix isFront isFront' with ⟨more, rfl⟩ | within
  · cases more with
    | nil => exact ⟨[], by simp⟩
    | cons c more =>
        have positive := Text.charUnits_pos c
        rw [Text.listUnits_append, listUnits] at bound
        omega
  · exact within

/-- Every text is made of tokens, or the tokenizer reports where the longest front that is made of
tokens ends. -/
theorem tokenizes_or_longestFront (source : String) :
    (∃ tokens, Tokenizes source.toList tokens) ∨
      ∃ front, LongestFront source.toList front ∧
        tokenize source = .error (.unexpectedCharacter (listUnits front)) := by
  rcases tokenizes_or_stops source.toList 0 with tokenizes | ⟨front, tokens, isFront, lexes, stops⟩
  · exact .inl tokenizes
  rw [Nat.zero_add] at stops
  refine .inr ⟨front, ⟨isFront, ⟨tokens, lexes⟩, ?_⟩, stops⟩
  rintro other tokens' ⟨left, split⟩ lexes'
  rw [← split] at stops
  have bound := listUnits_le_of_error lexes' stops
  exact prefix_of_listUnits_le isFront ⟨left, split⟩ (by omega)

end TypeRef

end BridgeCode
