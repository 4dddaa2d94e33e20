import BridgeCode.Proofs.TypeExpr.Grammar

/-!
Writing type expressions and reading them back.

The text of a reference is made of its tokens (`lexes_format`), so it reads back as the reference
(`parse_format`). All that reading accepts is of this kind: the names in a reference that was read
are names (`wellNamed_of_parse`), so writing it gives a text with the same meaning, in one form for
all texts that have the meaning.
-/

namespace BridgeCode

namespace TypeRef

/-- All names in the reference can be written as names. -/
def WellNamed (ref : TypeRef) : Prop := ∀ name ∈ ref.referenced, IsWord name.toList

/-- All names in the references can be written as names. -/
def AllWellNamed (refs : List TypeRef) : Prop := ∀ name ∈ referencedList refs, IsWord name.toList

/-! ## The text of a reference -/

theorem fresh_cons {c : Char} (ends : isNameChar c = false) (text : List Char) :
    Fresh (c :: text) := by
  intro d first
  cases first
  exact ends

/-- A token may be added in front of what it does not go on into. -/
theorem Lexes.token (token : Token) {text : List Char} {tokens : List Token}
    (lexical : token.Lexical) (ends : token.EndsBefore text) (lexes : Lexes text tokens) :
    Lexes (token.text.toList ++ text) (token :: tokens) :=
  @Lexes.cons [] text token tokens (by simp) lexical ends lexes

mutual

/-- The text of a reference adds its tokens in front. -/
theorem lexes_format : ∀ (ref : TypeRef), ref.WellNamed → ∀ {blanks text : List Char}
    {more : List Token}, (∀ c ∈ blanks, Text.isBlank c = true) → Fresh text → Lexes text more →
    Lexes (blanks ++ (ref.format.toList ++ text)) (ref.tokens ++ more)
  | .mk name [], named, blanks, text, more, blank, fresh, lexes => by
      rw [format, tokens]
      have word : IsWord name.toList := named name (by simp [referenced])
      exact @Lexes.cons blanks text (.ident name) more blank word fresh lexes
  | .mk name (arg :: args), named, blanks, text, more, blank, _, lexes => by
      have word : IsWord name.toList := named name (by simp [referenced])
      have namedArg : arg.WellNamed := fun other member =>
        named other (by simp [referenced, referencedList, member])
      have namedRest : AllWellNamed args := fun other member =>
        named other (by simp [referenced, referencedList, member])
      obtain ⟨fresh, rest⟩ := lexes_formatRest args namedRest lexes
      have inner := lexes_format arg namedArg (List.forall_mem_nil _) fresh rest
      have opened : Lexes ('<' :: _) _ := .token .openAngle trivial trivial inner
      have whole := @Lexes.cons blanks _ (.ident name) _ blank word
        (fresh_cons (by decide) _) opened
      simpa [format, tokens, Token.text] using whole

/-- The text of further arguments and the closing bracket adds their tokens in front. -/
theorem lexes_formatRest : ∀ (args : List TypeRef), AllWellNamed args → ∀ {text : List Char}
    {more : List Token}, Lexes text more →
    Fresh ((formatRest args).toList ++ '>' :: text) ∧
      Lexes ((formatRest args).toList ++ '>' :: text) (tokensRest args ++ .closeAngle :: more)
  | [], _, text, more, lexes => by
      rw [formatRest, tokensRest]
      exact ⟨fresh_cons (by decide) text, .token .closeAngle trivial trivial lexes⟩
  | arg :: args, named, text, more, lexes => by
      have namedArg : arg.WellNamed := fun other member =>
        named other (by simp [referencedList, member])
      have namedRest : AllWellNamed args := fun other member =>
        named other (by simp [referencedList, member])
      obtain ⟨fresh, rest⟩ := lexes_formatRest args namedRest lexes
      have blank : ∀ c ∈ [' '], Text.isBlank c = true := List.forall_mem_singleton.2 rfl
      have inner := lexes_format arg namedArg blank fresh rest
      have whole : Lexes (',' :: _) _ := .token .comma trivial trivial inner
      have split : (formatRest (arg :: args)).toList ++ '>' :: text =
          ',' :: ([' '] ++ (arg.format.toList ++ ((formatRest args).toList ++ '>' :: text))) := by
        simp [formatRest]
      rw [split]
      refine ⟨fresh_cons (by decide) _, ?_⟩
      simpa [tokensRest] using whole

end

/-- What is written reads back as it was. -/
theorem parse_format {ref : TypeRef} (named : ref.WellNamed) : parse ref.format = .ok ref := by
  have lexes := @lexes_format ref named [] [] [] (by simp) (by simp [Fresh]) .nil
  rw [List.nil_append, List.append_nil, List.append_nil] at lexes
  exact parse_eq_ok_iff.2 ⟨ref.tokens, ⟨_, [], lexes, by simp, by simp⟩, derives_tokens ref⟩

/-! ## References that were read -/

theorem Lexes.lexical {text : List Char} {tokens : List Token} (lexes : Lexes text tokens) :
    ∀ token ∈ tokens, token.Lexical := by
  induction lexes with
  | nil => simp
  | cons _ lexical _ _ ih => exact List.forall_mem_cons.2 ⟨lexical, ih⟩

mutual

theorem mem_tokens_of_referenced {name : String} : ∀ ref : TypeRef,
    name ∈ ref.referenced → .ident name ∈ ref.tokens
  | .mk other [], member => by
      simpa [referenced, referencedList, tokens] using member
  | .mk other (arg :: args), member => by
      rw [referenced, referencedList, List.mem_cons, List.mem_append] at member
      rw [tokens]
      rcases member with rfl | member | member
      · exact List.mem_cons_self
      · simp [mem_tokens_of_referenced arg member]
      · simp [mem_tokensRest_of_referenced args member]

theorem mem_tokensRest_of_referenced {name : String} : ∀ refs : List TypeRef,
    name ∈ referencedList refs → .ident name ∈ tokensRest refs
  | [], member => by cases member
  | ref :: refs, member => by
      rw [referencedList, List.mem_append] at member
      rw [tokensRest]
      rcases member with member | member
      · simp [mem_tokens_of_referenced ref member]
      · simp [mem_tokensRest_of_referenced refs member]

end

/-- The names in a reference that was read are names. -/
theorem wellNamed_of_parse {source : String} {ref : TypeRef} (parsed : parse source = .ok ref) :
    ref.WellNamed := by
  obtain ⟨tokens, ⟨front, blanks, lexes, -, -⟩, derives⟩ := parse_eq_ok_iff.1 parsed
  intro name member
  have token := mem_tokens_of_referenced ref member
  rw [← derives.eq_tokens] at token
  exact lexes.lexical _ token

/-- Writing and reading are inverse to each other: a reference with proper names is what its text
reads as, so that different ones have different texts; and what was read from any text is also read
from the text that is written for it, which writing does not change again. -/
theorem format_round_trip :
    (∀ ref : TypeRef, ref.WellNamed → parse ref.format = .ok ref) ∧
    (∀ ref other : TypeRef, ref.WellNamed → other.WellNamed →
      ref.format = other.format → ref = other) ∧
    (∀ source ref, parse source = .ok ref →
      parse ref.format = .ok ref ∧ (parse ref.format).map format = .ok ref.format) := by
  refine ⟨fun ref => parse_format, fun ref other named named' same => ?_, ?_⟩
  · have read := parse_format named
    rw [same, parse_format named'] at read
    exact (Except.ok.inj read).symm
  · intro source ref parsed
    have read := parse_format (wellNamed_of_parse parsed)
    refine ⟨read, ?_⟩
    rw [read]
    rfl

theorem map_round_trip :
    let ref : TypeRef := .mk "map" [.mk "string" [], .mk "list" [.mk "i32" []]]
    ref.WellNamed ∧ ref.format = "map<string, list<i32>>" ∧
      parse "map<string, list<i32>>" = .ok ref := by
  intro ref
  have named : ref.WellNamed := by
    unfold WellNamed
    decide
  exact ⟨named, rfl, format_round_trip.1 ref named⟩

end TypeRef

end BridgeCode
