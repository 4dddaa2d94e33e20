import BridgeCode.Proofs.TypeExpr.Lexing

/-!
The grammar of type expressions.

`Derives` is the grammar: a type expression is a name, or a name with a list of type expressions in
angle brackets, divided by commas. Each reference has one derivation, from the tokens `tokens`
(`derives_iff`).

The parser keeps the applications still open on a stack. Whatever state it is in, the tokens that
led there are told by the state (`read`). A reference is accepted if its tokens are what was read
and what was left (`tokens_of_parseTokens`), and the tokens of a reference take the parser from any
stack back to the same stack, with the reference in hand (`parseTokens_tokens`). So the parser
accepts what the grammar derives (`parseTokens_eq_ok_iff`).
-/

namespace BridgeCode

namespace TypeRef

/-! ## The grammar -/

mutual

/-- The tokens are a type expression for the reference. -/
inductive Derives : List Token → TypeRef → Prop
  | name (name : String) : Derives [.ident name] (.mk name [])
  | applied {name : String} {inner : List Token} {args : List TypeRef}
      (list : DerivesList inner args) :
      Derives (.ident name :: .openAngle :: (inner ++ [.closeAngle])) (.mk name args)

/-- The tokens are type expressions for the references, divided by commas. -/
inductive DerivesList : List Token → List TypeRef → Prop
  | single {inner : List Token} {arg : TypeRef} (only : Derives inner arg) :
      DerivesList inner [arg]
  | more {inner rest : List Token} {arg : TypeRef} {args : List TypeRef}
      (first : Derives inner arg) (others : DerivesList rest args) :
      DerivesList (inner ++ .comma :: rest) (arg :: args)

end

mutual

/-- The tokens of a reference. -/
def tokens : TypeRef → List Token
  | .mk name [] => [.ident name]
  | .mk name (arg :: rest) =>
    .ident name :: .openAngle :: (tokens arg ++ (tokensRest rest ++ [.closeAngle]))

/-- The tokens of further arguments, each after a comma. -/
def tokensRest : List TypeRef → List Token
  | [] => []
  | arg :: rest => .comma :: (tokens arg ++ tokensRest rest)

end

mutual

theorem Derives.eq_tokens {tokens : List Token} {ref : TypeRef} :
    Derives tokens ref → tokens = ref.tokens
  | .name name => by rw [TypeRef.tokens]
  | .applied list => by
      obtain ⟨arg, rest, rfl, rfl⟩ := list.eq_tokens
      rw [TypeRef.tokens, List.append_assoc]

theorem DerivesList.eq_tokens {tokens : List Token} {args : List TypeRef} :
    DerivesList tokens args →
      ∃ arg rest, args = arg :: rest ∧ tokens = arg.tokens ++ tokensRest rest
  | .single only => ⟨_, [], rfl, by rw [only.eq_tokens, tokensRest, List.append_nil]⟩
  | .more first others => by
      obtain ⟨arg, rest, rfl, rfl⟩ := others.eq_tokens
      exact ⟨_, _, rfl, by rw [first.eq_tokens, tokensRest]⟩

end

mutual

theorem derives_tokens : ∀ ref : TypeRef, Derives ref.tokens ref
  | .mk name [] => by
      rw [tokens]
      exact .name name
  | .mk name (arg :: rest) => by
      rw [tokens, ← List.append_assoc]
      exact .applied (derivesList_tokens rest (derives_tokens arg))

theorem derivesList_tokens : ∀ (rest : List TypeRef) {arg : TypeRef} {inner : List Token},
    Derives inner arg → DerivesList (inner ++ tokensRest rest) (arg :: rest)
  | [], _, _, first => by
      rw [tokensRest, List.append_nil]
      exact .single first
  | next :: rest, _, _, first => by
      rw [tokensRest]
      exact .more first (derivesList_tokens rest (derives_tokens next))

end

/-- Each reference is derived from its tokens and from no others. -/
theorem derives_iff {tokens : List Token} {ref : TypeRef} :
    Derives tokens ref ↔ tokens = ref.tokens := by
  constructor
  · exact Derives.eq_tokens
  · rintro rfl
    exact derives_tokens ref

/-! ## The parser -/

/-- The tokens of arguments with a comma behind each. -/
def tokensBefore (args : List TypeRef) : List Token :=
  args.flatMap fun arg => arg.tokens ++ [.comma]

/-- The last argument apart from those in front of it. -/
theorem tokens_mk_append (name : String) (front : List TypeRef) (last : TypeRef) :
    (mk name (front ++ [last])).tokens =
      .ident name :: .openAngle :: (tokensBefore front ++ (last.tokens ++ [.closeAngle])) := by
  have shifted : ∀ (front : List TypeRef) (first : TypeRef),
      first.tokens ++ tokensRest (front ++ [last]) =
        tokensBefore (first :: front) ++ last.tokens := by
    intro front
    induction front with
    | nil =>
        intro first
        simp [tokensRest, tokensBefore]
    | cons next front ih =>
        intro first
        rw [List.cons_append, tokensRest, ih next]
        simp [tokensBefore]
  cases front with
  | nil => simp [tokens, tokensRest, tokensBefore]
  | cons first front =>
      rw [List.cons_append, tokens, ← List.append_assoc, shifted, List.append_assoc]

/-- The tokens that led to what is in hand. -/
def Hand.tokens : Hand → List Token
  | .empty => []
  | .named name => [.ident name]
  | .whole ref => ref.tokens

/-- The tokens that opened an application and gave it its arguments so far. -/
def OpenRef.tokens (top : OpenRef) : List Token :=
  .ident top.name :: .openAngle :: tokensBefore top.args.reverse

/-- The tokens that led to a state of the parser. -/
def read (stack : List OpenRef) (hand : Hand) : List Token :=
  stack.reverse.flatMap OpenRef.tokens ++ hand.tokens

theorem Hand.tokens_of_ref? {hand : Hand} {ref : TypeRef} (held : hand.ref? = some ref) :
    hand.tokens = ref.tokens := by
  cases hand with
  | empty => cases held
  | named name =>
      cases held
      rw [TypeRef.tokens, Hand.tokens]
  | whole ref =>
      cases held
      rfl

/-! Each step of the parser adds its token to what was read. -/

theorem read_named (stack : List OpenRef) (name : String) :
    read stack (.named name) = read stack .empty ++ [.ident name] := by
  simp [read, Hand.tokens]

theorem read_openAngle (stack : List OpenRef) (name : String) :
    read (⟨name, []⟩ :: stack) .empty = read stack (.named name) ++ [.openAngle] := by
  simp [read, Hand.tokens, OpenRef.tokens, tokensBefore]

section

variable {source : String} {top : OpenRef} {stack : List OpenRef} {hand : Hand} {arg : TypeRef}

theorem read_comma (held : hand.ref? = some arg) :
    read ({ top with args := arg :: top.args } :: stack) .empty =
      read (top :: stack) hand ++ [.comma] := by
  unfold read
  rw [Hand.tokens_of_ref? held]
  simp [Hand.tokens, OpenRef.tokens, tokensBefore]

theorem read_closeAngle (held : hand.ref? = some arg) :
    read stack (.whole (.mk top.name (arg :: top.args).reverse)) =
      read (top :: stack) hand ++ [.closeAngle] := by
  unfold read
  rw [Hand.tokens_of_ref? held, Hand.tokens, List.reverse_cons, tokens_mk_append]
  simp [OpenRef.tokens]

theorem parseTokens_comma (held : hand.ref? = some arg) (rest : List Token) :
    parseTokens source (.comma :: rest) (top :: stack) hand =
      parseTokens source rest ({ top with args := arg :: top.args } :: stack) .empty := by
  cases hand <;> cases held <;> rfl

theorem parseTokens_closeAngle (held : hand.ref? = some arg) (rest : List Token) :
    parseTokens source (.closeAngle :: rest) (top :: stack) hand =
      parseTokens source rest stack (.whole (.mk top.name (arg :: top.args).reverse)) := by
  cases hand <;> cases held <;> rfl

end

/-- An accepted reference is spelled by what was read and what was left to read. -/
theorem tokens_of_parseTokens {source : String} {tokens : List Token} {stack : List OpenRef}
    {hand : Hand} {ref : TypeRef} (parsed : parseTokens source tokens stack hand = .ok ref) :
    ref.tokens = read stack hand ++ tokens := by
  fun_induction parseTokens source tokens stack hand with
  | case2 hand ref held =>
      cases parsed
      exact (Hand.tokens_of_ref? held).symm.trans (List.append_nil _).symm
  | case4 name rest stack ih => rw [ih parsed, read_named, List.append_assoc, List.singleton_append]
  | case5 rest stack name ih =>
      rw [ih parsed, read_openAngle, List.append_assoc, List.singleton_append]
  | case8 rest hand arg top stack held _ _ ih =>
      rw [ih parsed, read_comma held, List.append_assoc, List.singleton_append]
  | case9 rest hand arg top stack held _ _ ih =>
      rw [ih parsed, read_closeAngle held, List.append_assoc, List.singleton_append]
  | case1 | case3 | case6 | case7 | case10 => cases parsed

/-- The parser after it has read a reference. -/
def Hand.of : TypeRef → Hand
  | .mk name [] => .named name
  | ref => .whole ref

theorem Hand.ref?_of (ref : TypeRef) : (Hand.of ref).ref? = some ref := by
  obtain ⟨name, args⟩ := ref
  cases args <;> rfl

mutual

/-- The tokens of a reference put it in hand and leave the stack as it was. -/
theorem parseTokens_tokens (source : String) : ∀ (ref : TypeRef) (rest : List Token)
    (stack : List OpenRef),
    parseTokens source (ref.tokens ++ rest) stack .empty = parseTokens source rest stack (.of ref)
  | .mk name [], rest, stack => by
      rw [tokens]
      rfl
  | .mk name (arg :: args), rest, stack => by
      rw [tokens]
      simp only [List.cons_append, List.append_assoc, List.nil_append]
      rw [parseTokens, parseTokens, parseTokens_tokens source arg,
        parseTokens_tokensRest source args (Hand.ref?_of arg)]
      rfl

/-- The tokens of further arguments and the closing bracket complete an application. -/
theorem parseTokens_tokensRest (source : String) : ∀ (args : List TypeRef) {top : OpenRef}
    {stack : List OpenRef} {hand : Hand} {arg : TypeRef}, hand.ref? = some arg →
    ∀ rest : List Token,
    parseTokens source (tokensRest args ++ .closeAngle :: rest) (top :: stack) hand =
      parseTokens source rest stack (.whole (.mk top.name (top.args.reverse ++ arg :: args)))
  | [], top, stack, hand, arg, held, rest => by
      rw [tokensRest, List.nil_append, parseTokens_closeAngle held, List.reverse_cons]
  | next :: args, top, stack, hand, arg, held, rest => by
      rw [tokensRest, List.cons_append, List.append_assoc, parseTokens_comma held,
        parseTokens_tokens source next, parseTokens_tokensRest source args (Hand.ref?_of next)]
      simp

end

/-- The parser accepts what the grammar derives. -/
theorem parseTokens_eq_ok_iff {source : String} {tokens : List Token} {ref : TypeRef} :
    parseTokens source tokens [] .empty = .ok ref ↔ Derives tokens ref := by
  rw [derives_iff]
  constructor
  · intro parsed
    exact (tokens_of_parseTokens parsed).symm
  · rintro rfl
    have inHand := parseTokens_tokens source ref [] []
    rw [List.append_nil] at inHand
    simp only [inHand, parseTokens, Hand.ref?_of]

/-- The ways in which tokens fail to be a type expression. -/
theorem parseTokens_error {source : String} {tokens : List Token} {stack : List OpenRef}
    {hand : Hand} {error : ParseError}
    (failed : parseTokens source tokens stack hand = .error error) :
    error = .expectedName source ∨ error = .expectedClose source ∨
      ∃ token ∈ tokens, error = .unexpectedToken token source := by
  fun_induction parseTokens source tokens stack hand with
  | case1 | case6 =>
      cases failed
      exact .inl rfl
  | case3 | case10 =>
      cases failed
      exact .inr (.inl rfl)
  | case7 rest hand ref token =>
      cases failed
      exact .inr (.inr ⟨token, List.mem_cons_self, rfl⟩)
  | case2 => cases failed
  | case4 _ _ _ ih | case5 _ _ _ ih | case8 _ _ _ _ _ _ _ _ ih | case9 _ _ _ _ _ _ _ _ ih =>
      rcases ih failed with name | close | ⟨token, member, same⟩
      · exact .inl name
      · exact .inr (.inl close)
      · exact .inr (.inr ⟨token, List.mem_cons_of_mem _ member, same⟩)

/-! ## Whole texts -/

theorem parse_of_tokenizes {source : String} {tokens : List Token}
    (tokenizes : Tokenizes source.toList tokens) :
    parse source = parseTokens source tokens [] .empty := by
  rw [parse, tokenize_of_tokenizes tokenizes]
  rfl

theorem parse_of_unexpected {source : String} {error : ParseError}
    (failed : tokenize source = .error error) : parse source = .error error := by
  rw [parse, failed]
  rfl

/-- A text spells a reference if its tokens are a type expression for the reference. -/
theorem parse_eq_ok_iff {source : String} {ref : TypeRef} :
    parse source = .ok ref ↔ ∃ tokens, Tokenizes source.toList tokens ∧ Derives tokens ref := by
  constructor
  · intro accepted
    rcases tokenizes_or_longestFront source with ⟨tokens, tokenizes⟩ | ⟨front, -, failed⟩
    · rw [parse_of_tokenizes tokenizes] at accepted
      exact ⟨tokens, tokenizes, parseTokens_eq_ok_iff.1 accepted⟩
    · cases accepted.symm.trans (parse_of_unexpected failed)
  · rintro ⟨tokens, tokenizes, derives⟩
    rw [parse_of_tokenizes tokenizes, parseTokens_eq_ok_iff.2 derives]

/-- Reading accepts what the grammar derives from the tokens of a text. A text that is not made of
tokens is refused where the longest front that is made of tokens ends, whatever these tokens are.
Tokens that are no type expression are refused in one of three ways. -/
theorem parse_accepts_grammar (source : String) :
    (∀ ref, parse source = .ok ref ↔
      ∃ tokens, Tokenizes source.toList tokens ∧ Derives tokens ref) ∧
    ((∀ tokens, ¬ Tokenizes source.toList tokens) →
      ∃ front error, LongestFront source.toList front ∧ parse source = .error error ∧
        error.message = "unexpected character at offset " ++ toString (Text.listUnits front)) ∧
    (∀ tokens, Tokenizes source.toList tokens → (∀ ref, ¬ Derives tokens ref) →
      ∃ error, parse source = .error error ∧
        (error = .expectedName source ∨ error = .expectedClose source ∨
          ∃ token ∈ tokens, error = .unexpectedToken token source)) := by
  refine ⟨fun ref => parse_eq_ok_iff, fun refused => ?_, ?_⟩
  · rcases tokenizes_or_longestFront source with ⟨tokens, tokenizes⟩ | ⟨front, longest, failed⟩
    · exact absurd tokenizes (refused tokens)
    · exact ⟨front, _, longest, parse_of_unexpected failed, rfl⟩
  · intro tokens tokenizes underived
    rw [parse_of_tokenizes tokenizes]
    cases outcome : parseTokens source tokens [] .empty with
    | ok ref => exact absurd (parseTokens_eq_ok_iff.1 outcome) (underived ref)
    | error error => exact ⟨error, rfl, parseTokens_error outcome⟩

/-- Blanks around tokens do not matter; a character that starts no token is refused although the
commas before it are no type expression, and blanks in front of it do not count. -/
theorem list_readings :
    (∃ tokens, Tokenizes " list < i32 >".toList tokens ∧
      Derives tokens (.mk "list" [.mk "i32" []])) ∧
    (∀ tokens, ¬ Tokenizes "list<i32,, 😀".toList tokens) ∧
    parse "list<i32,, 😀" = .error (.unexpectedCharacter 10) ∧
    ∃ front error, LongestFront "list<i32,, 😀".toList front ∧
      parse "list<i32,, 😀" = .error error ∧
      error.message = "unexpected character at offset " ++ toString (Text.listUnits front) := by
  have accepted : parse " list < i32 >" = .ok (.mk "list" [.mk "i32" []]) := rfl
  have refused (tokens : List Token) : ¬ Tokenizes "list<i32,, 😀".toList tokens := by
    intro tokenizes
    cases tokenize_of_tokenizes tokenizes
  exact ⟨((parse_accepts_grammar _).1 _).1 accepted, refused, rfl,
    (parse_accepts_grammar _).2.1 refused⟩

end TypeRef

end BridgeCode
