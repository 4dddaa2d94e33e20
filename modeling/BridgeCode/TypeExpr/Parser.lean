import BridgeCode.Text.Blank
import BridgeCode.Text.Units
import BridgeCode.TypeExpr.Basic

/-!
Reading type expressions.

The text is first cut into names and the three signs `<`, `>` and `,`, with white space allowed
before each and at the end. The tokens are then read in one pass that keeps the applications still
open on a stack, innermost first.
-/

namespace BridgeCode

namespace TypeRef

/-- A token of a type expression. -/
inductive Token where
  | ident (name : String)
  | openAngle
  | closeAngle
  | comma
deriving Repr, DecidableEq

/-- The text of a token. -/
def Token.text : Token → String
  | .ident name => name
  | .openAngle => "<"
  | .closeAngle => ">"
  | .comma => ","

/-- Why a text is not a type expression. -/
inductive ParseError where
  | unexpectedCharacter (offset : Nat)
  | expectedName (source : String)
  | expectedClose (source : String)
  | unexpectedToken (token : Token) (source : String)
deriving Repr, DecidableEq

/-- The wording of an error. -/
def ParseError.message : ParseError → String
  | .unexpectedCharacter offset => "unexpected character at offset " ++ toString offset
  | .expectedName source => "expected a type name in \"" ++ source ++ "\""
  | .expectedClose source => "expected \">\" in \"" ++ source ++ "\""
  | .unexpectedToken token source =>
    "unexpected \"" ++ token.text ++ "\" in \"" ++ source ++ "\""

/-- The characters a name starts with. -/
def isNameStart (c : Char) : Bool := c.isAlpha || c == '_'

/-- The characters of a name. -/
def isNameChar (c : Char) : Bool := c.isAlphanum || c == '_' || c == '.'

/-- The sign a character is, if it is one. -/
def sign? (c : Char) : Option Token :=
  if c = '<' then some .openAngle
  else if c = '>' then some .closeAngle
  else if c = ',' then some .comma
  else none

/-- The name whose characters, newest first, have been read, if any. -/
def pendingName (word : List Char) : List Token :=
  if word.isEmpty then [] else [.ident (String.ofList word.reverse)]

/-- The tokens of a text. `word` is the name being read, newest character first; `offset` is where
the next character stands, and `start` where the token being looked for may begin, which is what an
error reports. -/
def tokensFrom (start offset : Nat) (word : List Char) : List Char → Except ParseError (List Token)
  | [] => .ok (pendingName word)
  | c :: rest =>
    if isNameChar c && !word.isEmpty then
      tokensFrom start (offset + 1) (c :: word) rest
    else
      let start := if word.isEmpty then start else offset
      let next := offset + Text.charUnits c
      if Text.isBlank c then
        (tokensFrom start next [] rest).map (pendingName word ++ ·)
      else if isNameStart c then
        (tokensFrom start next [c] rest).map (pendingName word ++ ·)
      else
        match sign? c with
        | some token =>
          (tokensFrom next next [] rest).map (pendingName word ++ token :: ·)
        | none => .error (.unexpectedCharacter start)

/-- The tokens of a text. -/
def tokenize (source : String) : Except ParseError (List Token) :=
  tokensFrom 0 0 [] source.toList

/-- An application whose arguments are being read, the newest first. -/
structure OpenRef where
  name : String
  args : List TypeRef

/-- What the parser has in hand: nothing yet, a name that may still get arguments, or a whole
reference. -/
inductive Hand where
  | empty
  | named (name : String)
  | whole (ref : TypeRef)

/-- The reference in hand, if there is one. -/
def Hand.ref? : Hand → Option TypeRef
  | .empty => none
  | .named name => some (.mk name [])
  | .whole ref => some ref

/-- Reads the tokens with the open applications on a stack. A reference in hand is an argument of
the innermost of them, or the result if none is open. -/
def parseTokens (source : String) :
    List Token → (stack : List OpenRef) → Hand → Except ParseError TypeRef
  | [], stack, hand =>
    match hand.ref?, stack with
    | none, _ => .error (.expectedName source)
    | some ref, [] => .ok ref
    | some _, _ :: _ => .error (.expectedClose source)
  | .ident name :: rest, stack, .empty => parseTokens source rest stack (.named name)
  | .openAngle :: rest, stack, .named name =>
    parseTokens source rest (⟨name, []⟩ :: stack) .empty
  | token :: rest, stack, hand =>
    match hand.ref?, stack, token with
    | none, _, _ => .error (.expectedName source)
    | some _, [], token => .error (.unexpectedToken token source)
    | some ref, top :: stack, .comma =>
      parseTokens source rest ({ top with args := ref :: top.args } :: stack) .empty
    | some ref, top :: stack, .closeAngle =>
      parseTokens source rest stack (.whole (.mk top.name (ref :: top.args).reverse))
    | some _, _ :: _, _ => .error (.expectedClose source)

/-- The reference a text spells. -/
def parse (source : String) : Except ParseError TypeRef := do
  parseTokens source (← tokenize source) [] .empty

end TypeRef

end BridgeCode
