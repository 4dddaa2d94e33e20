import BridgeCode.Declaration.Basic
import BridgeCode.Emit.Writer

/-!
Doc comments.

The doc of a method speaks of its parameters by their canonical names. In a target they are called
otherwise, so whole words that are parameter names are replaced by the target's spelling.
-/

namespace BridgeCode.Render

/-- Writes a doc comment: nothing for no lines, one line for one, and a starred block for more. -/
def docComment : Doc → Writing Unit
  | [] => pure ()
  | [single] => .line ("/**" ++ single ++ " */")
  | doc => do
    .line "/**"
    doc.forM fun text => .line (" *" ++ text)
    .line " */"

/-! ## Parameter names in docs -/

/-- Whether a character belongs to a word. -/
def isWordChar (c : Char) : Bool := c.isAlphanum || c == '_'

/-- Whether a text starts inside a word. -/
def startsInWord (text : List Char) : Bool := text.head?.any isWordChar

/-- Whether the last character of a name belongs to a word; an empty name stands where the text in
front of it ends. -/
def endsInWord (inWord : Bool) (name : List Char) : Bool :=
  match name.getLast? with
  | some c => isWordChar c
  | none => inWord

/-- Whether a text starts with a name whose two ends are word boundaries. `inWord` tells whether the
text in front ends inside a word. -/
def occursAt (name : List Char) (inWord : Bool) (text : List Char) : Bool :=
  name.isPrefixOf text && inWord != startsInWord text &&
    endsInWord inWord name != startsInWord (text.drop name.length)

/-- A text with every occurrence of a name as a whole word replaced, found from the left. The number
counts the characters of the last occurrence that are still to pass. An empty name occurs at every
word boundary. -/
def replaceWord (name replacement : List Char) : Nat → Bool → List Char → List Char
  | _, inWord, [] => if name.isEmpty && inWord then replacement else []
  | passing + 1, _, c :: rest => replaceWord name replacement passing (isWordChar c) rest
  | 0, inWord, c :: rest =>
    if occursAt name inWord (c :: rest) then
      if name.isEmpty then replacement ++ c :: replaceWord name replacement 0 (isWordChar c) rest
      else replacement ++ replaceWord name replacement (name.length - 1) (isWordChar c) rest
    else c :: replaceWord name replacement 0 (isWordChar c) rest

/-- A line with one parameter name replaced. -/
def renameIn (spell : String → String) (line param : String) : String :=
  String.ofList (replaceWord param.toList (spell param).toList 0 false line.toList)

/-- A doc with parameter names in their target spelling, replaced one name after the other. -/
def renameParams (spell : String → String) (params : List String) (doc : Doc) : Doc :=
  doc.map fun line => params.foldl (renameIn spell) line

/-- Writes the doc comment of a method. -/
def methodDoc (spell : String → String) (method : Method) : Writing Unit :=
  docComment (renameParams spell (method.params.map (·.name)) method.doc)

end BridgeCode.Render
