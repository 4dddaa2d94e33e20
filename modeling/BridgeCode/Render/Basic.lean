import BridgeCode.Emit.Writer
import BridgeCode.Text.Split

/-!
Small pieces of generated source: delimiters, qualified names and namespaces.
-/

namespace BridgeCode.Render

/-- A text in double quotes. -/
def quote (text : String) : String := "\"" ++ text ++ "\""

/-- A text in parentheses. -/
def parens (text : String) : String := "(" ++ text ++ ")"

/-- A text in angle brackets. -/
def angles (text : String) : String := "<" ++ text ++ ">"

/-- A text after a comma, unless it is empty. -/
def preComma (text : String) : String := if text.isEmpty then text else ", " ++ text

/-- A name qualified from the global namespace on; without a namespace it stays as it is. -/
def qualify (ns : Option String) (name : String) : String :=
  match ns with
  | none => name
  | some ns => if ns.isEmpty then "::" ++ name else "::" ++ ns ++ "::" ++ name

/-- The namespaces in a nested namespace, outermost first. -/
def namespaceParts (ns : String) : List String :=
  (Text.splitOnPair ':' ns.toList).map String.ofList

/-- Writes a body inside a namespace. Nested namespaces open on one line and close on one line,
which names them. Without a namespace the body stands alone. -/
def inNamespace (ns : String) (body : Writing Unit) : Writing Unit :=
  if ns.isEmpty then body
  else do
    let parts := namespaceParts ns
    .line (" ".intercalate (parts.map fun part => "namespace " ++ part ++ " \x7b"))
    .newline
    body
    .newline
    .line (" ".intercalate (parts.map fun _ => "\x7d") ++ "  // namespace " ++ ns)

/-- Writes a body inside a namespace without a name. -/
def inAnonymousNamespace (body : Writing Unit) : Writing Unit := do
  .line "namespace \x7b // anonymous namespace"
  .newline
  body
  .newline
  .line "\x7d // end anonymous namespace"

end BridgeCode.Render
