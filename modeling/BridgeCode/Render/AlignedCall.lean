import BridgeCode.Emit.Writer

/-!
Calls and signatures with one parameter a line, aligned in columns. Columns count code units.
-/

namespace BridgeCode.Render

/-- As many spaces as the number says. -/
def spaces (count : Nat) : String := String.ofList (List.replicate count ' ')

/-- Writes `call`, the parameters and `closing`. Each parameter but the first starts a line, below
the first one. -/
def alignedCall {α : Type} (call : String) (params : List α) (closing : String)
    (render : α → Writing String) (delimiter : String) : Writing Unit := do
  .write call
  match params with
  | [] => pure ()
  | first :: rest =>
    .write (← render first)
    rest.forM fun param => do
      .line delimiter
      .write (spaces (Text.units call))
      .write (← render param)
  .write closing

/-- Writes `call`, the parameters with their keywords, and `closing`. The first keyword is the end
of `call`; later ones start a line and are padded so that the colons stand in one column. -/
def alignedKeywordCall {α : Type} (call : String) (params : List α) (closing : String)
    (render : α → Writing (String × String)) : Writing Unit := do
  .write call
  match params with
  | [] => pure ()
  | first :: rest =>
    let (_, value) ← render first
    .write (":" ++ value)
    rest.forM fun param => do
      let (keyword, value) ← render param
      .newline
      .write (spaces (Text.units call - Text.units keyword))
      .write keyword
      .write (":" ++ value)
  .write closing

end BridgeCode.Render
