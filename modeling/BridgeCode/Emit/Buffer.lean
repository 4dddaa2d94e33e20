import BridgeCode.Text.Utf16

/-!
Buffered output.

Texts are collected and handed on together once they have reached a threshold, so a file is written
in portions. Each portion is encoded by itself.
-/

namespace BridgeCode

/-- Texts on their way to a file. -/
structure Buffer where
  /-- What has been handed on, portion by portion. -/
  portions : List Text.Raw := []
  /-- What is still held, the latest text first. -/
  held : List Text.Raw := []
  /-- The length of what is held, in code units. -/
  size : Nat := 0
deriving Repr

namespace Buffer

/-- The length at which held texts are handed on. -/
def threshold : Nat := 64 * 1024

/-- Hands on what is held, if anything, as one portion. -/
def flush (buffer : Buffer) : Buffer :=
  if buffer.held.isEmpty then buffer
  else { portions := buffer.portions ++ [buffer.held.reverse.flatten] }

/-- Takes a text, and hands on what is held once it has reached the threshold. -/
def write (buffer : Buffer) (text : Text.Raw) : Buffer :=
  let buffer := { buffer with held := text :: buffer.held, size := buffer.size + text.length }
  if buffer.size ≥ threshold then buffer.flush else buffer

/-- The portions in which texts are handed on in the end, all of them written in their order. -/
def output (texts : List Text.Raw) : List Text.Raw := (texts.foldl write {}).flush.portions

end Buffer

end BridgeCode
