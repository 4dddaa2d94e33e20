import BridgeCode.Config.Basic
import BridgeCode.Emit.Emitter
import BridgeCode.Render.Basic

/-!
The common parts of generated files: the banner, include lists, and the frame of a header.
-/

namespace BridgeCode

/-- What a generator needs from its run. -/
structure Context where
  config : Config
  emitter : Emitter

namespace Render

/-- Writes the banner at the top of a file. -/
def banner (origin : String) (commentMark : String) : Writing Unit := do
  .line (commentMark ++ " AUTOGENERATED FILE - DO NOT MODIFY!")
  .line (commentMark ++ " This file was generated by bridgegen from " ++ origin)

/-- Include targets without repetitions: those of the system first, each group in order. -/
def sortIncludes (names : List String) : List String :=
  let unique := names.eraseDups
  let (system, own) := unique.partition fun name => name.toList.head? == some '<'
  Text.sortByUnits system ++ Text.sortByUnits own

/-- A header to write. -/
structure HeaderFile where
  folder : String
  fileName : String
  /-- The document that is named in the banner. -/
  origin : String
  /-- Whole include lines. -/
  includes : List String := []
  /-- The namespace around the body, or the empty text. -/
  ns : String := ""
  /-- Forward declarations in front of the body. -/
  forwards : List String := []
  body : Writing Unit
  /-- What stands behind the namespace. -/
  after : Writing Unit := pure ()

/-- The text of a header. -/
def HeaderFile.text (header : HeaderFile) : Writing Unit := do
  banner header.origin "//"
  .newline
  .line "#pragma once"
  unless header.includes.isEmpty do
    .newline
    .lines header.includes
  .newline
  inNamespace header.ns do
    unless header.forwards.isEmpty do
      .lines header.forwards
      .newline
    header.body
  header.after

/-- Creates a header. -/
def HeaderFile.create (emitter : Emitter) (header : HeaderFile) : Emission Bool :=
  emitter.createFile header.folder header.fileName header.text

end Render

end BridgeCode
