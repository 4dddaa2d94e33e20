import BridgeCode.CommandLine.Arguments
import BridgeCode.CommandLine.Command
import BridgeCode.CommandLine.Suggest
import BridgeCode.Config.Basic
import BridgeCode.Config.Build
import BridgeCode.Config.Document
import BridgeCode.Config.Load
import BridgeCode.Declaration.Basic
import BridgeCode.Declaration.Document
import BridgeCode.Emit.Buffer
import BridgeCode.Emit.Emitter
import BridgeCode.Emit.Manifest
import BridgeCode.Emit.Session
import BridgeCode.Emit.World
import BridgeCode.Emit.Writer
import BridgeCode.Fault
import BridgeCode.FileSystem.Basic
import BridgeCode.FileSystem.Edit
import BridgeCode.Ident.Bundle
import BridgeCode.Ident.Style
import BridgeCode.Log
import BridgeCode.Main
import BridgeCode.Number.Binary64
import BridgeCode.Number.Shortest
import BridgeCode.Path
import BridgeCode.Render.AlignedCall
import BridgeCode.Render.Basic
import BridgeCode.Render.DocComment
import BridgeCode.Render.EnumOptions
import BridgeCode.Render.Header
import BridgeCode.Run
import BridgeCode.Schema
import BridgeCode.Slot
import BridgeCode.Target.Backend
import BridgeCode.Target.Cpp
import BridgeCode.Target.Descriptor
import BridgeCode.Target.Objc
import BridgeCode.Target.SwiftBridging
import BridgeCode.Text.Blank
import BridgeCode.Text.Case
import BridgeCode.Text.CaseTable
import BridgeCode.Text.Split
import BridgeCode.Text.Units
import BridgeCode.Text.Utf16
import BridgeCode.TypeExpr.Basic
import BridgeCode.TypeExpr.Parser
import BridgeCode.Value.Basic
import BridgeCode.Value.Json
import BridgeCode.Yaml.BlockScalar
import BridgeCode.Yaml.Cursor
import BridgeCode.Yaml.Flaw
import BridgeCode.Yaml.Folding
import BridgeCode.Yaml.Package
import BridgeCode.Yaml.Printer
import BridgeCode.Yaml.Reader
import BridgeCode.Yaml.Scalar
import BridgeCode.Yaml.Wrapping
import BridgeCode.Proofs.Emission
import BridgeCode.Proofs.FileSystem.Growth
import BridgeCode.Proofs.Emit.Operations
import BridgeCode.Proofs.Emit.Manifest
import BridgeCode.Proofs.FileSystem.Canonical
import BridgeCode.Proofs.Emit.Calls
import BridgeCode.Proofs.Emit.Registry
import BridgeCode.Proofs.Emit.Truncation
import BridgeCode.Proofs.Run.Plan
import BridgeCode.Proofs.Run.DryRun
import BridgeCode.Proofs.Run.Trace
import BridgeCode.Proofs.Config.Folders
import BridgeCode.Proofs.Run.Ownership
import BridgeCode.Proofs.Run.Foundation
import BridgeCode.Proofs.Run.Manifest
import BridgeCode.Proofs.Run.Orchestration
import BridgeCode.Proofs.FileSystem.Retrace
import BridgeCode.Proofs.Run.Regeneration
import BridgeCode.Proofs.Target.Kinds
import BridgeCode.Proofs.FileSystem.Apart
import BridgeCode.Proofs.Run.Order
import BridgeCode.Proofs.Text.Order
import BridgeCode.Proofs.Text.CodePoints
import BridgeCode.Proofs.Text.Utf16
import BridgeCode.Proofs.Render.IncludeOrder
import BridgeCode.Proofs.Writing
import BridgeCode.Proofs.Target.Bodies
import BridgeCode.Proofs.Target.HeaderText
import BridgeCode.Proofs.Target.Spelling
import BridgeCode.Proofs.Target.Includes
import BridgeCode.Proofs.Target.Descriptor
import BridgeCode.Proofs.Emit.Contents
import BridgeCode.Proofs.Run.Bridging
import BridgeCode.Proofs.FileSystem.Route
import BridgeCode.Proofs.Run.DryDisk
import BridgeCode.Proofs.TypeExpr.Lexing
import BridgeCode.Proofs.TypeExpr.Grammar
import BridgeCode.Proofs.TypeExpr.RoundTrip
import BridgeCode.Proofs.Target.Locality
import BridgeCode.Proofs.Emit.Outline
import BridgeCode.Proofs.Emit.Portions
import BridgeCode.Proofs.Emit.Indentation
import BridgeCode.Proofs.Config.Loading
import BridgeCode.Proofs.Run.SharedFile
import BridgeCode.Proofs.Run.Settings
import BridgeCode.Proofs.Number.Whole
import BridgeCode.Proofs.Render.Lines
import BridgeCode.Proofs.Render.EnumOptions
import BridgeCode.Proofs.Run.Log
import BridgeCode.Proofs.CommandLine.Outcome
import BridgeCode.Proofs.Text.Brackets
import BridgeCode.Proofs.Text.Plain
import BridgeCode.Proofs.Render.Brackets
import BridgeCode.Proofs.Declaration.Plain
import BridgeCode.Proofs.Target.CppBrackets
import BridgeCode.Proofs.Target.ObjcBrackets
import BridgeCode.Proofs.Target.Balance
import BridgeCode.Proofs.Ident.Inference
import BridgeCode.Proofs.Render.AlignedCall
import BridgeCode.Proofs.Render.DocComment
import BridgeCode.Proofs.Render.Words
import BridgeCode.Proofs.Ident.Weight
import BridgeCode.Proofs.Render.ParamNames
import BridgeCode.Proofs.Ident.Canonical
import BridgeCode.Proofs.Target.Boxing
import BridgeCode.Proofs.Target.Arity
import BridgeCode.Proofs.Ident.Restyling
import BridgeCode.Proofs.Config.Styles
import BridgeCode.Proofs.Config.Nulls
import BridgeCode.Proofs.Declaration.Loading
import BridgeCode.Proofs.Emit.Buffering
import BridgeCode.Proofs.Path.Names
import BridgeCode.Proofs.FileSystem.NormalForm
