import GlBridge.Digest.Sha256
import GlBridge.Essl.Arithmetic
import GlBridge.Essl.Builtin
import GlBridge.Essl.Compile
import GlBridge.Essl.Condition
import GlBridge.Essl.Constant
import GlBridge.Essl.Declaration
import GlBridge.Essl.Draft
import GlBridge.Essl.Expression
import GlBridge.Essl.Flat
import GlBridge.Essl.Flatten
import GlBridge.Essl.Global
import GlBridge.Essl.Intrinsic.Call
import GlBridge.Essl.Intrinsic.Form
import GlBridge.Essl.Intrinsic.Overload
import GlBridge.Essl.Intrinsic.Texture
import GlBridge.Essl.Lexeme
import GlBridge.Essl.LiteralMath
import GlBridge.Essl.Memory
import GlBridge.Essl.Naming
import GlBridge.Essl.Parser
import GlBridge.Essl.Parser.Basic
import GlBridge.Essl.Prepare
import GlBridge.Essl.Preprocessor
import GlBridge.Essl.Printer
import GlBridge.Essl.Program
import GlBridge.Essl.Scope
import GlBridge.Essl.Shader
import GlBridge.Essl.Statement
import GlBridge.Essl.Syntax
import GlBridge.Essl.TableOrder
import GlBridge.Essl.Type
import GlBridge.Gl.Arguments
import GlBridge.Gl.Desktop
import GlBridge.Gl.DirectAccess
import GlBridge.Gl.Display
import GlBridge.Gl.Draw
import GlBridge.Gl.EntryPoint
import GlBridge.Gl.Enumerant
import GlBridge.Gl.Forward
import GlBridge.Gl.Library
import GlBridge.Gl.Native
import GlBridge.Gl.Program
import GlBridge.Gl.Query
import GlBridge.Gl.Script
import GlBridge.Gl.State
import GlBridge.Gl.Texture
import GlBridge.Glsl.Declaration
import GlBridge.Glsl.DrawParameter
import GlBridge.Glsl.Legacy
import GlBridge.Glsl.Source
import GlBridge.Glsl.Stage
import GlBridge.Glsl.Statement
import GlBridge.Glsl.Token
import GlBridge.Glsl.Version
import GlBridge.Glsl.Word
import GlBridge.Interface.BindingPoint
import GlBridge.Interface.Block
import GlBridge.Interface.Resource
import GlBridge.Interface.Restore
import GlBridge.Layout.Assign
import GlBridge.Layout.Edit
import GlBridge.Layout.Samplers
import GlBridge.Layout.Slots
import GlBridge.Number.Shortest
import GlBridge.Number.Single
import GlBridge.Program.Binary
import GlBridge.Program.Cache
import GlBridge.Program.Objects
import GlBridge.Program.Script
import GlBridge.Program.Shaders
import GlBridge.Proofs.Entries
import GlBridge.Proofs.Gl.Bindings
import GlBridge.Proofs.Gl.DrawParameters
import GlBridge.Proofs.Gl.Link
import GlBridge.Proofs.Gl.Running
import GlBridge.Proofs.Gl.Targets
import GlBridge.Proofs.Gl.Trace
import GlBridge.Proofs.Glsl.Bytewise
import GlBridge.Proofs.Glsl.Comment
import GlBridge.Proofs.Glsl.Declaration
import GlBridge.Proofs.Glsl.Directive
import GlBridge.Proofs.Glsl.Fragments
import GlBridge.Proofs.Glsl.Identifier
import GlBridge.Proofs.Glsl.Joining
import GlBridge.Proofs.Glsl.Linewise
import GlBridge.Proofs.Glsl.Member
import GlBridge.Proofs.Glsl.Piece
import GlBridge.Proofs.Glsl.Precision
import GlBridge.Proofs.Glsl.Reading
import GlBridge.Proofs.Glsl.Renaming
import GlBridge.Proofs.Glsl.Respelling
import GlBridge.Proofs.Glsl.Slicing
import GlBridge.Proofs.Glsl.Sparing
import GlBridge.Proofs.Glsl.Versioning
import GlBridge.Proofs.Interface.BindingPoints
import GlBridge.Proofs.Interface.Capturing
import GlBridge.Proofs.Interface.Clashes
import GlBridge.Proofs.Interface.Finding
import GlBridge.Proofs.Interface.Flattening
import GlBridge.Proofs.Interface.Reordering
import GlBridge.Proofs.Interface.Restoring
import GlBridge.Proofs.Layout.Agreement
import GlBridge.Proofs.Layout.Combining
import GlBridge.Proofs.Layout.Completing
import GlBridge.Proofs.Layout.Directives
import GlBridge.Proofs.Layout.Editing
import GlBridge.Proofs.Layout.Fitting
import GlBridge.Proofs.Layout.Grouping
import GlBridge.Proofs.Layout.Idempotence
import GlBridge.Proofs.Layout.Items
import GlBridge.Proofs.Layout.Lines
import GlBridge.Proofs.Layout.Marking
import GlBridge.Proofs.Layout.Numbering
import GlBridge.Proofs.Layout.Placement
import GlBridge.Proofs.Layout.Preserving
import GlBridge.Proofs.Layout.Recalling
import GlBridge.Proofs.Layout.Registry
import GlBridge.Proofs.Layout.Rewriting
import GlBridge.Proofs.Layout.Room
import GlBridge.Proofs.Layout.Searching
import GlBridge.Proofs.Layout.Separation
import GlBridge.Proofs.Layout.Settling
import GlBridge.Proofs.Layout.Slicing
import GlBridge.Proofs.Layout.Slots
import GlBridge.Proofs.Layout.Widths
import GlBridge.Proofs.Layout.Written
import GlBridge.Proofs.Program.Binary
import GlBridge.Proofs.Program.Cache
import GlBridge.Proofs.Program.FiniteMap
import GlBridge.Proofs.Program.Key
import GlBridge.Proofs.Program.Sharing
import GlBridge.Proofs.Settings.Applying
import GlBridge.Proofs.System.Files
import GlBridge.Proofs.System.Path
import GlBridge.Proofs.Text.Affix
import GlBridge.Proofs.Text.Decimal
import GlBridge.Proofs.Text.Encoding
import GlBridge.Proofs.Text.Hex
import GlBridge.Proofs.Text.Slicing
import GlBridge.Proofs.Translator.Failing
import GlBridge.Proofs.Translator.FirstLine
import GlBridge.Proofs.Translator.Modernizing
import GlBridge.Proofs.Translator.OutputDeclaration
import GlBridge.Proofs.Translator.Polyfilling
import GlBridge.Proofs.Translator.TextOnly
import GlBridge.Proofs.Window.Current
import GlBridge.Proofs.Window.Fallback
import GlBridge.Proofs.Window.Frame
import GlBridge.Proofs.Window.Guarding
import GlBridge.Proofs.Window.History
import GlBridge.Proofs.Window.Linked
import GlBridge.Proofs.Window.Outcome
import GlBridge.Proofs.Window.Ownership
import GlBridge.Proofs.Window.Pixels
import GlBridge.Proofs.Window.Presenting
import GlBridge.Proofs.Window.Requesting
import GlBridge.Proofs.Window.Resizing
import GlBridge.Proofs.Window.Trace
import GlBridge.Settings.DebugModules
import GlBridge.Settings.Options
import GlBridge.System.Files
import GlBridge.System.Path
import GlBridge.Text.Basic
import GlBridge.Text.Blank
import GlBridge.Text.Decimal
import GlBridge.Text.Lines
import GlBridge.Text.Utf8
import GlBridge.Translator
import GlBridge.Window.Attributes
import GlBridge.Window.Backend
import GlBridge.Window.Extensions
import GlBridge.Window.Fault
import GlBridge.Window.Image
import GlBridge.Window.Script
import GlBridge.Window.Session
