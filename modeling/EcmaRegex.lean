import EcmaRegex.CodePointSet.Basic
import EcmaRegex.CodePointSet.Display
import EcmaRegex.CodePointSet.Search
import EcmaRegex.Flags
import EcmaRegex.Text.Utf16
import EcmaRegex.Text.Span
import EcmaRegex.Diagnostic
import EcmaRegex.Unicode.TableText
import EcmaRegex.Unicode.GeneralCategory
import EcmaRegex.Unicode.Script
import EcmaRegex.Unicode.ScriptExtensions
import EcmaRegex.Unicode.Binary
import EcmaRegex.Unicode.SimpleFolding
import EcmaRegex.Unicode.Uppercase
import EcmaRegex.Property.Names
import EcmaRegex.Property.Lookup
import EcmaRegex.Predefined
import EcmaRegex.CaseFold
import EcmaRegex.Token
import EcmaRegex.Source
import EcmaRegex.Lexer.Digits
import EcmaRegex.Lexer.Escape
import EcmaRegex.Lexer.Class
import EcmaRegex.Lexer.Step
import EcmaRegex.Lexer.Basic
import EcmaRegex.Json.Number
import EcmaRegex.Json.Value
import EcmaRegex.Config.Options
import EcmaRegex.Json.Error
import EcmaRegex.Json.Reader
import EcmaRegex.Config.File
import EcmaRegex.Unicode.Width
import EcmaRegex.Unicode.LineBreak
import EcmaRegex.Text.Wrap
import EcmaRegex.Cli.Args
import EcmaRegex.Cli.Report
import EcmaRegex.Cli.Run
import EcmaRegex.Cli.Tools
import EcmaRegex.Main
import EcmaRegex.Proofs.Openers
import EcmaRegex.Proofs.Consumption
import EcmaRegex.Proofs.Session
import EcmaRegex.Proofs.ModeDependence
import EcmaRegex.Proofs.FlagIndependence
import EcmaRegex.Proofs.LegacyGrammar
import EcmaRegex.Proofs.QuantifierPlacement
import EcmaRegex.Proofs.NormalForm
import EcmaRegex.Proofs.SpanBoundaries
import EcmaRegex.Proofs.ByteRanges
import EcmaRegex.Proofs.UnicodeData
import EcmaRegex.Proofs.CanonicalClasses
import EcmaRegex.Proofs.CaseFolding
import EcmaRegex.Proofs.TableLibrary
import EcmaRegex.Proofs.ClassTokens
import EcmaRegex.Proofs.CaseClosure
import EcmaRegex.Proofs.MachineArithmetic
import EcmaRegex.Proofs.SetMeaning
import EcmaRegex.Proofs.RunReport
import EcmaRegex.Proofs.ClassGrammar
import EcmaRegex.Proofs.FoldRelations
import EcmaRegex.Proofs.LiteralText
import EcmaRegex.Proofs.Backreferences
import EcmaRegex.Proofs.CountedQuantifiers
import EcmaRegex.Proofs.HexEscapes
import EcmaRegex.Proofs.NegatedClasses
import EcmaRegex.Proofs.ByteOffsets
import EcmaRegex.Proofs.FlagStrings
import EcmaRegex.Proofs.TemplateFilling
import EcmaRegex.Proofs.PropertyLookup
import EcmaRegex.Proofs.ClassConversion
import EcmaRegex.Proofs.DisplayReading
import EcmaRegex.Proofs.EscapeSets
