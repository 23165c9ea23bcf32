import SolidityLint.Analysis
import SolidityLint.Ast
import SolidityLint.Ast.Decode
import SolidityLint.Ast.Encode
import SolidityLint.Ast.Lower
import SolidityLint.Ast.Node
import SolidityLint.Check.ExternalCall
import SolidityLint.Check.Gas
import SolidityLint.Check.Increment
import SolidityLint.Check.Layout
import SolidityLint.Check.Naming
import SolidityLint.Check.RevertMessage
import SolidityLint.Check.Visibility
import SolidityLint.CommandLine
import SolidityLint.Context
import SolidityLint.Diagnostic
import SolidityLint.Engine
import SolidityLint.FileTree
import SolidityLint.Grammar.Cursor
import SolidityLint.Grammar.Definition
import SolidityLint.Grammar.Expression
import SolidityLint.Grammar.SourceUnit
import SolidityLint.Grammar.Statement
import SolidityLint.Grammar.Yul
import SolidityLint.Inspection
import SolidityLint.Json
import SolidityLint.Json.Printer
import SolidityLint.Location
import SolidityLint.Location.LineIndex
import SolidityLint.Main
import SolidityLint.ParseTree
import SolidityLint.Path
import SolidityLint.Registry
import SolidityLint.Report
import SolidityLint.Report.Json
import SolidityLint.Report.Styled
import SolidityLint.Report.Text
import SolidityLint.SourceError
import SolidityLint.Suppression
import SolidityLint.Text.Blank
import SolidityLint.Text.IdentifierCharacters
import SolidityLint.Text.Search
import SolidityLint.Token
import SolidityLint.Token.Lexer
import SolidityLint.Proofs.Walk
import SolidityLint.Proofs.Appending
import SolidityLint.Proofs.RuleFindings
import SolidityLint.Proofs.ContextSteps
import SolidityLint.Proofs.Pass
import SolidityLint.Proofs.Provenance
import SolidityLint.Proofs.Reentrancy
import SolidityLint.Proofs.DumpLocations
import SolidityLint.Proofs.ParseTreeWalk
import SolidityLint.Proofs.LoweredExpression
import SolidityLint.Proofs.HiddenOperands
import SolidityLint.Proofs.CallOptions
import SolidityLint.Proofs.Suppression
import SolidityLint.Proofs.ParseTreeContents
import SolidityLint.Proofs.LoweredStatement
import SolidityLint.Proofs.Unlocated
import SolidityLint.Proofs.LayoutIndependence
import SolidityLint.Proofs.JsonReadBack
import SolidityLint.Proofs.WithoutOthers
import SolidityLint.Proofs.UninspectedParts
import SolidityLint.Proofs.MoreState
import SolidityLint.Proofs.Paths
import SolidityLint.Proofs.FileTrees
import SolidityLint.Proofs.DirectoryRun
import SolidityLint.Proofs.FindingSites
import SolidityLint.Proofs.LegacyOperators
import SolidityLint.Proofs.Conservation
import SolidityLint.Proofs.Positions
import SolidityLint.Proofs.MarkerLines
import SolidityLint.Proofs.PositionOrder
import SolidityLint.Proofs.IncrementTargets
import SolidityLint.Proofs.Declarations
import SolidityLint.Proofs.AbbreviatedTypes
import SolidityLint.Proofs.StateVariableUses
import SolidityLint.Proofs.Parentheses
import SolidityLint.Proofs.MessageLength
import SolidityLint.Proofs.NamePatterns
import SolidityLint.Proofs.UnderscoreAdvice
import SolidityLint.Proofs.DeclarationOrder
import SolidityLint.Proofs.TreePaths
import SolidityLint.Proofs.Colours
