import FromClause.Catalog.Basic
import FromClause.Catalog.Definition
import FromClause.Catalog.Document
import FromClause.Command.Arguments
import FromClause.Command.Run
import FromClause.Data.SortedMap
import FromClause.Event
import FromClause.Folding
import FromClause.Identifier
import FromClause.Logic.Formula
import FromClause.Logic.Supply
import FromClause.Logic.Term
import FromClause.Lowering.Clause
import FromClause.Lowering.Condition
import FromClause.Main
import FromClause.Project.Files
import FromClause.Project.Load
import FromClause.Project.Settings
import FromClause.Proofs.Data.Outcome
import FromClause.Proofs.Data.SortedMap
import FromClause.Proofs.Logic.Formula
import FromClause.Proofs.Logic.Supply
import FromClause.Proofs.Lowering.Condition
import FromClause.Proofs.Lowering.Placement
import FromClause.Proofs.Lowering.Plan
import FromClause.Proofs.Lowering.Renaming
import FromClause.Proofs.Lowering.Session
import FromClause.Proofs.Lowering.Variables
import FromClause.Proofs.Catalog.Lookup
import FromClause.Proofs.Relation.Acceptance
import FromClause.Proofs.Relation.Cross
import FromClause.Proofs.Relation.Dictionary
import FromClause.Proofs.Relation.Join
import FromClause.Proofs.Relation.Leaf
import FromClause.Proofs.Relation.Renaming
import FromClause.Proofs.Relation.Resolution
import FromClause.Proofs.Relation.Scope
import FromClause.Proofs.Relation.Tree
import FromClause.Proofs.Relation.WellFormed
import FromClause.Proofs.Semantics.Condition
import FromClause.Proofs.Semantics.Folding
import FromClause.Proofs.Semantics.Rows
import FromClause.Relation.Dictionary
import FromClause.Relation.Expression
import FromClause.Relation.Join
import FromClause.Relation.JoinTree
import FromClause.Relation.Operand
import FromClause.Relation.Reference
import FromClause.Relation.Scope
import FromClause.Report.Column
import FromClause.Report.Listing
import FromClause.Report.Source
import FromClause.Report.Value
import FromClause.Sql.Dialect
import FromClause.Sql.Lexer
import FromClause.Sql.ParseError
import FromClause.Sql.Parser.Basic
import FromClause.Sql.Parser.DataType
import FromClause.Sql.Parser.Expression
import FromClause.Sql.Parser.Level
import FromClause.Sql.Parser.Query
import FromClause.Sql.Parser.Statement
import FromClause.Sql.Parser.Table
import FromClause.Sql.Printer
import FromClause.Sql.Syntax
import FromClause.Sql.Token
import FromClause.Text.Blank
import FromClause.Text.Case
import FromClause.Text.CaseTable
import FromClause.Text.Digits
import FromClause.Text.Letter
import FromClause.Text.LetterTable
import FromClause.Yaml.Glyph
import FromClause.Yaml.Layout
import FromClause.Yaml.Meaning
import FromClause.Yaml.Node
import FromClause.Yaml.Record
import FromClause.Yaml.Scalar
import FromClause.Yaml.Token
import FromClause.Proofs.Relation.Traversal
import FromClause.Proofs.Lowering.Reach
import FromClause.Proofs.Sql.Operators
import FromClause.Proofs.Lowering.Shape
import FromClause.Proofs.Lowering.Exposure
import FromClause.Proofs.Lowering.Extension
import FromClause.Proofs.Lowering.Qualified
import FromClause.Proofs.Lowering.Symbols
import FromClause.Proofs.Lowering.Shadowing
import FromClause.Proofs.Lowering.Language
import FromClause.Proofs.Relation.Merging
import FromClause.Proofs.Relation.Exchange
import FromClause.Proofs.Relation.Equating
import FromClause.Proofs.Lowering.Conjuncts
import FromClause.Proofs.Sql.Numerals
import FromClause.Proofs.Logic.Rendering
import FromClause.Proofs.Lowering.Rendering
import FromClause.Proofs.Lowering.References
import FromClause.Proofs.Catalog.Additions
import FromClause.Proofs.Catalog.Loading
import FromClause.Proofs.Sql.Quotes
import FromClause.Proofs.Catalog.Delimited
import FromClause.Proofs.Lowering.Integers
import FromClause.Proofs.Catalog.Repetition
import FromClause.Proofs.Sql.Places
import FromClause.Proofs.Lowering.Unread
import FromClause.Proofs.Sql.Tokens
import FromClause.Proofs.Sql.Literals
import FromClause.Proofs.Sql.Clauses
import FromClause.Proofs.Lowering.Terms
import FromClause.Proofs.Semantics.Literals
