import SqlLayout.Command.Host
import SqlLayout.Command.Run
import SqlLayout.Content
import SqlLayout.Grammar.Block
import SqlLayout.Grammar.Case
import SqlLayout.Grammar.Declaration
import SqlLayout.Grammar.Expression
import SqlLayout.Grammar.Routine
import SqlLayout.Grammar.State
import SqlLayout.Grammar.Stop
import SqlLayout.Layout.Buffer
import SqlLayout.Layout.Cache
import SqlLayout.Layout.CaseOf
import SqlLayout.Layout.Context
import SqlLayout.Layout.Control
import SqlLayout.Layout.Declaration
import SqlLayout.Layout.Engine
import SqlLayout.Layout.Expression
import SqlLayout.Layout.Fault
import SqlLayout.Layout.Inline
import SqlLayout.Layout.List
import SqlLayout.Layout.Measure
import SqlLayout.Layout.Routine
import SqlLayout.Layout.Spacing
import SqlLayout.Layout.Statement
import SqlLayout.Number.Decimal
import SqlLayout.Number.Single
import SqlLayout.Policy.Basic
import SqlLayout.Policy.Read
import SqlLayout.Text.Basic
import SqlLayout.Text.CharWidth
import SqlLayout.Text.Emoji
import SqlLayout.Text.Letter
import SqlLayout.Text.LetterCase
import SqlLayout.Text.Ligature
import SqlLayout.Text.Quoted
import SqlLayout.Text.Range
import SqlLayout.Text.Width
import SqlLayout.Token.Keyword
import SqlLayout.Token.Kind
import SqlLayout.Token.KindSet
import SqlLayout.Token.Level
import SqlLayout.Token.Lexeme
import SqlLayout.Token.Stream
import SqlLayout.Tree.Basic
import SqlLayout.Tree.Build
import SqlLayout.Tree.Error
import SqlLayout.Tree.Kind
import SqlLayout.Main
import SqlLayout.Proofs.Agreement
import SqlLayout.Proofs.Content
import SqlLayout.Proofs.Grammar.Abreast
import SqlLayout.Proofs.Grammar.AbreastRules
import SqlLayout.Proofs.Grammar.AbreastStatements
import SqlLayout.Proofs.Grammar.Balance
import SqlLayout.Proofs.Grammar.BalanceRules
import SqlLayout.Proofs.Grammar.BalanceStatements
import SqlLayout.Proofs.Grammar.Item
import SqlLayout.Proofs.Grammar.Reads
import SqlLayout.Proofs.Grammar.Rules
import SqlLayout.Proofs.Grammar.Run
import SqlLayout.Proofs.Grammar.Shape
import SqlLayout.Proofs.Grammar.ShapeRules
import SqlLayout.Proofs.Grammar.ShapeStatements
import SqlLayout.Proofs.Grammar.Statements
import SqlLayout.Proofs.Layout.Bounded
import SqlLayout.Proofs.Layout.Cached
import SqlLayout.Proofs.Layout.Coupling
import SqlLayout.Proofs.Layout.DataTypes
import SqlLayout.Proofs.Layout.Edited
import SqlLayout.Proofs.Layout.Ensures
import SqlLayout.Proofs.Layout.Expressions
import SqlLayout.Proofs.Layout.Format
import SqlLayout.Proofs.Layout.GoesOn
import SqlLayout.Proofs.Layout.Groups
import SqlLayout.Proofs.Layout.History
import SqlLayout.Proofs.Layout.Independence
import SqlLayout.Proofs.Layout.Ink
import SqlLayout.Proofs.Layout.Items
import SqlLayout.Proofs.Layout.KeepsRoom
import SqlLayout.Proofs.Layout.LetterCase
import SqlLayout.Proofs.Layout.LineText
import SqlLayout.Proofs.Layout.Measured
import SqlLayout.Proofs.Layout.Moved
import SqlLayout.Proofs.Layout.Neat
import SqlLayout.Proofs.Layout.NeatExpressions
import SqlLayout.Proofs.Layout.NeatStatements
import SqlLayout.Proofs.Layout.PackedLines
import SqlLayout.Proofs.Layout.Related
import SqlLayout.Proofs.Layout.RelatedEngine
import SqlLayout.Proofs.Layout.RelatedExpressions
import SqlLayout.Proofs.Layout.RelatedLists
import SqlLayout.Proofs.Layout.RelatedStatements
import SqlLayout.Proofs.Layout.Room
import SqlLayout.Proofs.Layout.RoomCases
import SqlLayout.Proofs.Layout.RoomDeclarations
import SqlLayout.Proofs.Layout.RoomEngine
import SqlLayout.Proofs.Layout.RoomExpressions
import SqlLayout.Proofs.Layout.RoomLists
import SqlLayout.Proofs.Layout.RoomStatements
import SqlLayout.Proofs.Layout.Routines
import SqlLayout.Proofs.Layout.Statements
import SqlLayout.Proofs.Layout.ThenColumn
import SqlLayout.Proofs.Layout.Tidy
import SqlLayout.Proofs.Layout.Written
import SqlLayout.Proofs.Policy.Reading
import SqlLayout.Proofs.Text.Firm
import SqlLayout.Proofs.Text.Folding
import SqlLayout.Proofs.Text.Size
import SqlLayout.Proofs.Text.Solid
import SqlLayout.Proofs.Token.BlockLevels
import SqlLayout.Proofs.Token.Bodies
import SqlLayout.Proofs.Token.Brackets
import SqlLayout.Proofs.Token.KindSet
import SqlLayout.Proofs.Token.Languages
import SqlLayout.Proofs.Token.Readback
import SqlLayout.Proofs.Token.Significant
import SqlLayout.Proofs.Token.Solid
import SqlLayout.Proofs.Token.Tiling
import SqlLayout.Proofs.Token.Words
import SqlLayout.Proofs.Tree.Alike
import SqlLayout.Proofs.Tree.Arena
import SqlLayout.Proofs.Tree.BlockLevels
import SqlLayout.Proofs.Tree.Bounds
import SqlLayout.Proofs.Tree.Build
import SqlLayout.Proofs.Tree.Errors
import SqlLayout.Proofs.Tree.Formed
import SqlLayout.Proofs.Tree.Malformed
import SqlLayout.Proofs.Tree.Mirror
import SqlLayout.Proofs.Tree.Nesting
import SqlLayout.Proofs.Tree.Preorder
import SqlLayout.Proofs.Tree.Rejected
