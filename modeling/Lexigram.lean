import Lexigram.Block
import Lexigram.CharClass
import Lexigram.CharClass.Break
import Lexigram.CharClass.Encoding
import Lexigram.CharClass.Extent
import Lexigram.CharClass.Named
import Lexigram.CharClass.Property
import Lexigram.CommandLine
import Lexigram.CompileError
import Lexigram.Delimiters
import Lexigram.Diagnostic
import Lexigram.Document
import Lexigram.Document.Attributes
import Lexigram.Document.Statement
import Lexigram.Event
import Lexigram.Expression
import Lexigram.Expression.Automaton
import Lexigram.Expression.Brackets
import Lexigram.Expression.Escape
import Lexigram.Expression.Flags
import Lexigram.Expression.Reader
import Lexigram.Expression.Size
import Lexigram.Files
import Lexigram.Grammar
import Lexigram.Grammar.Builder
import Lexigram.Grammar.Cycles
import Lexigram.Grammar.Display
import Lexigram.Grammar.LeftRecursion
import Lexigram.Grammar.Linking
import Lexigram.Grammar.Node
import Lexigram.Input
import Lexigram.Lexing
import Lexigram.Literal
import Lexigram.Loader
import Lexigram.Main
import Lexigram.Matching
import Lexigram.Notice
import Lexigram.Parsing
import Lexigram.Pattern
import Lexigram.Quantifier
import Lexigram.Remaining
import Lexigram.Rule.Atom
import Lexigram.Rule.Command
import Lexigram.Rule.Kind
import Lexigram.Rule.Options
import Lexigram.Rule.Outline
import Lexigram.Rule.Reader
import Lexigram.Span
import Lexigram.SyntaxTree
import Lexigram.Text.Age
import Lexigram.Text.Alphabetic
import Lexigram.Text.Bytes
import Lexigram.Text.Casing
import Lexigram.Text.Category
import Lexigram.Text.Category.Letter
import Lexigram.Text.Category.Mark
import Lexigram.Text.Category.Number
import Lexigram.Text.Category.Other
import Lexigram.Text.Category.Punctuation
import Lexigram.Text.Category.Symbol
import Lexigram.Text.Decimal
import Lexigram.Text.Emoji
import Lexigram.Text.Folding
import Lexigram.Text.Hexadecimal
import Lexigram.Text.Identifier
import Lexigram.Text.Ideograph
import Lexigram.Text.Modifier
import Lexigram.Text.Property
import Lexigram.Text.Punctuation
import Lexigram.Text.Quoted
import Lexigram.Text.Recent
import Lexigram.Text.Script
import Lexigram.Text.Segmentation
import Lexigram.Text.Stretch
import Lexigram.Token
import Lexigram.TokenStream
import Lexigram.Proofs.Arena
import Lexigram.Proofs.Cycles
import Lexigram.Proofs.LeftRecursion
import Lexigram.Proofs.Nullable
import Lexigram.Proofs.Reentry
import Lexigram.Proofs.Spelling
import Lexigram.Proofs.Stacks
import Lexigram.Proofs.Tiling
import Lexigram.Proofs.Trees
import Lexigram.Proofs.Shifting
import Lexigram.Proofs.Grouping
import Lexigram.Proofs.Restart
import Lexigram.Proofs.Bodies
import Lexigram.Proofs.Calls
import Lexigram.Proofs.Endings
import Lexigram.Proofs.Outlines
import Lexigram.Proofs.Parentheses
import Lexigram.Proofs.Independence
import Lexigram.Proofs.Lookaheads
import Lexigram.Proofs.Vanishing
import Lexigram.Proofs.Commands
import Lexigram.Proofs.Statements
import Lexigram.Proofs.Respacing
import Lexigram.Proofs.Declarations
import Lexigram.Proofs.Continuations
import Lexigram.Proofs.Carrying
import Lexigram.Proofs.Partition
import Lexigram.Proofs.Blocks
import Lexigram.Proofs.Nesting
import Lexigram.Proofs.Relocation
import Lexigram.Proofs.Linearization
import Lexigram.Proofs.Reading
import Lexigram.Proofs.Redisplay
import Lexigram.Proofs.RenumberedBlocks
import Lexigram.Proofs.Renumbering
import Lexigram.Proofs.Inheritance
import Lexigram.Proofs.Registry
import Lexigram.Proofs.Reordering
import Lexigram.Proofs.Imports
import Lexigram.Proofs.Caching
import Lexigram.Proofs.Documents
import Lexigram.Proofs.Answers
import Lexigram.Proofs.Unresolved
import Lexigram.Proofs.Links
import Lexigram.Proofs.LazyStops
import Lexigram.Proofs.SelfCalls
import Lexigram.Proofs.QuotedTexts
import Lexigram.Proofs.OffsetDocuments
import Lexigram.Proofs.CycleSearch
import Lexigram.Proofs.Drafts
import Lexigram.Proofs.RuleTrees
import Lexigram.Proofs.Forest
