import PredicateLang.Expr.Visitor
import PredicateLang.Main
import PredicateLang.Proofs.Grammar
import PredicateLang.Proofs.Grammar.Outcome
import PredicateLang.Proofs.Grammar.Sound
import PredicateLang.Proofs.Grammar.Complete
import PredicateLang.Proofs.Grammar.Parse
import PredicateLang.Proofs.Grammar.Parallel
import PredicateLang.Proofs.Grammar.Backtracking
import PredicateLang.Proofs.Lexing
import PredicateLang.Proofs.Lexing.Placeholders
import PredicateLang.Proofs.Lexing.Coverage
import PredicateLang.Proofs.Canonical
import PredicateLang.Proofs.Canonical.KeyPath
import PredicateLang.Proofs.Canonical.Constant
import PredicateLang.Proofs.Canonical.Call
import PredicateLang.Proofs.Text.LetterCase
import PredicateLang.Proofs.Canonical.Text
import PredicateLang.Proofs.Canonical.Parse
import PredicateLang.Proofs.Number.Nearest
import PredicateLang.Proofs.Number.Bits
import PredicateLang.Proofs.Canonical.Parsed
import PredicateLang.Proofs.Typing.Conforms
import PredicateLang.Proofs.Typing.Operations
import PredicateLang.Proofs.Typing.Evaluation
import PredicateLang.Proofs.Typing.Lowering
import PredicateLang.Proofs.Typing.Compiled
import PredicateLang.Proofs.Effects.Trace
import PredicateLang.Proofs.Coercion
import PredicateLang.Proofs.Alike.Relation
import PredicateLang.Proofs.Alike.Evaluation
import PredicateLang.Proofs.Alike.Lowering
import PredicateLang.Proofs.Alike.Call
import PredicateLang.Proofs.Alike.Comparison
import PredicateLang.Proofs.Alike.Compiled
import PredicateLang.Proofs.Effects.Quiet
import PredicateLang.Proofs.Effects.Operand
import PredicateLang.Proofs.Effects.Comparison
import PredicateLang.Proofs.Effects.Compiled
import PredicateLang.Proofs.Quantifiers
import PredicateLang.Proofs.Effects.Plain
import PredicateLang.Proofs.Membership
import PredicateLang.Proofs.Effects.Variables
import PredicateLang.Proofs.Kinds.Accord
import PredicateLang.Proofs.Kinds.Wrapping
import PredicateLang.Proofs.Kinds.Concurrence
import PredicateLang.Proofs.Kinds.Lowering
import PredicateLang.Proofs.Kinds.Call
import PredicateLang.Proofs.Kinds.Comparison
import PredicateLang.Proofs.Kinds.Conversion
import PredicateLang.Proofs.Kinds.Numbers
import PredicateLang.Proofs.Kinds.Compiled
import PredicateLang.Proofs.Sql.Written
import PredicateLang.Proofs.Dialects.Occurrence
import PredicateLang.Proofs.Invariant
import PredicateLang.Proofs.Invariant.Lowering
import PredicateLang.Proofs.Invariant.Compiled
import PredicateLang.Proofs.Sql.Like
import PredicateLang.Proofs.Sql.StringTests
import PredicateLang.Proofs.Arguments.Counted
import PredicateLang.Proofs.Arguments.Parsed
import PredicateLang.Proofs.Arguments.Tokens
import PredicateLang.Proofs.Scoping.Operations
import PredicateLang.Proofs.Scoping.Evaluation
import PredicateLang.Proofs.Scoping.Compiled
import PredicateLang.Proofs.Order
import PredicateLang.Proofs.Mirror
import PredicateLang.Proofs.Negation
import PredicateLang.Proofs.Guid
import PredicateLang.Proofs.ConstantFolding
import PredicateLang.Proofs.Exchange.Evaluation
import PredicateLang.Proofs.Exchange.Relation
import PredicateLang.Proofs.Exchange.Lowering
import PredicateLang.Proofs.Exchange.Comparison
import PredicateLang.Proofs.Exchange.Call
import PredicateLang.Proofs.Exchange.Compiled
import PredicateLang.Proofs.Exchange.Folding
import PredicateLang.Proofs.Literals
import PredicateLang.Proofs.WellFormed
import PredicateLang.Proofs.SmallLetters
import PredicateLang.Proofs.Renaming.Relation
import PredicateLang.Proofs.Renaming.Lowering
import PredicateLang.Proofs.Renaming.Call
import PredicateLang.Proofs.Renaming.Comparison
import PredicateLang.Proofs.Renaming.Substitution
import PredicateLang.Proofs.Renaming.Trees
import PredicateLang.Proofs.Externals
import PredicateLang.Proofs.Renaming.Sql
import PredicateLang.Proofs.Renaming.Compiled
import PredicateLang.Proofs.Scoping.Bindings
import PredicateLang.Proofs.Sql.Lowering
import PredicateLang.Proofs.Sql.Lowered
import PredicateLang.Proofs.Sql.Reading
import PredicateLang.Proofs.Sql.Strings
import PredicateLang.Proofs.Sql.Aliases
import PredicateLang.Proofs.Navigation
import PredicateLang.Proofs.Integers.Operands
import PredicateLang.Proofs.Integers.Arithmetic
import PredicateLang.Proofs.Integers.Comparison
import PredicateLang.Proofs.Integers.Shift
import PredicateLang.Proofs.Integers.Bitwise
import PredicateLang.Proofs.Effects.Occurrence
import PredicateLang.Proofs.Effects.Once
import PredicateLang.Proofs.Collections.Operator
import PredicateLang.Proofs.Collections.Sum
import PredicateLang.Proofs.Collections.Extreme
import PredicateLang.Proofs.Collections.Place
import PredicateLang.Proofs.Effects.Steps
import PredicateLang.Proofs.Effects.Footprint
import PredicateLang.Proofs.Scoping.Assigned
import PredicateLang.Proofs.Alike.Outcome
import PredicateLang.Proofs.Range
import PredicateLang.Proofs.Subqueries
import PredicateLang.Proofs.Fields
import PredicateLang.Proofs.Conversion
import PredicateLang.Proofs.Equality
import PredicateLang.Proofs.Documents
import PredicateLang.Proofs.Grammar.Calls
import PredicateLang.Proofs.Grammar.Descent
import PredicateLang.Proofs.Visiting.Walk
import PredicateLang.Proofs.Visiting.Rewriting
import PredicateLang.Proofs.Hygiene.Paths
import PredicateLang.Proofs.Hygiene.Lowering
import PredicateLang.Proofs.Hygiene.Compiled
