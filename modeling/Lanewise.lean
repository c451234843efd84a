import Lanewise.Build.Overload
import Lanewise.Build.Intrinsic
import Lanewise.Expr.Truth
import Lanewise.Stmt.Render
import Lanewise.Field
import Lanewise.Proofs.DType
import Lanewise.Proofs.WellTyped
import Lanewise.Proofs.Inventory
import Lanewise.Proofs.Reconcile
import Lanewise.Proofs.Builders
import Lanewise.Proofs.Reachable
import Lanewise.Proofs.Conversion
import Lanewise.Proofs.Judgement
import Lanewise.Proofs.ImplicitCast
import Lanewise.Proofs.Equivalence
import Lanewise.Proofs.Congruence
import Lanewise.Proofs.CoercionTrace
import Lanewise.Proofs.Integers
import Lanewise.Proofs.Nearest
import Lanewise.Proofs.IntegerToFloat
import Lanewise.Proofs.Words
import Lanewise.Proofs.QuotedText
import Lanewise.Proofs.TypeText
import Lanewise.Proofs.Head
import Lanewise.Proofs.Written
import Lanewise.Proofs.Printing
import Lanewise.Proofs.TypeGrammar
import Lanewise.Proofs.Handles
import Lanewise.Proofs.Failure
import Lanewise.Proofs.Outcomes
import Lanewise.Proofs.OperandOrder
import Lanewise.Proofs.Truncation
import Lanewise.Proofs.CastChain
import Lanewise.Proofs.IntegerText
import Lanewise.Proofs.Conditions
import Lanewise.Proofs.Spreading
import Lanewise.Proofs.Truth
import Lanewise.Proofs.Repetition
import Lanewise.Proofs.Layout
import Lanewise.Proofs.Introspection
import Lanewise.Proofs.Refusal
import Lanewise.Proofs.NaNTest
import Lanewise.Proofs.Promotion
import Lanewise.Proofs.Wrapping
import Lanewise.Proofs.Negation
