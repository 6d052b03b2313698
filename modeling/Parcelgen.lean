import Parcelgen.Main
import Parcelgen.Text.Template
import Parcelgen.Proofs.Layout.Outcome
import Parcelgen.Proofs.Marshal.Path
import Parcelgen.Proofs.Marshal.Operation
import Parcelgen.Proofs.Marshal.Walk
import Parcelgen.Proofs.Marshal.Embedded
import Parcelgen.Proofs.Marshal.Transfer
import Parcelgen.Proofs.Generator.Outcome
import Parcelgen.Proofs.Marshal.Handle
import Parcelgen.Proofs.Generator.Mirror
import Parcelgen.Proofs.Marshal.Declarable
import Parcelgen.Proofs.Schema.Declarable
import Parcelgen.Proofs.Schema.Fault
import Parcelgen.Proofs.Wit.Declarable
import Parcelgen.Proofs.Generator.Accepted
import Parcelgen.Proofs.Schema.Closed
import Parcelgen.Proofs.Schema.Unfold
import Parcelgen.Proofs.Schema.Cycle
import Parcelgen.Proofs.Schema.Order
import Parcelgen.Proofs.Generator.Scoping
import Parcelgen.Proofs.Generator.Unwinding
import Parcelgen.Proofs.Layout.Truncation
import Parcelgen.Proofs.Generator.Emission
import Parcelgen.Proofs.TypeExpr.Grammar
import Parcelgen.Proofs.Generator.Batch
import Parcelgen.Proofs.Wit.Cycle
import Parcelgen.Proofs.Wit.Closed
import Parcelgen.Proofs.Generator.Definitions
import Parcelgen.Proofs.Generator.Namespace
import Parcelgen.Proofs.Schema.Naming
import Parcelgen.Proofs.Browser.Selection
import Parcelgen.Proofs.Files.Path
import Parcelgen.Proofs.Marshal.Refusal
import Parcelgen.Proofs.Files.Tree
import Parcelgen.Proofs.Command.Delivery
import Parcelgen.Proofs.Marshal.Arithmetic
import Parcelgen.Proofs.Marshal.Extent
import Parcelgen.Proofs.TypeExpr.Printing
import Parcelgen.Proofs.Text.Encoding
import Parcelgen.Proofs.WireType.Spelling
import Parcelgen.Proofs.Marshal.Missing
import Parcelgen.Proofs.Marshal.Silence
import Parcelgen.Proofs.Schema.Notation
import Parcelgen.Proofs.Schema.Location
import Parcelgen.Proofs.Generator.IncludeGuard
import Parcelgen.Proofs.Wit.Storage
import Parcelgen.Proofs.Wit.Label
import Parcelgen.Proofs.Wit.Member
import Parcelgen.Proofs.Wit.TypeName
import Parcelgen.Proofs.Layout.Splitting
import Parcelgen.Proofs.Dialect
import Parcelgen.Proofs.Marshal.Lead
