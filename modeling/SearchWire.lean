import SearchWire.Compiler.Body
import SearchWire.Document.Schema
import SearchWire.Document.Validation
import SearchWire.Expr.Equality
import SearchWire.Index
import SearchWire.Query.Operand
import SearchWire.Query.Params
import SearchWire.Serial
import SearchWire.Proofs.Blame
import SearchWire.Proofs.Leaves
import SearchWire.Proofs.Success
import SearchWire.Proofs.Threshold
import SearchWire.Proofs.Formula
import SearchWire.Proofs.Congruence
import SearchWire.Proofs.Rule
import SearchWire.Proofs.Twins
import SearchWire.Proofs.Assembly
import SearchWire.Proofs.Finished
import SearchWire.Proofs.Serialised
import SearchWire.Proofs.Demands
import SearchWire.Proofs.Reached
import SearchWire.Proofs.PlainData
import SearchWire.Proofs.Agreement
import SearchWire.Proofs.Precedence
import SearchWire.Document.Regex
import SearchWire.Proofs.Gathered
import SearchWire.Proofs.Pattern
import SearchWire.Proofs.Registry
import SearchWire.Proofs.Positions
import SearchWire.Proofs.Resolution
import SearchWire.Proofs.SubFields
import SearchWire.Proofs.SubNames
import SearchWire.Proofs.Found
import SearchWire.Proofs.Bounds
import SearchWire.Proofs.Listing
import SearchWire.Proofs.Chains
import SearchWire.Proofs.Extension
import SearchWire.Proofs.Offences
import SearchWire.Proofs.Clauses
import SearchWire.Proofs.Histories
import SearchWire.Proofs.FirstFault
import SearchWire.Proofs.Overrides
