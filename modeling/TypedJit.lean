import TypedJit.Ieee.Format
import TypedJit.Ieee.Convert
import TypedJit.Ieee.Decimal
import TypedJit.Ieee.Arith
import TypedJit.Types.Basic
import TypedJit.Scalar.Basic
import TypedJit.Syntax.Tree
import TypedJit.Syntax.Lines
import TypedJit.Error
import TypedJit.Globals
import TypedJit.Scope
import TypedJit.Session
import TypedJit.Host.Buffer
import TypedJit.Syntax.Literal
import TypedJit.Interpreter.Value
import TypedJit.Interpreter.Ops
import TypedJit.Interpreter.Exec
import TypedJit.Interpreter.Call
import TypedJit.Registry.Error
import TypedJit.Host.Check
import TypedJit.Registry.Basic
import TypedJit.Types.Text
import TypedJit.Ieee.Text
import TypedJit.Host.Marshal
import TypedJit.Host.Json
import TypedJit.Machine.Ir
import TypedJit.Machine.Semantics
import TypedJit.Codegen.Builder
import TypedJit.Codegen.Expr
import TypedJit.Codegen.Function
import TypedJit.Machine.Eval
import TypedJit.Registry.Lifecycle
import TypedJit.Text.Jaro
import TypedJit.Text.CodeRanges
import TypedJit.Text.Printable
import TypedJit.Text.GraphemeExtend
import TypedJit.Text.Quoted
import TypedJit.Text.WhiteSpace
import TypedJit.Demo.Arg
import TypedJit.Demo.Programs
import TypedJit.Demo.Command
import TypedJit.Demo.Run
import TypedJit.Main
import TypedJit.Proofs.Except
import TypedJit.Proofs.Globals.TypeExpr
import TypedJit.Proofs.Codegen.Straight
import TypedJit.Proofs.Codegen.Calls
import TypedJit.Proofs.Codegen.Callees
import TypedJit.Proofs.Registry.Reachable
import TypedJit.Proofs.Registry.Coherence
import TypedJit.Proofs.Registry.Operations
import TypedJit.Proofs.Registry.Session
import TypedJit.Proofs.Codegen.Pending
import TypedJit.Proofs.Registry.Failure
import TypedJit.Proofs.Codegen.Returns
import TypedJit.Proofs.Host.Boundary
import TypedJit.Proofs.Interpreter.Preserves
import TypedJit.Proofs.Interpreter.Typing
import TypedJit.Proofs.Interpreter.Steps
import TypedJit.Proofs.Interpreter.Expressions
import TypedJit.Proofs.Interpreter.HostCall
import TypedJit.Proofs.Ieee.Widening
import TypedJit.Proofs.Scalar.Wrap
import TypedJit.Proofs.Machine.Operators
import TypedJit.Proofs.Types.Coerce
import TypedJit.Proofs.Interpreter.Depth
import TypedJit.Proofs.Syntax.Listing
import TypedJit.Proofs.Codegen.Folding
import TypedJit.Proofs.Interpreter.Faults
import TypedJit.Proofs.Typing.Generator
import TypedJit.Proofs.Interpreter.Regular
import TypedJit.Proofs.Typing.Operators
import TypedJit.Proofs.Typing.Evaluation
import TypedJit.Proofs.Machine.Verifier
import TypedJit.Proofs.Codegen.Outline
import TypedJit.Proofs.Codegen.Operands
import TypedJit.Proofs.Codegen.Constructs
import TypedJit.Proofs.Codegen.Expressions
import TypedJit.Proofs.Codegen.Statements
import TypedJit.Proofs.Codegen.Assembly
import TypedJit.Proofs.Codegen.Functions
import TypedJit.Proofs.Registry.Constructors
