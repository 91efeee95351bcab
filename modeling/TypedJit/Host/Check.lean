import TypedJit.Host.Buffer
import TypedJit.Registry.Error

/-!
What may cross the boundary between the host and compiled code.
-/

namespace TypedJit

/-- Reject signatures that the native calling convention cannot express. -/
def Signature.validate (name : String) (sig : Signature) (span : Span) : Except CompileError Unit := do
  for (p, i) in sig.params.zipIdx do
    let problem : Option String := match p with
      | .void => some "Void"
      | .array .. => some "a bounded array (use Array(T))"
      | _ => none
    if let some what := problem then
      throw ⟨.functionDeclaration, s!"parameter {i} of `{name}` cannot be {what}", span, none⟩
  if let .array .. := sig.ret then
    throw ⟨.functionDeclaration, s!"`{name}` cannot return a bounded array", span, none⟩

/-- Reject signatures whose values cannot be passed from or returned to the host. -/
def checkInvocable (name : String) (sig : Signature) : Except JitError Unit := do
  for (p, i) in sig.params.zipIdx do
    if p.isVector then throw (.notInvocable name s!"parameter {i} is {p}")
  match sig.ret with
  | .void | .scalar _ => pure ()
  | other => throw (.notInvocable name s!"it returns {other}")

/-- Whether a host argument matches a parameter type exactly. -/
def Arg.matches : Arg → Ty → Bool
  | .scalar s, .scalar p => s.ty == p
  | .buffer b, .unbounded e | .buffer b, .slice e => b.elem == e
  | _, _ => false

/-- Check the host arguments against the parameter types. -/
def checkArgs (name : String) (sig : Signature) (args : List Arg) : Except JitError Unit := do
  if args.length ≠ sig.params.length then
    throw (.argumentCount name sig.params.length args.length)
  for ((a, p), i) in (args.zip sig.params).zipIdx do
    if !a.matches p then throw (.argumentType name i (toString p) a.typeName)

end TypedJit
