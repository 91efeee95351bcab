import TypedJit.Interpreter.Value
import TypedJit.Machine.Eval

/-!
Failures of the function registry and of calls made through it.
-/

namespace TypedJit

inductive JitError where
  | compile (e : CompileError)
  /-- A failure reported by the code-generation backend. -/
  | backend (message : String)
  | notCompiled (name : String)
  | unknownFunction (name : String)
  | argumentCount (function : String) (expected got : Nat)
  | argumentType (function : String) (index : Nat) (expected got : String)
  | notInvocable (function reason : String)
  | unresolvedCallee (function callee : String)
  | alreadyFinalized (name : String)
  | unsupportedTarget (what : String)
  | objectFile (message : String)
  | run (e : RunError)
  /-- Compiled code did something with no defined outcome. -/
  | native (fault : Machine.Fault)
  deriving DecidableEq, Repr, Inhabited

namespace JitError

def message : JitError → String
  | .compile e => e.render
  | .backend m => s!"LLVM error: {m}"
  | .notCompiled n => s!"`{n}` has no compiled body"
  | .unknownFunction n => s!"unknown function `{n}`"
  | .argumentCount f e g => s!"`{f}` takes {e} argument(s), got {g}"
  | .argumentType f i e g => s!"argument {i} of `{f}` must be {e}, got {g}"
  | .notInvocable f r => s!"`{f}` cannot be invoked natively: {r}"
  | .unresolvedCallee f c => s!"`{f}` calls `{c}`, which has no compiled body"
  | .alreadyFinalized n => s!"`{n}` is already bound to native code"
  | .unsupportedTarget w => s!"{w} is not supported on this target"
  | .objectFile m => s!"object file: {m}"
  | .run e => e.message
  | .native f => f.message

/-- The compile error behind a failure, if a compile error is its cause. -/
def compileCause? : JitError → Option CompileError
  | .compile e | .run (.compile e) => some e
  | _ => none

/-- Whether a compile error of `kind` is the cause. -/
def isDueTo (e : JitError) (kind : ErrorKind) : Bool :=
  (e.compileCause?.map (·.kind == kind)).getD false

/-- Every kind of compile error that is the cause. -/
def causes (e : JitError) : List ErrorKind := ErrorKind.all.filter e.isDueTo

theorem causes_eq (e : JitError) :
    e.causes = (e.compileCause?.map fun c => [c.kind]).getD [] := by
  rcases h : e.compileCause? with _ | c
  · simp [causes, isDueTo, h]
  · cases hk : c.kind <;> simp [causes, isDueTo, h, hk, ErrorKind.all]

end JitError

end TypedJit
