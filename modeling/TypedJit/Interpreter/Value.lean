import TypedJit.Scope
import TypedJit.Host.Buffer

/-!
The reference interpreter's data.
-/

namespace TypedJit

inductive Value where
  | scalar (s : Scalar)
  | vector (elem : ScalarType) (lanes : List Scalar)
  /-- An array or slice of type `ty`: element `offset` of region `region`. -/
  | pointer (ty : Ty) (region offset : Nat)
  | void
  deriving DecidableEq, Repr, Inhabited

def Value.ty : Value → Ty
  | .scalar s => .scalar s.ty
  | .vector e lanes => .vector e lanes.length
  | .pointer t _ _ => t
  | .void => .void

/-- Failures of a reference run. -/
inductive RunError where
  | compile (e : CompileError)
  | divisionByZero (span : Span)
  | outOfBounds (index : Int) (len : Nat) (span : Span)
  | callDepth (limit : Nat)
  | missingBody (name : String)
  | unknownBuiltin (symbol : String)
  | arguments (message : String)
  /-- The step budget of a run ran out. -/
  | outOfFuel
  deriving DecidableEq, Repr, Inhabited

namespace RunError

def message : RunError → String
  | .compile e => e.render
  | .divisionByZero span => s!"division by zero at {span.render}"
  | .outOfBounds i len span => s!"index {i} out of bounds for length {len} at {span.render}"
  | .callDepth n => s!"call depth exceeded {n}"
  | .missingBody name => s!"`{name}` has no body"
  | .unknownBuiltin sym => s!"no reference implementation for builtin `{sym}`"
  | .arguments m => m
  | .outOfFuel => "the run exceeded its step budget"

/-- Give a position to a compile error raised without one. -/
def atIfUnknown (e : RunError) (span : Span) : RunError :=
  match e with
  | .compile c => .compile (c.atIfUnknown span)
  | other => other

end RunError

/-- Where the interpreter finds globals and function bodies: per registry id, the function's
name and, once it has a body, its definition and signature. -/
structure Library where
  globals : Globals
  name? : Nat → Option String
  definition? : Nat → Option (FunctionDef × Signature)

/-- The effects of a run. -/
structure Machine where
  regions : Array (Array Scalar) := #[]
  depth : Nat := 0
  maxDepth : Nat
  output : Array UInt8 := #[]
  deriving Repr, Inhabited

structure Frame where
  scope : Scope Nat
  slots : Array Value
  ret : Ty

/-- An assignable location. -/
inductive Place where
  | slot (index : Nat) (ty : Ty)
  | lane (slot lane : Nat) (elem : ScalarType)
  | element (region index : Nat) (elem : ScalarType)
  deriving DecidableEq, Repr

def Place.ty : Place → Ty
  | .slot _ t => t
  | .lane _ _ e | .element _ _ e => .scalar e

/-- How a statement list ends: by falling through or by returning a value. -/
inductive Flow where
  | next
  | returned (v : Value)
  deriving Repr, Inhabited

/-- The interpreter's monad: a frame, failures, and machine effects that outlive failures. -/
abbrev Run := StateT Frame (ExceptT RunError (StateM Machine))

namespace Run

def fail {α : Type} (e : RunError) : Run α := throw e

def compileError {α : Type} (kind : ErrorKind) (message : String) (span : Span) : Run α :=
  throw (.compile ⟨kind, message, span, none⟩)

def liftCompile {α : Type} (x : Except CompileError α) : Run α :=
  match x with
  | .ok a => pure a
  | .error e => throw (.compile e)

def machine : Run Machine := monadLift (MonadState.get : StateM Machine Machine)

def modifyMachine (f : Machine → Machine) : Run Unit :=
  monadLift (modify f : StateM Machine Unit)

/-- Run `x`, turning its failures with `f`. -/
def mapError {α : Type} (f : RunError → RunError) (x : Run α) : Run α :=
  tryCatch x fun e => throw (f e)

end Run

end TypedJit
