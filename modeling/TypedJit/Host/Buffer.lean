import TypedJit.Scalar.Basic

/-!
Host buffers and call arguments.
-/

namespace TypedJit

structure HostBuffer where
  elem : ScalarType
  data : Array Scalar
  deriving DecidableEq, Repr, Inhabited

namespace HostBuffer

def size (b : HostBuffer) : Nat := b.data.size

/-- Element `i`, or `none` out of bounds. -/
def get? (b : HostBuffer) (i : Nat) : Option Scalar := b.data[i]?

/-- Store `v` at `i`; `none` when `i` is out of bounds or `v` is not of the element type. -/
def set? (b : HostBuffer) (i : Nat) (v : Scalar) : Option HostBuffer :=
  if i < b.data.size ∧ v.ty = b.elem then some { b with data := b.data.set! i v } else none

/-- Store `v` at `i` when that is allowed, else keep the buffer. -/
def setOrKeep (b : HostBuffer) (i : Nat) (v : Scalar) : HostBuffer := (b.set? i v).getD b

/-- The buffer's storage as bytes, elements in order. -/
def bytes (b : HostBuffer) : List UInt8 := b.data.toList.flatMap Scalar.toBytes

end HostBuffer

/-- One argument of a call from the host. -/
inductive Arg where
  | scalar (s : Scalar)
  | buffer (b : HostBuffer)
  deriving DecidableEq, Repr, Inhabited

/-- A readable name of the argument's type. -/
def Arg.typeName : Arg → String
  | .scalar s => s.ty.name
  | .buffer b => s!"buffer of {b.elem.name}"

/-- The buffers among the arguments, in order. -/
def Arg.buffers (args : List Arg) : List HostBuffer :=
  args.filterMap fun | .buffer b => some b | .scalar _ => none

end TypedJit
