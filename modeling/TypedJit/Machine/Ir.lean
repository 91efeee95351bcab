import TypedJit.Globals

/-!
Generated code: typed SSA instructions in labelled basic blocks.
-/

namespace TypedJit.Machine

/-- Machine types: scalars, vectors, the storage of bounded arrays, and addresses. -/
inductive Mty where
  | scalar (s : ScalarType)
  | vector (s : ScalarType) (n : Nat)
  | array (s : ScalarType) (n : Nat)
  | ptr (pointee : Mty)
  deriving DecidableEq, Repr, Inhabited

namespace Mty

/-- How a value of a dialect type travels: arrays of every flavour as the address of their first
element; Void has no value. -/
def ofTy : Ty → Option Mty
  | .void => none
  | .scalar s => some (.scalar s)
  | .vector e n => some (.vector e n)
  | .array e _ | .unbounded e | .slice e => some (.ptr (.scalar e))

/-- The stack storage of a variable: a bounded array is stored whole. -/
def storage : Ty → Option Mty
  | .array e n => some (.array e n)
  | t => ofTy t

end Mty

/-- A machine value. Lanes of a vector may be undefined while it is being built. -/
inductive Word where
  | scalar (c : Scalar)
  | vector (elem : ScalarType) (lanes : List (Option Scalar))
  /-- Element `offset` of memory object `object`. -/
  | address (object offset : Nat)
  | null
  /-- A bounded array of zeros, the initial contents of array storage. -/
  | zeros (elem : ScalarType) (n : Nat)
  /-- The result of an operation whose outcome is undefined. -/
  | poison
  deriving DecidableEq, Repr, Inhabited

/-- The zero of a machine type. -/
def Word.zeroOf : Mty → Word
  | .scalar s => .scalar (Scalar.zero s)
  | .vector s n => .vector s (List.replicate n (some (Scalar.zero s)))
  | .array s n => .zeros s n
  | .ptr _ => .null

/-- The value with every bit set, of a scalar or vector type. -/
def Word.allOnes : Mty → Word
  | .scalar s => .scalar (Scalar.ofInt s (-1))
  | .vector s n => .vector s (List.replicate n (some (Scalar.ofInt s (-1))))
  | _ => .poison

inductive Operand where
  | reg (n : Nat)
  | const (w : Word)
  deriving DecidableEq, Repr, Inhabited

inductive BinaryOp where
  | add | sub | mul | sdiv | srem | and | or | xor | shl | ashr
  | fadd | fsub | fmul | fdiv | frem
  deriving DecidableEq, Repr

def BinaryOp.mnemonic : BinaryOp → String
  | .add => "add" | .sub => "sub" | .mul => "mul" | .sdiv => "sdiv" | .srem => "srem"
  | .and => "and" | .or => "or" | .xor => "xor" | .shl => "shl" | .ashr => "ashr"
  | .fadd => "fadd" | .fsub => "fsub" | .fmul => "fmul" | .fdiv => "fdiv" | .frem => "frem"

/-- Integer comparisons, signed. -/
inductive IntPred where
  | eq | ne | slt | sle | sgt | sge
  deriving DecidableEq, Repr

/-- Real comparisons: ordered (false on NaN) except `une`, which is true on NaN. -/
inductive RealPred where
  | oeq | une | olt | ole | ogt | oge
  deriving DecidableEq, Repr

inductive CastOp where
  | trunc | sext | zext | sitofp | uitofp | fptosi | fpext | fptrunc
  deriving DecidableEq, Repr

def CastOp.mnemonic : CastOp → String
  | .trunc => "trunc" | .sext => "sext" | .zext => "zext" | .sitofp => "sitofp"
  | .uitofp => "uitofp" | .fptosi => "fptosi" | .fpext => "fpext" | .fptrunc => "fptrunc"

inductive Inst where
  | alloca (dst : Nat) (t : Mty)
  | store (value ptr : Operand)
  | load (dst : Nat) (t : Mty) (ptr : Operand)
  | binary (dst : Nat) (op : BinaryOp) (lhs rhs : Operand)
  | fneg (dst : Nat) (x : Operand)
  | icmp (dst : Nat) (p : IntPred) (lhs rhs : Operand)
  | fcmp (dst : Nat) (p : RealPred) (lhs rhs : Operand)
  | cast (dst : Nat) (op : CastOp) (x : Operand) (target : Mty)
  /-- The address `index` elements past `base`. -/
  | elementAddress (dst : Nat) (base index : Operand)
  /-- The address of the first element of bounded-array storage. -/
  | decay (dst : Nat) (storage : Operand)
  | extract (dst : Nat) (vector index : Operand)
  | insert (dst : Nat) (vector value index : Operand)
  | call (dst : Option Nat) (symbol : String) (sig : Signature) (args : List Operand)
  /-- The value from the predecessor block the control came from. -/
  | phi (dst : Nat) (incoming : List (Operand × Nat))
  | br (target : Nat)
  | condBr (cond : Operand) (ifTrue ifFalse : Nat)
  | ret (value : Option Operand)
  | unreachable
  deriving DecidableEq, Repr, Inhabited

namespace Inst

/-- The opcode's name in listings and statistics. -/
def mnemonic : Inst → String
  | .alloca .. => "alloca"
  | .store .. => "store"
  | .load .. => "load"
  | .binary _ op _ _ => op.mnemonic
  | .fneg .. => "fneg"
  | .icmp .. => "icmp"
  | .fcmp .. => "fcmp"
  | .cast _ op _ _ => op.mnemonic
  | .elementAddress .. | .decay .. => "getelementptr"
  | .extract .. => "extractelement"
  | .insert .. => "insertelement"
  | .call .. => "call"
  | .phi .. => "phi"
  | .br .. | .condBr .. => "br"
  | .ret .. => "ret"
  | .unreachable => "unreachable"

def isTerminator : Inst → Bool
  | .br .. | .condBr .. | .ret .. | .unreachable => true
  | _ => false

end Inst

structure Block where
  label : String
  insts : Array Inst := #[]
  deriving DecidableEq, Repr, Inhabited

/-- The code of one function. -/
structure Code where
  symbol : String
  sig : Signature
  blocks : Array Block
  /-- One more than the highest register written. -/
  registers : Nat
  deriving Repr, Inhabited

/-- Every instruction of the code, block by block. -/
def Code.insts (c : Code) : List Inst := c.blocks.toList.flatMap (·.insts.toList)

/-- Whether every block ends in its only terminator. -/
def Code.wellTerminated (c : Code) : Bool :=
  c.blocks.all fun b =>
    match b.insts.back? with
    | some last => last.isTerminator && (b.insts.pop.all fun i => !i.isTerminator)
    | none => false

end TypedJit.Machine
