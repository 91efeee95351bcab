import TypedJit.Machine.Semantics
import TypedJit.Scope
import TypedJit.Session

/-!
Emitting code for one function.
-/

namespace TypedJit.Codegen

open Machine

/-- An addressable location that assignments store into. -/
inductive Slot where
  /-- Memory holding a value of `ty`. -/
  | memory (ty : Ty) (ptr : Operand)
  /-- Lane `lane` of the vector variable whose storage is register `storage`. -/
  | lane (storage : Nat) (vector : Ty) (lane : Operand)
  deriving Repr

def Slot.ty : Slot → Ty
  | .memory t _ => t
  | .lane _ v _ => (v.element.map Ty.scalar).getD .void

/-- A typed value met while generating code. -/
inductive TValue where
  | const (c : Scalar)
  /-- A variable; `ptr` is the register holding its storage address. -/
  | var (ty : Ty) (ptr : Nat)
  | temp (ty : Ty) (v : Operand)
  | slot (s : Slot)
  /-- The result of calling a Void function. -/
  | void
  deriving Repr

def TValue.ty : TValue → Ty
  | .const c => .scalar c.ty
  | .var t _ | .temp t _ => t
  | .slot s => s.ty
  | .void => .void

/-- The slot an assignment to this value would store into. -/
def TValue.asSlot? : TValue → Option Slot
  | .var t p => some (.memory t (.reg p))
  | .slot s => some s
  | _ => none

structure GenState where
  blocks : Array Block
  /-- Stack slots and their zero stores, which precede the entry block's instructions. -/
  entryPrefix : List Inst := []
  current : Nat := 0
  nextReg : Nat
  /-- The number appended to the next block's label. -/
  blockCounter : Nat := 0
  callees : List Nat := []
  scope : Scope Nat
  /-- The functions the module refers to, with their machine parameter and result types. -/
  declared : List (String × List Mty × Option Mty)

abbrev Gen := StateT GenState (ExceptT CompileError (StateM SessionStats))

namespace Gen

def fail {α : Type} (kind : ErrorKind) (message : String) (span : Span) : Gen α :=
  throw ⟨kind, message, span, none⟩

def lift {α : Type} (x : Except CompileError α) : Gen α :=
  match x with
  | .ok a => pure a
  | .error e => throw e

def mapError {α : Type} (f : CompileError → CompileError) (x : Gen α) : Gen α :=
  tryCatch x fun e => throw (f e)

def record (f : SessionStats → SessionStats) : Gen Unit :=
  monadLift (modify f : StateM SessionStats Unit)

end Gen

def fresh : Gen Nat := do
  let st ← get
  set { st with nextReg := st.nextReg + 1 }
  pure st.nextReg

def emit (i : Inst) : Gen Unit :=
  modify fun st => { st with blocks := st.blocks.modify st.current fun b =>
    { b with insts := b.insts.push i } }

def emitValue (mk : Nat → Inst) : Gen Operand := do
  let r ← fresh
  emit (mk r)
  pure (.reg r)

/-- Append a block labelled `label_n`, numbering blocks in creation order. -/
def appendBlock (label : String) : Gen Nat := do
  let st ← get
  set { st with
    blocks := st.blocks.push { label := s!"{label}_{st.blockCounter}" }
    blockCounter := st.blockCounter + 1 }
  Gen.record SessionStats.recordBlock
  pure st.blocks.size

def positionAt (b : Nat) : Gen Unit := modify fun st => { st with current := b }

def currentBlock : Gen Nat := do pure (← get).current

/-- Whether the current block already ends in a terminator. -/
def isTerminated : Gen Bool := do
  let st ← get
  pure <| match (st.blocks[st.current]?).bind (·.insts.back?) with
    | some i => i.isTerminator
    | none => false

/-- Zero-initialised stack storage for a variable of type `ty`, placed at the entry's start. -/
def allocaFor (ty : Ty) (name : String) (span : Span) : Gen Nat := do
  let some t := Mty.storage ty |
    Gen.fail .invalidUseOfConstruct s!"cannot declare `{name}` as Void" span
  let r ← fresh
  modify fun st => { st with entryPrefix := [.alloca r t, .store (.const (Word.zeroOf t)) (.reg r)] ++ st.entryPrefix }
  pure r

/-! ## Operations, folded on constants -/

/-- Whether a constant is an integer scalar with every bit set. -/
def isAllOnesInt : Word → Bool
  | .scalar c => !c.ty.isReal && c.toBits + 1 == Nat.pow 2 c.ty.bits
  | _ => false

/-- Whether a constant is zero: a zero integer, or a vector of zero lanes. -/
def isNullInt : Word → Bool
  | .scalar c => !c.ty.isReal && c.toBits == 0
  | .vector _ lanes => lanes.all fun l => (l.map fun c => !c.ty.isReal && c.toBits == 0).getD false
  | _ => false

def binary (op : BinaryOp) (l r : Operand) : Gen Operand :=
  match op, r with
  | .and, .const w => if isAllOnesInt w then pure l else folded
  | .or, .const w => if isNullInt w then pure l else folded
  | _, _ => folded
where
  folded : Gen Operand :=
    match l, r with
    | .const a, .const b => pure (.const (binaryWord op a b))
    | _, _ => emitValue (.binary · op l r)

/-- `0 - x` -/
def negate (t : Mty) (x : Operand) : Gen Operand := binary .sub (.const (Word.zeroOf t)) x

/-- `x ^ -1` -/
def invert (t : Mty) (x : Operand) : Gen Operand := binary .xor x (.const (Word.allOnes t))

def fneg (x : Operand) : Gen Operand :=
  match x with
  | .const w => pure (.const (negWord w))
  | _ => emitValue (.fneg · x)

def icmp (p : IntPred) (l r : Operand) : Gen Operand :=
  match l, r with
  | .const a, .const b => pure (.const (icmpWord p a b))
  | _, _ => emitValue (.icmp · p l r)

def fcmp (p : RealPred) (l r : Operand) : Gen Operand :=
  match l, r with
  | .const a, .const b => pure (.const (fcmpWord p a b))
  | _, _ => emitValue (.fcmp · p l r)

def castOp (op : CastOp) (x : Operand) (target : Mty) : Gen Operand :=
  match x with
  | .const w => pure (.const (castWord op w target))
  | _ => emitValue (.cast · op x target)

def extract (v i : Operand) : Gen Operand :=
  match v, i with
  | .const a, .const b => pure (.const (extractWord a b))
  | _, _ => emitValue (.extract · v i)

def insert (v x i : Operand) : Gen Operand :=
  match v, x, i with
  | .const a, .const b, .const c => pure (.const (insertWord a b c))
  | _, _, _ => emitValue (.insert · v x i)

def load (t : Mty) (ptr : Operand) : Gen Operand := emitValue (.load · t ptr)

def store (v ptr : Operand) : Gen Unit := emit (.store v ptr)

def elementAddress (base index : Operand) : Gen Operand := emitValue (.elementAddress · base index)

def decay (storage : Operand) : Gen Operand := emitValue (.decay · storage)

/-- An index constant. -/
def indexConst (i : Nat) : Operand := .const (.scalar (.i64 (Int64.ofNat i)))

/-! ## Values -/

def valueType (ty : Ty) : Gen Mty :=
  match Mty.ofTy ty with
  | some t => pure t
  | none => Gen.fail .invalidOperation "Void has no value" .unknown

def Slot.load : Slot → Gen Operand
  | .memory (.array ..) ptr => decay ptr
  | .memory ty ptr => do Codegen.load (← valueType ty) ptr
  | .lane storage vector idx => do
    let v ← Codegen.load (← valueType vector) (.reg storage)
    extract v idx

/-- Store a value already converted to the slot's type. -/
def Slot.store (s : Slot) (value : Operand) : Gen Unit :=
  match s with
  | .memory (.array ..) _ =>
    Gen.fail .invalidOperation "cannot assign to a bounded array as a whole" .unknown
  | .memory _ ptr => Codegen.store value ptr
  | .lane storage vector idx => do
    let v ← Codegen.load (← valueType vector) (.reg storage)
    let updated ← insert v value idx
    Codegen.store updated (.reg storage)

/-- The operand of a value, loading variables and slots. -/
def materialize : TValue → Gen Operand
  | .const c => pure (.const (.scalar c))
  | .var (.array ..) ptr => decay (.reg ptr)
  | .var ty ptr => do load (← valueType ty) (.reg ptr)
  | .temp _ v => pure v
  | .slot s => s.load
  | .void => Gen.fail .invalidOperation "a Void result has no value" .unknown

/-- Convert a scalar operand between scalar types with the fewest instructions. -/
def castScalar (raw : Operand) (src dst : ScalarType) : Gen Operand :=
  let zero : Operand := .const (.scalar (Scalar.zero src))
  if src = dst then pure raw
  else if dst = .bool then
    if src.isReal then fcmp .une raw zero else icmp .ne raw zero
  else
    match src.isReal, dst.isReal with
    | false, false =>
      if src = .bool then castOp .zext raw (.scalar dst)
      else if src.bits = dst.bits then pure raw
      else castOp (if dst.bits < src.bits then .trunc else .sext) raw (.scalar dst)
    | false, true => castOp (if src = .bool then .uitofp else .sitofp) raw (.scalar dst)
    | true, false => castOp .fptosi raw (.scalar dst)
    | true, true => castOp (if dst.bits > src.bits then .fpext else .fptrunc) raw (.scalar dst)

/-- Replicate a scalar into every lane of a vector. -/
def broadcast (laneValue : Operand) (elem : ScalarType) (count : Nat) : Gen Operand :=
  (List.range count).foldlM (fun v i => insert v laneValue (indexConst i))
    (.const (.vector elem (List.replicate count none)))

/-- Convert a value to `target` with the dialect's cast rules. A constant converted to a scalar type
is converted at once. -/
def castValue (v : TValue) (target : Ty) (span : Span) : Gen Operand := do
  let src := v.ty
  if !castable src target then throw (.invalidCast (toString src) (toString target) span)
  if let .const c := v then
    if let .scalar t := target then return .const (.scalar (c.cast t))
  let raw ← Gen.mapError (·.atIfUnknown span) (materialize v)
  if src = target then return raw
  match src, target with
  | .scalar s, .scalar d => castScalar raw s d
  | .scalar s, .vector e n => do
    let laneValue ← castScalar raw s e
    broadcast laneValue e n
  | _, _ => pure raw

end TypedJit.Codegen
