import TypedJit.Machine.Ir
import TypedJit.Ieee.Arith

/-!
What machine operations compute.
-/

namespace TypedJit.Machine

open Ieee

/-- The scalar of type `s` holding the low bits of `n`. -/
def wrap (s : ScalarType) (n : Int) : Scalar :=
  if s = .bool then .bool (n % 2 != 0) else Scalar.ofInt s n

/-- The least value of an integer type. -/
def intMin (s : ScalarType) : Int := -Int.pow 2 (s.bits - 1)

/-- Whether a signed quotient of `x` by `y` at type `s` is undefined: a zero divisor, or the
least value divided by `-1`. -/
def undefinedQuotient (s : ScalarType) (x y : Int) : Bool :=
  y == 0 || (x == intMin s && y == -1)

def intBinary (op : BinaryOp) (s : ScalarType) (a b : Scalar) : Option Scalar :=
  match op with
  | .add => some (wrap s (a.toInt + b.toInt))
  | .sub => some (wrap s (a.toInt - b.toInt))
  | .mul => some (wrap s (a.toInt * b.toInt))
  | .sdiv =>
    if undefinedQuotient s a.toInt b.toInt then none else some (wrap s (a.toInt.tdiv b.toInt))
  | .srem =>
    if undefinedQuotient s a.toInt b.toInt then none else some (wrap s (a.toInt.tmod b.toInt))
  | .and => some (wrap s (a.toBits &&& b.toBits : Nat))
  | .or => some (wrap s (a.toBits ||| b.toBits : Nat))
  | .xor => some (wrap s (a.toBits ^^^ b.toBits : Nat))
  | .shl => if b.toBits ≥ s.bits then none else some (wrap s (a.toBits * Nat.pow 2 b.toBits : Nat))
  | .ashr => if b.toBits ≥ s.bits then none else some (wrap s (a.toInt / (Nat.pow 2 b.toBits : Nat)))
  | _ => none

def realBinary (op : BinaryOp) (a b : Scalar) : Option Scalar :=
  match a, b with
  | .f32 x, .f32 y => (Scalar.f32 ·) <$> match op with
    | .fadd => some (Single.add x y)
    | .fsub => some (Single.sub x y)
    | .fmul => some (Single.mul x y)
    | .fdiv => some (Single.div x y)
    | .frem => some (Single.rem x y)
    | _ => none
  | .f64 x, .f64 y => (Scalar.f64 ·) <$> match op with
    | .fadd => some (Double.add x y)
    | .fsub => some (Double.sub x y)
    | .fmul => some (Double.mul x y)
    | .fdiv => some (Double.div x y)
    | .frem => some (Double.rem x y)
    | _ => none
  | _, _ => none

def BinaryOp.isReal : BinaryOp → Bool
  | .fadd | .fsub | .fmul | .fdiv | .frem => true
  | _ => false

def binaryScalar (op : BinaryOp) (a b : Scalar) : Option Scalar :=
  if a.ty ≠ b.ty then none
  else if op.isReal then realBinary op a b
  else if a.ty.isReal then none
  else intBinary op a.ty a b

/-- Combine two vectors lane by lane; an undefined lane gives an undefined lane. -/
def lanewise (f : Scalar → Scalar → Option Scalar) (xs ys : List (Option Scalar)) :
    List (Option Scalar) :=
  List.zipWith (fun x y => do f (← x) (← y)) xs ys

def binaryWord (op : BinaryOp) (a b : Word) : Word :=
  match a, b with
  | .scalar x, .scalar y => ((binaryScalar op x y).map Word.scalar).getD .poison
  | .vector e xs, .vector _ ys =>
    if xs.length = ys.length then .vector e (lanewise (binaryScalar op) xs ys) else .poison
  | _, _ => .poison

/-- Whether running a division is itself undefined rather than merely without a value: a signed
division or remainder whose divisor is zero or undefined, or that divides the least value by
`-1`, in any lane. -/
def divisionTraps (op : BinaryOp) (a b : Word) : Bool :=
  let traps (x : Option Scalar) (y : Option Scalar) : Bool :=
    match x, y with
    | _, none => true
    | some x, some y => undefinedQuotient x.ty x.toInt y.toInt
    | none, some y => y.toInt == 0
  match op with
  | .sdiv | .srem =>
    match a, b with
    | .scalar x, .scalar y => traps (some x) (some y)
    | .vector _ xs, .vector _ ys => (List.zipWith traps xs ys).any id
    | .poison, .scalar y => traps none (some y)
    | _, _ => true
  | _ => false

def negWord : Word → Word
  | .scalar (.f32 w) => .scalar (.f32 (Single.neg w))
  | .scalar (.f64 w) => .scalar (.f64 (Double.neg w))
  | .vector e lanes => .vector e (lanes.map fun l => l.bind fun
      | .f32 w => some (.f32 (Single.neg w))
      | .f64 w => some (.f64 (Double.neg w))
      | _ => none)
  | _ => .poison

def IntPred.holds (p : IntPred) (a b : Scalar) : Bool :=
  match p with
  | .eq => a.toInt == b.toInt
  | .ne => a.toInt != b.toInt
  | .slt => decide (a.toInt < b.toInt)
  | .sle => decide (a.toInt ≤ b.toInt)
  | .sgt => decide (a.toInt > b.toInt)
  | .sge => decide (a.toInt ≥ b.toInt)

def RealPred.holds (p : RealPred) (a b : Scalar) : Bool :=
  let c := binary64.compare a.toDouble.toNat b.toDouble.toNat
  match p with
  | .oeq => c == some .eq
  | .une => c != some .eq
  | .olt => c == some .lt
  | .ole => c == some .lt || c == some .eq
  | .ogt => c == some .gt
  | .oge => c == some .gt || c == some .eq

def icmpWord (p : IntPred) : Word → Word → Word
  | .scalar x, .scalar y => .scalar (.bool (p.holds x y))
  | _, _ => .poison

def fcmpWord (p : RealPred) : Word → Word → Word
  | .scalar x, .scalar y => .scalar (.bool (p.holds x y))
  | _, _ => .poison

/-- The format of a real type. -/
def realFormat (s : ScalarType) : Format := if s = .float then binary32 else binary64

def castScalar (op : CastOp) (x : Scalar) (target : ScalarType) : Option Scalar :=
  match op with
  | .trunc => some (wrap target x.toBits)
  | .sext => some (Scalar.ofInt target x.toInt)
  | .zext => some (Scalar.ofInt target x.toBits)
  | .sitofp => some (Scalar.ofInt target x.toInt)
  | .uitofp => some (Scalar.ofInt target x.toBits)
  | .fptosi =>
    (realFormat x.ty).truncate x.toBits |>.bind fun n =>
      let (lo, hi) := Scalar.bounds target
      if lo ≤ n ∧ n ≤ hi then some (Scalar.ofInt target n) else none
  | .fpext | .fptrunc => some (x.cast target)

def castWord (op : CastOp) (w : Word) (target : Mty) : Word :=
  match w, target with
  | .scalar x, .scalar s => ((castScalar op x s).map Word.scalar).getD .poison
  | .vector _ lanes, .vector s _ => .vector s (lanes.map (·.bind (castScalar op · s)))
  | _, _ => .poison

/-- The lane an index selects, if it is within `n`. -/
def laneOf (index : Word) (n : Nat) : Option Nat :=
  match index with
  | .scalar i => if i.toBits < n then some i.toBits else none
  | _ => none

def extractWord (v index : Word) : Word :=
  match v with
  | .vector _ lanes =>
    match laneOf index lanes.length with
    | some i => ((lanes[i]?).bind id).elim .poison .scalar
    | none => .poison
  | _ => .poison

def insertWord (v x index : Word) : Word :=
  match v, x with
  | .vector e lanes, .scalar c =>
    match laneOf index lanes.length with
    | some i => .vector e (lanes.set i (some c))
    | none => .poison
  | _, _ => .poison

end TypedJit.Machine
