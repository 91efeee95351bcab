import TypedJit.Interpreter.Value
import TypedJit.Ieee.Arith

/-!
Operators on scalars as the reference interpreter evaluates them.
-/

namespace TypedJit

open Ieee

/-- `operator `…` is not defined for … operands` -/
def undefinedFor (symbol kind : String) (span : Span) : RunError :=
  .compile ⟨.invalidOperation, s!"operator `{symbol}` is not defined for {kind} operands", span, none⟩

/-- The kind of a scalar type as operator messages name it. -/
def ScalarType.kindName (s : ScalarType) : String :=
  if s.isBool then "Bool" else if s.isReal then "real" else "integer"

/-- A real operator on two words of one precision. -/
def realBinary {α : Type} (add sub mul div rem : α → α → α) (op : BinOp) (x y : α)
    (span : Span) : Except RunError α :=
  match op with
  | .add => .ok (add x y)
  | .sub => .ok (sub x y)
  | .mul => .ok (mul x y)
  | .div => .ok (div x y)
  | .mod => .ok (rem x y)
  | _ => .error (undefinedFor op.symbol "real" span)

/-- A binary operator on two scalars of one type. -/
def binaryScalar (op : BinOp) (a b : Scalar) (span : Span) : Except RunError Scalar :=
  let ty := a.ty
  if ty.isBool then
    let (x, y) := (a.truthy, b.truthy)
    match op with
    | .bitAnd => .ok (.bool (x && y))
    | .bitOr => .ok (.bool (x || y))
    | .bitXor => .ok (.bool (x ^^ y))
    | _ => .error (undefinedFor op.symbol "Bool" span)
  else
    match a, b with
    | .f32 x, .f32 y =>
      .f32 <$> realBinary Single.add Single.sub Single.mul Single.div Single.rem op x y span
    | _, _ =>
      if ty.isReal then
        .f64 <$> realBinary Double.add Double.sub Double.mul Double.div Double.rem op
          a.toDouble b.toDouble span
      else
        let x := Int64.ofInt a.toInt
        let y := Int64.ofInt b.toInt
        let v : Except RunError Int64 := match op with
          | .add => .ok (x + y)
          | .sub => .ok (x - y)
          | .mul => .ok (x * y)
          | .div => if y == 0 then .error (.divisionByZero span) else .ok (x / y)
          | .mod => if y == 0 then .error (.divisionByZero span) else .ok (x % y)
          | .bitAnd => .ok (x &&& y)
          | .bitOr => .ok (x ||| y)
          | .bitXor => .ok (x ^^^ y)
          | .shl => .ok (x <<< y)
          | .shr => .ok (x >>> y)
        v.map fun r => (Scalar.i64 r).cast ty

/-- A comparison of two scalars of one type. -/
def compareScalar (op : CmpOp) (a b : Scalar) (span : Span) : Except RunError Bool :=
  let ty := a.ty
  if ty.isBool then
    let (x, y) := (a.truthy, b.truthy)
    match op with
    | .eq => .ok (x == y)
    | .ne => .ok (x != y)
    | _ => .error (undefinedFor op.symbol "Bool" span)
  else if ty.isReal then
    let c := binary64.compare a.toDouble.toNat b.toDouble.toNat
    .ok <| match op with
      | .eq => c == some .eq
      | .ne => c != some .eq
      | .lt => c == some .lt
      | .le => c == some .lt || c == some .eq
      | .gt => c == some .gt
      | .ge => c == some .gt || c == some .eq
  else
    let (x, y) := (a.toInt, b.toInt)
    .ok <| match op with
      | .eq => x == y
      | .ne => x != y
      | .lt => decide (x < y)
      | .le => decide (x ≤ y)
      | .gt => decide (x > y)
      | .ge => decide (x ≥ y)

/-- `-`, `+` and `~` on a scalar; `not` is decided on truth values before this. -/
def unaryScalar (op : UnaryOp) (s : Scalar) (span : Span) : Except RunError Scalar :=
  let ty := s.ty
  match op, s with
  | _, .bool _ => .error (undefinedFor op.symbol ty.kindName span)
  | .plus, s => .ok s
  | .neg, .f32 w => .ok (.f32 (Single.neg w))
  | .neg, .f64 w => .ok (.f64 (Double.neg w))
  | .neg, s => .ok ((Scalar.i64 (-(Int64.ofInt s.toInt))).cast ty)
  | .invert, s =>
    if ty.isInteger then .ok ((Scalar.i64 (~~~(Int64.ofInt s.toInt))).cast ty)
    else .error (undefinedFor op.symbol ty.kindName span)
  | .not, _ => .error (undefinedFor op.symbol ty.kindName span)

/-- The reference implementation of a builtin, chosen by its symbol and return type:
`putchar` writes the low byte of its argument and returns it; a Float routine is named with an
`f` suffix and a Double routine without. -/
def builtinScalar (f : FunctionRef) (xs : List Scalar) :
    Except RunError (Scalar × Option UInt8) :=
  let unknown : RunError := .unknownBuiltin f.symbol
  if f.symbol == "putchar" then
    match xs with
    | [c] =>
      let code := UInt8.ofNat (c.toInt % 256).toNat
      .ok (.i32 (Int32.ofNat code.toNat), some code)
    | _ => .error unknown
  else
    match f.sig.ret with
    | .scalar .float =>
      if f.symbol.endsWith "f" then
        let name := String.ofList (f.symbol.toList.dropLast)
        let args := xs.map fun x =>
          UInt32.ofNat (binary64.convert binary32 x.toDouble.toNat)
        match Single.routine name args with
        | some r => .ok (.f32 r, none)
        | none => .error unknown
      else .error unknown
    | .scalar .double =>
      match Double.routine f.symbol (xs.map Scalar.toDouble) with
      | some r => .ok (.f64 r, none)
      | none => .error unknown
    | _ => .error unknown

end TypedJit
