import TypedJit.Types.Basic
import TypedJit.Ieee.Decimal

/-!
Typed scalar values.
-/

namespace TypedJit

open Ieee

/-- A typed scalar value. Reals are held as their IEEE bit words. -/
inductive Scalar where
  | bool (b : Bool)
  | i8 (v : Int8)
  | i16 (v : Int16)
  | i32 (v : Int32)
  | i64 (v : Int64)
  | f32 (bits : UInt32)
  | f64 (bits : UInt64)
  deriving DecidableEq, Repr, Inhabited

namespace Scalar

def ty : Scalar → ScalarType
  | .bool _ => .bool
  | .i8 _ => .int8
  | .i16 _ => .int16
  | .i32 _ => .int32
  | .i64 _ => .int64
  | .f32 _ => .float
  | .f64 _ => .double

/-- The integer of type `s` that wraps `n` to its width; Bool is `n ≠ 0`; reals round `n`. -/
def ofInt (s : ScalarType) (n : Int) : Scalar :=
  match s with
  | .bool => .bool (n != 0)
  | .int8 => .i8 (Int8.ofInt n)
  | .int16 => .i16 (Int16.ofInt n)
  | .int32 => .i32 (Int32.ofInt n)
  | .int64 => .i64 (Int64.ofInt n)
  | .float => .f32 (UInt32.ofNat (binary32.ofInt n))
  | .double => .f64 (UInt64.ofNat (binary64.ofInt n))

/-- The least and greatest value of an integer type. -/
def bounds : ScalarType → Int × Int
  | .int8 => (-Int.pow 2 7, Int.pow 2 7 - 1)
  | .int16 => (-Int.pow 2 15, Int.pow 2 15 - 1)
  | .int32 => (-Int.pow 2 31, Int.pow 2 31 - 1)
  | _ => (-Int.pow 2 63, Int.pow 2 63 - 1)

/-- The integer view, sign-extended: Bool is 0 or 1, and reals truncate, clamped to 64 bits. -/
def toInt : Scalar → Int
  | .bool b => if b then 1 else 0
  | .i8 v => v.toInt
  | .i16 v => v.toInt
  | .i32 v => v.toInt
  | .i64 v => v.toInt
  | .f32 w => binary32.truncateSat (-Int.pow 2 63) (Int.pow 2 63 - 1) w.toNat
  | .f64 w => binary64.truncateSat (-Int.pow 2 63) (Int.pow 2 63 - 1) w.toNat

/-- The double view: Bool is 0 or 1, Float widens exactly, integers round. -/
def toDouble : Scalar → UInt64
  | .bool b => if b then 0x3FF0000000000000 else 0
  | .f32 w => UInt64.ofNat (binary32.convert binary64 w.toNat)
  | .f64 w => w
  | s => UInt64.ofNat (binary64.ofInt s.toInt)

/-- Whether the value differs from zero; a NaN does. -/
def truthy : Scalar → Bool
  | .bool b => b
  | .f32 w => !binary32.isZero w.toNat
  | .f64 w => !binary64.isZero w.toNat
  | s => s.toInt != 0

/-- Convert to `dst` with the dialect's cast rules. -/
def cast (x : Scalar) (dst : ScalarType) : Scalar :=
  if x.ty = dst then x
  else if dst = .bool then .bool x.truthy
  else if x.ty.isReal then
    let w := x.toDouble.toNat
    match dst with
    | .float => .f32 (UInt32.ofNat (binary64.convert binary32 w))
    | .double => .f64 (UInt64.ofNat w)
    | s =>
      let (lo, hi) := bounds s
      ofInt s (binary64.truncateSat lo hi w)
  else ofInt dst x.toInt

/-- The zero of a scalar type. -/
def zero (s : ScalarType) : Scalar := (Scalar.i64 0).cast s

/-- The unsigned bit pattern of the value in its width. -/
def toBits (x : Scalar) : Nat :=
  match x with
  | .bool b => if b then 1 else 0
  | .f32 w => w.toNat
  | .f64 w => w.toNat
  | _ => (x.toInt % Int.pow 2 x.ty.bits).toNat

/-- The value as stored in memory: `byteSize` bytes, least significant first. -/
def toBytes (x : Scalar) : List UInt8 :=
  (List.range x.ty.byteSize).map fun i => UInt8.ofNat (x.toBits / Nat.pow 256 i)

/-- Little-endian number of a byte list. -/
def bytesValue : List UInt8 → Nat
  | [] => 0
  | b :: rest => b.toNat + 256 * bytesValue rest

/-- Read a scalar of type `s` from the first `byteSize` bytes; `none` when there are fewer. A
Bool is any nonzero byte. -/
def ofBytes? (s : ScalarType) (bytes : List UInt8) : Option Scalar :=
  if bytes.length < s.byteSize then none
  else
    let n := bytesValue (bytes.take s.byteSize)
    some <| match s with
      | .bool => .bool (n != 0)
      | .int8 => .i8 (Int8.ofNat n)
      | .int16 => .i16 (Int16.ofNat n)
      | .int32 => .i32 (Int32.ofNat n)
      | .int64 => .i64 (Int64.ofNat n)
      | .float => .f32 (UInt32.ofNat n)
      | .double => .f64 (UInt64.ofNat n)

/-- The text of a value: `True`, `-3`, `0.5`, `NaN`; reals in shortest positional form. -/
def render : Scalar → String
  | .bool b => if b then "True" else "False"
  | .f32 w => binary32.plain w.toNat
  | .f64 w => binary64.plain w.toNat
  | x => toString x.toInt

/-- The name of a value's variant: `Bool`, `I8`, …, `F64`. -/
def tag (x : Scalar) : String :=
  match x.ty with
  | .bool => "Bool"
  | .int8 => "I8"
  | .int16 => "I16"
  | .int32 => "I32"
  | .int64 => "I64"
  | .float => "F32"
  | .double => "F64"

/-- The tagged text of a value: `Bool(true)`, `I32(5)`, `F64(5.0)`, `F64(NaN)`. -/
def tagged : Scalar → String
  | .bool b => s!"Bool({b})"
  | .i8 v => s!"I8({v.toInt})"
  | .i16 v => s!"I16({v.toInt})"
  | .i32 v => s!"I32({v.toInt})"
  | .i64 v => s!"I64({v.toInt})"
  | .f32 w => s!"F32({binary32.general w.toNat})"
  | .f64 w => s!"F64({binary64.general w.toNat})"

/-- IEEE equality of values: reals compare as numbers (a NaN equals nothing, the zeros are
equal), everything else by value. -/
def sameValue : Scalar → Scalar → Bool
  | .f32 a, .f32 b => binary32.compare a.toNat b.toNat == some .eq
  | .f64 a, .f64 b => binary64.compare a.toNat b.toNat == some .eq
  | a, b => a == b

end Scalar

end TypedJit
