import TypedJit.Ieee.Convert

/-!
Arithmetic on single and double words.
-/

namespace TypedJit.Ieee

namespace Single

def add (a b : UInt32) : UInt32 := (Float32.ofBits a + Float32.ofBits b).toBits
def sub (a b : UInt32) : UInt32 := (Float32.ofBits a - Float32.ofBits b).toBits
def mul (a b : UInt32) : UInt32 := (Float32.ofBits a * Float32.ofBits b).toBits
def div (a b : UInt32) : UInt32 := (Float32.ofBits a / Float32.ofBits b).toBits
def rem (a b : UInt32) : UInt32 := UInt32.ofNat (binary32.fmod a.toNat b.toNat)
def neg (a : UInt32) : UInt32 := UInt32.ofNat (binary32.neg a.toNat)

/-- The C library routine `name` (without its `f` suffix) over single words. -/
def routine (name : String) (args : List UInt32) : Option UInt32 :=
  let un := fun (g : Float32 → Float32) => match args with
    | [x] => some (g (Float32.ofBits x)).toBits
    | _ => none
  match name with
  | "sin" => un Float32.sin
  | "cos" => un Float32.cos
  | "tan" => un Float32.tan
  | "asin" => un Float32.asin
  | "acos" => un Float32.acos
  | "atan" => un Float32.atan
  | "sinh" => un Float32.sinh
  | "cosh" => un Float32.cosh
  | "tanh" => un Float32.tanh
  | "sqrt" => un Float32.sqrt
  | "exp" => un Float32.exp
  | "log" => un Float32.log
  | "log10" => un Float32.log10
  | "fabs" => un Float32.abs
  | "ceil" => un Float32.ceil
  | "floor" => un Float32.floor
  | "pow" => match args with
    | [x, y] => some (Float32.pow (Float32.ofBits x) (Float32.ofBits y)).toBits
    | _ => none
  | _ => none

end Single

namespace Double

def add (a b : UInt64) : UInt64 := (Float.ofBits a + Float.ofBits b).toBits
def sub (a b : UInt64) : UInt64 := (Float.ofBits a - Float.ofBits b).toBits
def mul (a b : UInt64) : UInt64 := (Float.ofBits a * Float.ofBits b).toBits
def div (a b : UInt64) : UInt64 := (Float.ofBits a / Float.ofBits b).toBits
def rem (a b : UInt64) : UInt64 := UInt64.ofNat (binary64.fmod a.toNat b.toNat)
def neg (a : UInt64) : UInt64 := UInt64.ofNat (binary64.neg a.toNat)

/-- The C library routine `name` over double words. -/
def routine (name : String) (args : List UInt64) : Option UInt64 :=
  let un := fun (g : Float → Float) => match args with
    | [x] => some (g (Float.ofBits x)).toBits
    | _ => none
  match name with
  | "sin" => un Float.sin
  | "cos" => un Float.cos
  | "tan" => un Float.tan
  | "asin" => un Float.asin
  | "acos" => un Float.acos
  | "atan" => un Float.atan
  | "sinh" => un Float.sinh
  | "cosh" => un Float.cosh
  | "tanh" => un Float.tanh
  | "sqrt" => un Float.sqrt
  | "exp" => un Float.exp
  | "log" => un Float.log
  | "log10" => un Float.log10
  | "fabs" => un Float.abs
  | "ceil" => un Float.ceil
  | "floor" => un Float.floor
  | "pow" => match args with
    | [x, y] => some (Float.pow (Float.ofBits x) (Float.ofBits y)).toBits
    | _ => none
  | _ => none

end Double

end TypedJit.Ieee
