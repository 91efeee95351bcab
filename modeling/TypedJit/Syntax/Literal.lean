import TypedJit.Syntax.Tree
import TypedJit.Scalar.Basic

/-!
Types and values of literals: an integer is an Int32 when it fits and an Int64 otherwise, a
real is a Double, and strings have no dialect value.
-/

namespace TypedJit

namespace Literal

/-- Whether an integer fits in 32 bits. -/
def fitsInt32 (v : Int64) : Bool := -Int.pow 2 31 ≤ v.toInt && v.toInt < Int.pow 2 31

def scalarType? : Literal → Option ScalarType
  | .int v => some (if fitsInt32 v then .int32 else .int64)
  | .real _ => some .double
  | .bool _ => some .bool
  | .str _ => none

def toScalar? : Literal → Option Scalar
  | .int v => some (if fitsInt32 v then .i32 (Int32.ofInt v.toInt) else .i64 v)
  | .real w => some (.f64 w)
  | .bool b => some (.bool b)
  | .str _ => none

theorem toScalar?_ty (l : Literal) : (l.toScalar?).map Scalar.ty = l.scalarType? := by
  cases l
  case int v => by_cases h : fitsInt32 v <;> simp [toScalar?, scalarType?, h, Scalar.ty]
  all_goals rfl

end Literal

end TypedJit
