/-!
The dialect's types.

Scalars are Bool, four signed integer widths, Float and Double, ordered by a promotion rank.
Composite types are fixed-width vectors (values), bounded arrays (stack storage), and unbounded
arrays and slices (pointers into memory). `coerce` gives the common type of a binary operation's
operands, `castable` the conversions the dialect allows.
-/

namespace TypedJit

/-- Scalar element types, in promotion order. -/
inductive ScalarType where
  | bool
  | int8
  | int16
  | int32
  | int64
  | float
  | double
  deriving DecidableEq, Repr, Inhabited

namespace ScalarType

def all : List ScalarType := [.bool, .int8, .int16, .int32, .int64, .float, .double]

/-- Promotion rank: the higher rank wins in a binary operation. -/
def rank : ScalarType → Nat
  | .bool => 1
  | .int8 => 2
  | .int16 => 3
  | .int32 => 4
  | .int64 => 5
  | .float => 6
  | .double => 7

/-- Width of the machine representation in bits. -/
def bits : ScalarType → Nat
  | .bool => 1
  | .int8 => 8
  | .int16 => 16
  | .int32 => 32
  | .float => 32
  | .int64 => 64
  | .double => 64

/-- Size of one element in memory and at the native boundary. -/
def byteSize : ScalarType → Nat
  | .bool => 1
  | s => s.bits / 8

def isInteger : ScalarType → Bool
  | .int8 | .int16 | .int32 | .int64 => true
  | _ => false

def isReal : ScalarType → Bool
  | .float | .double => true
  | _ => false

def isBool (s : ScalarType) : Bool := s == .bool

/-- All dialect integers are signed; Bool is an unsigned bit. -/
def isSigned (s : ScalarType) : Bool := s.isInteger

def name : ScalarType → String
  | .bool => "Bool"
  | .int8 => "Int8"
  | .int16 => "Int16"
  | .int32 => "Int32"
  | .int64 => "Int64"
  | .float => "Float"
  | .double => "Double"

instance : ToString ScalarType := ⟨name⟩

/-- The higher-ranked of two scalar types; the first on equal rank. -/
def promote (a b : ScalarType) : ScalarType := if b.rank > a.rank then b else a

theorem rank_injective {a b : ScalarType} (h : a.rank = b.rank) : a = b := by
  cases a <;> cases b <;> simp_all [rank]

end ScalarType

/-- A dialect type. Element counts of vectors and bounded arrays lie in `[1, 2 ^ 32)` when
built through `Ty.vector?` and `Ty.array?`. -/
inductive Ty where
  | void
  | scalar (s : ScalarType)
  /-- A fixed-width SIMD value. -/
  | vector (elem : ScalarType) (count : Nat)
  /-- Stack storage whose length is known when compiling. -/
  | array (elem : ScalarType) (count : Nat)
  /-- A pointer to elements; the length travels separately. -/
  | unbounded (elem : ScalarType)
  /-- A view into an array from some offset on. -/
  | slice (elem : ScalarType)
  deriving DecidableEq, Repr, Inhabited

/-- Why a composite type cannot be formed. -/
inductive CountError where
  | nonPositive (n : Int)
  | tooLarge (n : Int)
  deriving DecidableEq, Repr

def CountError.message : CountError → String
  | .nonPositive n => s!"element count must be positive, got {n}"
  | .tooLarge n => s!"element count {n} is too large"

/-- An element count, which must be positive and fit in 32 bits. -/
def checkedCount (n : Int) : Except CountError Nat :=
  if n ≤ 0 then .error (.nonPositive n)
  else if n ≥ Int.pow 2 32 then .error (.tooLarge n)
  else .ok n.toNat

namespace Ty

def bool : Ty := .scalar .bool
def int32 : Ty := .scalar .int32
def int64 : Ty := .scalar .int64
def double : Ty := .scalar .double

def vector? (elem : ScalarType) (n : Int) : Except CountError Ty :=
  (checkedCount n).map (Ty.vector elem)

def array? (elem : ScalarType) (n : Int) : Except CountError Ty :=
  (checkedCount n).map (Ty.array elem)

/-- Promotion rank; composite types rank as their element, Void as 0. -/
def rank : Ty → Nat
  | .void => 0
  | .scalar s => s.rank
  | .vector e _ | .array e _ | .unbounded e | .slice e => e.rank

def isVoid : Ty → Bool
  | .void => true
  | _ => false

def scalar? : Ty → Option ScalarType
  | .scalar s => some s
  | _ => none

/-- Element type of vectors and array-like types. -/
def element : Ty → Option ScalarType
  | .vector e _ | .array e _ | .unbounded e | .slice e => some e
  | _ => none

/-- Arrays of every flavour, indexed through memory. -/
def isArrayLike : Ty → Bool
  | .array .. | .unbounded _ | .slice _ => true
  | _ => false

def isVector : Ty → Bool
  | .vector .. => true
  | _ => false

/-- The element kind that selects an operator's implementation. -/
def operandKind : Ty → Option ScalarType
  | .scalar s => some s
  | .vector e _ => some e
  | _ => none

def render : Ty → String
  | .void => "Void"
  | .scalar s => s.name
  | .vector e n => s!"Vector({e.name}, {n})"
  | .array e n => s!"Array({e.name}, {n})"
  | .unbounded e => s!"Array({e.name})"
  | .slice e => s!"Slice({e.name})"

instance : ToString Ty := ⟨render⟩

end Ty

/-- The common type of a binary operation's operands: two scalars promote; a vector absorbs a
scalar, which is later broadcast; two vectors must be equal. -/
def coerce : Ty → Ty → Option Ty
  | .scalar x, .scalar y => some (.scalar (x.promote y))
  | .vector e n, .scalar _ => some (.vector e n)
  | .scalar _, .vector e n => some (.vector e n)
  | .vector e n, .vector e' n' => if e = e' ∧ n = n' then some (.vector e n) else none
  | _, _ => none

/-- Whether a value of type `src` converts to `dst`: every type to itself, scalars among each
other and into vectors, and every array flavour into unbounded arrays and slices of the same
element. -/
def castable (src dst : Ty) : Bool :=
  if src = dst then true
  else
    match src, dst with
    | .scalar _, .scalar _ => true
    | .scalar _, .vector .. => true
    | .array a _, .unbounded b | .array a _, .slice b => a == b
    | .unbounded a, .unbounded b | .unbounded a, .slice b => a == b
    | .slice a, .unbounded b | .slice a, .slice b => a == b
    | _, _ => false

end TypedJit
