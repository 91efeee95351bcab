/-!
IEEE 754 binary interchange formats at the level of bit words.

A word is a `Nat` below `2 ^ width`. Its fields are read with `/` and `%`; a finite word has the
exact magnitude `significand * 2 ^ scale`. `Format.round` goes the other way: it takes an exact
nonnegative rational `num / den` and returns the word nearest to it, ties to the even
significand, overflowing to infinity. All of it is `Nat` arithmetic, so every rule here can be
evaluated in the kernel and reasoned about without a floating-point unit.
-/

namespace TypedJit.Ieee

/-- A binary interchange format with `fracBits` stored fraction bits and `expBits` exponent
bits. -/
structure Format where
  fracBits : Nat
  expBits : Nat
  deriving DecidableEq, Repr

/-- Single precision. -/
def binary32 : Format := ⟨23, 8⟩

/-- Double precision. -/
def binary64 : Format := ⟨52, 11⟩

namespace Format

variable (f : Format)

def width : Nat := f.fracBits + f.expBits + 1

def bias : Nat := Nat.pow 2 (f.expBits - 1) - 1

/-- The all-ones exponent field of infinities and NaNs. -/
def expField : Nat := Nat.pow 2 f.expBits - 1

def signBit : Nat := Nat.pow 2 (f.fracBits + f.expBits)

/-- The hidden leading bit of a normal significand. -/
def hidden : Nat := Nat.pow 2 f.fracBits

/-- The scale of subnormals and of the smallest normals. -/
def minScale : Int := 1 - (f.bias : Int) - f.fracBits

/-- The scale of the largest finite words. -/
def maxScale : Int := (f.expField : Int) - 1 - f.bias - f.fracBits

def fraction (w : Nat) : Nat := w % f.hidden

def exponent (w : Nat) : Nat := w / f.hidden % Nat.pow 2 f.expBits

def negative (w : Nat) : Bool := w / f.signBit % 2 == 1

/-- The word with the sign bit cleared. -/
def magnitude (w : Nat) : Nat := w % f.signBit

def isNaN (w : Nat) : Bool := f.exponent w == f.expField && f.fraction w != 0

def isInf (w : Nat) : Bool := f.exponent w == f.expField && f.fraction w == 0

def isFinite (w : Nat) : Bool := f.exponent w != f.expField

def isZero (w : Nat) : Bool := f.magnitude w == 0

/-- The integer significand of a finite word, hidden bit included. -/
def significand (w : Nat) : Nat :=
  if f.exponent w = 0 then f.fraction w else f.hidden + f.fraction w

/-- The power of two that the significand of a finite word is scaled by. -/
def scale (w : Nat) : Int :=
  (max (f.exponent w) 1 : Nat) - (f.bias : Int) - f.fracBits

def zero (neg : Bool) : Nat := if neg then f.signBit else 0

def infinity (neg : Bool) : Nat := f.zero neg + f.expField * f.hidden

/-- The quiet NaN that operations produce when no operand supplies one. -/
def quietNaN : Nat := f.expField * f.hidden + f.hidden / 2

/-- Flip the sign bit; this is negation for every word, NaNs included. -/
def neg (w : Nat) : Nat :=
  if f.negative w then w - f.signBit else w + f.signBit

/-- Set the quiet bit of a NaN. -/
def quiet (w : Nat) : Nat :=
  if f.fraction w / (f.hidden / 2) % 2 = 1 then w else w + f.hidden / 2

/-- The word of sign `neg`, significand `m` and scale `s`, for `m < 2 * hidden` and a scale in
range; a significand below the hidden bit is a subnormal at the least scale. -/
def pack (neg : Bool) (m : Nat) (s : Int) : Nat :=
  if m < f.hidden then f.zero neg + m
  else f.zero neg + (s - f.minScale + 1).toNat * f.hidden + (m - f.hidden)

/-- `⌊log₂ (num / den)⌋` for positive `num` and `den`. -/
def floorLog2 (num den : Nat) : Int :=
  let k : Int := (Nat.log2 num : Int) - Nat.log2 den
  let below : Bool :=
    if 0 ≤ k then num < den * Nat.pow 2 k.toNat else num * Nat.pow 2 (-k).toNat < den
  if below then k - 1 else k

/-- Round `num / den` to an integer, a tie to the even neighbour. -/
def roundHalfEven (num den : Nat) : Nat :=
  let q := num / den
  let r := num % den
  if 2 * r > den ∨ (2 * r = den ∧ q % 2 = 1) then q + 1 else q

/-- The significand of `num / den` at scale `s`, rounded to nearest even. -/
def scaled (num den : Nat) (s : Int) : Nat :=
  if s ≤ 0 then roundHalfEven (num * Nat.pow 2 (-s).toNat) den
  else roundHalfEven num (den * Nat.pow 2 s.toNat)

/-- The word nearest to the rational `num / den` (with `den > 0`), signed by `neg`: ties go to
the even significand and magnitudes beyond the largest finite word become infinity. -/
def round (neg : Bool) (num den : Nat) : Nat :=
  if num = 0 ∨ den = 0 then f.zero neg
  else
    let s := max (floorLog2 num den - f.fracBits) f.minScale
    let m := scaled num den s
    let (m, s) := if m = 2 * f.hidden then (f.hidden, s + 1) else (m, s)
    if s > f.maxScale then f.infinity neg else f.pack neg m s

/-- The exact magnitude of a finite word as a fraction `num / den`. -/
def toFraction (w : Nat) : Nat × Nat :=
  let s := f.scale w
  if 0 ≤ s then (f.significand w * Nat.pow 2 s.toNat, 1) else (f.significand w, Nat.pow 2 (-s).toNat)

/-- IEEE comparison: `none` when either word is a NaN, and the two zeros are equal. -/
def compare (a b : Nat) : Option Ordering :=
  if f.isNaN a || f.isNaN b then none
  else
    let key (w : Nat) : Int :=
      if f.negative w then -(f.magnitude w : Int) else f.magnitude w
    some (Ord.compare (key a) (key b))

end Format

end TypedJit.Ieee
