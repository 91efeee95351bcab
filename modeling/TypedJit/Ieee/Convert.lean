import TypedJit.Ieee.Format

/-!
Exact conversions of binary words: from integers (rounded to nearest even), to integers
(truncated toward zero), between formats, and the remainder `fmod`, whose result is always
representable and so needs no rounding at all.
-/

namespace TypedJit.Ieee.Format

variable (f : Format)

/-- The word nearest to the integer `n`. -/
def ofInt (n : Int) : Nat := f.round (n < 0) n.natAbs 1

/-- The value of a finite word truncated toward zero; `none` for infinities and NaNs. -/
def truncate (w : Nat) : Option Int :=
  if f.isFinite w then
    let m := f.significand w
    let s := f.scale w
    let t : Nat := if 0 ≤ s then m * Nat.pow 2 s.toNat else m / Nat.pow 2 (-s).toNat
    some (if f.negative w then -(t : Int) else t)
  else none

/-- The integer part of a word clamped to `[lo, hi]`, with NaN giving zero. -/
def truncateSat (lo hi : Int) (w : Nat) : Int :=
  if f.isNaN w then 0
  else
    match f.truncate w with
    | some t => max lo (min hi t)
    | none => if f.negative w then lo else hi

/-- Convert a word of format `f` to the nearest word of format `g`. NaNs stay NaNs, keep their
sign and as much of their payload as fits, and become quiet. -/
def convert (g : Format) (w : Nat) : Nat :=
  if f.isNaN w then
    let payload :=
      if g.fracBits ≥ f.fracBits then f.fraction w * Nat.pow 2 (g.fracBits - f.fracBits)
      else f.fraction w / Nat.pow 2 (f.fracBits - g.fracBits)
    g.quiet (g.infinity (f.negative w) + payload)
  else if f.isInf w then g.infinity (f.negative w)
  else
    let (num, den) := f.toFraction w
    g.round (f.negative w) num den

/-- The remainder of `x / y` truncated toward zero, with the sign of `x` (C `fmod`). -/
def fmod (x y : Nat) : Nat :=
  if f.isNaN x || f.isNaN y || f.isInf x || f.isZero y then f.quietNaN
  else if f.isInf y || f.isZero x then x
  else
    let sx := f.scale x
    let sy := f.scale y
    let s := min sx sy
    let mx := f.significand x * Nat.pow 2 (sx - s).toNat
    let my := f.significand y * Nat.pow 2 (sy - s).toNat
    let r := mx % my
    if 0 ≤ s then f.round (f.negative x) (r * Nat.pow 2 s.toNat) 1
    else f.round (f.negative x) r (Nat.pow 2 (-s).toNat)

end TypedJit.Ieee.Format
