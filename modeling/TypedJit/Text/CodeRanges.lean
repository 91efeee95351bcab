/-!
Sets of Unicode code points given as sorted lists of inclusive ranges.
-/

namespace TypedJit.Text

/-- A set of code points as inclusive ranges `(first, last)`, in increasing order. -/
abbrev CodeRanges := List (Nat × Nat)

/-- Whether the code point `n` lies in one of the ranges. The ranges increase, so the search
stops at the first range that starts above `n`. -/
def CodeRanges.contains : CodeRanges → Nat → Bool
  | [], _ => false
  | (lo, hi) :: rest, n => if n < lo then false else if n ≤ hi then true else contains rest n

theorem CodeRanges.contains_of_lt {lo hi n : Nat} (rest : CodeRanges) (h : n < lo) :
    CodeRanges.contains ((lo, hi) :: rest) n = false := by
  simp [CodeRanges.contains, h]

end TypedJit.Text
