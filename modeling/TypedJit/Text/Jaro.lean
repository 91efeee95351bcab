/-!
Jaro similarity of words, used to suggest a known word for a mistyped one.

Two characters match when they are equal and their positions differ by less than half the
longer word's length; each character of the second word matches at most once, the earliest
unmatched one being taken. With `m` matches and `t` half the number of matched characters that
appear in a different order, the similarity of words of lengths `a` and `b` is
`(m / a + m / b + (m - t) / m) / 3`, and `0` when nothing matches.

The counts are exact. The similarity itself is a double, its terms divided and summed from the
left, because a suggestion needs a similarity above a threshold and a rounding can decide that.
-/

namespace TypedJit.Text

/-- What two words share: the characters that match, the transpositions among them, and the
two lengths. -/
structure Agreement where
  matched : Nat
  transpositions : Nat
  left : Nat
  right : Nat
  deriving DecidableEq, Repr

/-- For each character of `a`, whether it matches; for each of `b`, whether it is matched. -/
def matchFlags (a b : List Char) : List Bool × List Bool :=
  let reach := max a.length b.length / 2 - 1
  let visit (acc : List Bool × List Bool) (ci : Char × Nat) : List Bool × List Bool :=
    let (af, bf) := acc
    let (c, i) := ci
    let lo := i - reach
    let hi := min b.length (i + reach + 1)
    match (List.range hi).find? (fun j => lo ≤ j ∧ b[j]? = some c ∧ bf[j]? = some false) with
    | some j => (af ++ [true], bf.set j true)
    | none => (af ++ [false], bf)
  a.zipIdx.foldl visit ([], List.replicate b.length false)

/-- The characters whose flag is set, in order. -/
def flagged (cs : List Char) (flags : List Bool) : List Char :=
  (cs.zip flags).filterMap fun (c, f) => if f then some c else none

/-- What the words `x` and `y` share. -/
def agreement (x y : String) : Agreement :=
  let a := x.toList
  let b := y.toList
  let (af, bf) := matchFlags a b
  let ma := flagged a af
  let mb := flagged b bf
  { matched := ma.length
    transpositions := ((ma.zip mb).filter fun (p, q) => p ≠ q).length / 2
    left := a.length
    right := b.length }

/-- The Jaro similarity in double precision: `1` for two empty words, `0` when one is empty or
nothing matches. -/
def Agreement.similarity (g : Agreement) : Float :=
  if g.left = 0 ∧ g.right = 0 then 1
  else if g.left = 0 ∨ g.right = 0 ∨ g.matched = 0 then 0
  else
    let m := Float.ofNat g.matched
    (m / Float.ofNat g.left + m / Float.ofNat g.right +
      Float.ofNat (g.matched - g.transpositions) / m) / 3

/-- The Jaro similarity of two words. -/
def jaro (x y : String) : Float := (agreement x y).similarity

/-- The threshold a suggestion's similarity must exceed: the double nearest to `0.7`. -/
def suggestionThreshold : Float := Float.ofBits 0x3FE6666666666666

/-- The candidate most similar to `word`, among those more similar than the threshold; of equally
similar candidates the last one. -/
def closest (word : String) (candidates : List String) : Option String :=
  let pick (best : Option (String × Float)) (c : String) : Option (String × Float) :=
    let s := jaro word c
    if !(suggestionThreshold < s) then best
    else match best with
      | some (_, t) => if t ≤ s then some (c, s) else best
      | none => some (c, s)
  (candidates.foldl pick none).map (·.1)

theorem agreement_empty : agreement "" "" = ⟨0, 0, 0, 0⟩ := by decide

end TypedJit.Text
