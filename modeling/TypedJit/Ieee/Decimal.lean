import TypedJit.Ieee.Convert

/-!
Decimal text of binary words.
-/

namespace TypedJit.Ieee

/-- `a * 10 ^ p` compared with `b * 2 ^ q`, in exact integer arithmetic. -/
def compareScaled (a : Nat) (p : Int) (b : Nat) (q : Int) : Ordering :=
  let lhs := a * Nat.pow 10 p.toNat * Nat.pow 2 (-q).toNat
  let rhs := b * Nat.pow 2 q.toNat * Nat.pow 10 (-p).toNat
  Ord.compare lhs rhs

/-- `⌊b * 2 ^ q / 10 ^ p⌋`. -/
def divScaled (b : Nat) (q p : Int) : Nat :=
  b * Nat.pow 2 q.toNat * Nat.pow 10 (-p).toNat / (Nat.pow 2 (-q).toNat * Nat.pow 10 p.toNat)

/-- The `k` with `10 ^ k ≤ b * 2 ^ q < 10 ^ (k + 1)`, for `b > 0`: an estimate from the binary
exponent, corrected a few steps each way. -/
def floorLog10 (b : Nat) (q : Int) : Int :=
  let est : Int := (((Nat.log2 b : Int) + q) * 1233) / 4096
  let up := fun (k : Int) => if compareScaled 1 (k + 1) b q != .gt then k + 1 else k
  let down := fun (k : Int) => if compareScaled 1 k b q == .gt then k - 1 else k
  down (down (down (up (up (up est)))))

/-- Significant decimal digits `digits` and exponent `exp`, meaning `digits * 10 ^ exp`. -/
structure Digits where
  digits : Nat
  exp : Int
  deriving DecidableEq, Repr

namespace Digits

/-- Drop trailing zero digits into the exponent. -/
def normalize (d : Digits) : Digits :=
  go d.digits.log2 d
where
  go : Nat → Digits → Digits
    | 0, d => d
    | n + 1, d =>
      if d.digits ≠ 0 ∧ d.digits % 10 = 0 then go n ⟨d.digits / 10, d.exp + 1⟩ else d

end Digits

namespace Format

variable (f : Format)

/-- The most digits any word needs to read back. -/
def maxDigits : Nat := if f.fracBits ≤ 23 then 9 else 17

/-- The shortest digits that read back as the positive finite word `w`. -/
def shortest (w : Nat) : Digits :=
  let m := f.significand w
  let q := f.scale w - 2
  -- value, interval ends, all in units of `2 ^ q`
  let v := 4 * m
  let hi := 4 * m + 2
  let lo := if m = f.hidden ∧ f.exponent w > 1 then 4 * m - 1 else 4 * m - 2
  let closed := m % 2 = 0
  let inside := fun (c : Nat) (t : Int) =>
    let a := compareScaled c t lo q
    let b := compareScaled c t hi q
    (a == .gt || (closed && a == .eq)) && (b == .lt || (closed && b == .eq))
  let e := floorLog10 v q
  let rec search : Nat → Nat → Digits
    | 0, _ => ⟨divScaled v q (e - f.maxDigits + 1), e - f.maxDigits + 1⟩
    | fuel + 1, n =>
      let t := e - n + 1
      let c := divScaled v q t
      let downOk := inside c t
      let upOk := inside (c + 1) t
      if downOk && upOk then
        -- the nearer one; on a tie the upper
        let twice := compareScaled (2 * c + 1) t (2 * v) q
        if twice == .gt then ⟨c, t⟩ else ⟨c + 1, t⟩
      else if downOk then ⟨c, t⟩
      else if upOk then ⟨c + 1, t⟩
      else search fuel (n + 1)
  (search f.maxDigits 1).normalize

/-- The word nearest to `digits * 10 ^ exp`, signed by `neg`. Magnitudes far outside the range
are decided without computing huge powers. -/
def ofDecimal (neg : Bool) (digits : Nat) (exp : Int) : Nat :=
  if digits = 0 then f.zero neg
  else
    let len : Int := (Nat.repr digits).length
    if len + exp > 400 then f.infinity neg
    else if len + exp < -400 then f.zero neg
    else if 0 ≤ exp then f.round neg (digits * Nat.pow 10 exp.toNat) 1
    else f.round neg digits (Nat.pow 10 (-exp).toNat)

end Format

/-- The decimal numeral of `n` padded on the left with zeros to `width` digits. -/
def padDigits (n width : Nat) : String :=
  let s := Nat.repr n
  String.ofList (List.replicate (width - s.length) '0') ++ s

/-- Positional text of `d`; `point` keeps a `.0` on whole numbers. -/
def Digits.positional (d : Digits) (point : Bool) : String :=
  let s := Nat.repr d.digits
  if 0 ≤ d.exp then
    s ++ String.ofList (List.replicate d.exp.toNat '0') ++ (if point then ".0" else "")
  else
    let k := (-d.exp).toNat
    if k < s.length then
      String.ofList (s.toList.take (s.length - k)) ++ "." ++ String.ofList (s.toList.drop (s.length - k))
    else "0." ++ padDigits d.digits k

/-- Scientific text of `d`: one digit, then the others after a point, then `e` and the
exponent. -/
def Digits.scientific (d : Digits) : String :=
  let s := (Nat.repr d.digits).toList
  let e := d.exp + s.length - 1
  let mant := match s with
    | [] => "0"
    | [c] => String.singleton c
    | c :: rest => String.singleton c ++ "." ++ String.ofList rest
  mant ++ "e" ++ toString e

namespace Format

variable (f : Format)

/-- Text without exponent and without a trailing `.0`: `3`, `0.1`, `-0`, `NaN`, `inf`. -/
def plain (w : Nat) : String :=
  let sign := if f.negative w then "-" else ""
  if f.isNaN w then "NaN"
  else if f.isInf w then sign ++ "inf"
  else if f.isZero w then sign ++ "0"
  else sign ++ (f.shortest w).positional false

/-- Text with `.0` on whole numbers, in exponent form when the magnitude is below the word
nearest `1e-4` or at least the word nearest `1e16`: `5.0`, `0.1`, `1e16`, `1.5e-7`, `NaN`, `inf`. -/
def general (w : Nat) : String :=
  let sign := if f.negative w then "-" else ""
  if f.isNaN w then "NaN"
  else if f.isInf w then sign ++ "inf"
  else if f.isZero w then sign ++ "0.0"
  else
    let d := f.shortest w
    let below := fun (t : Nat) => f.compare (f.magnitude w) t == some .lt
    let small := below (f.ofDecimal false 1 (-4))
    let large := !below (f.ofDecimal false 1 16)
    if small || large then sign ++ d.scientific else sign ++ d.positional true

/-- The shortest digits, written positionally when the leading digit's power of ten is from
`-5` up to `15` and in exponent form otherwise: `100.0`, `0.0001`, `1e300`, `1.5e-7`, `-0.0`. -/
def shortText (w : Nat) : String :=
  let sign := if f.negative w then "-" else ""
  if f.isNaN w then "NaN"
  else if f.isInf w then sign ++ "inf"
  else if f.isZero w then sign ++ "0.0"
  else
    let d := f.shortest w
    let lead := d.exp + (Nat.repr d.digits).length
    if -5 < lead ∧ lead ≤ 16 then sign ++ d.positional true else sign ++ d.scientific

end Format

end TypedJit.Ieee
