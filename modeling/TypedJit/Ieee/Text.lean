import TypedJit.Ieee.Decimal

/-!
Reading a number from decimal text, correctly rounded.
-/

namespace TypedJit.Ieee

/-- Why a text is not a number. -/
inductive ReadError where
  | empty
  | invalid
  deriving DecidableEq, Repr

def ReadError.message : ReadError → String
  | .empty => "cannot parse float from empty string"
  | .invalid => "invalid float literal"

/-- The value of a list of decimal digits. -/
def digitsValue (cs : List Char) : Nat :=
  cs.foldl (fun n c => 10 * n + (c.toNat - '0'.toNat)) 0

/-- A decimal numeral without sign: its digits and the power of ten they are scaled by. -/
def readNumeral (cs : List Char) : Option (Nat × Int) :=
  let whole := cs.takeWhile Char.isDigit
  let rest := cs.dropWhile Char.isDigit
  let (frac, rest) := match rest with
    | '.' :: r => (r.takeWhile Char.isDigit, r.dropWhile Char.isDigit)
    | r => ([], r)
  if whole.isEmpty && frac.isEmpty then none
  else
    let exp : Option Int := match rest with
      | [] => some 0
      | e :: r =>
        if e != 'e' && e != 'E' then none
        else
          let (neg, ds) := match r with
            | '-' :: ds => (true, ds)
            | '+' :: ds => (false, ds)
            | ds => (false, ds)
          if ds.isEmpty || !ds.all Char.isDigit then none
          else
            let k : Int := digitsValue ds
            some (if neg then -k else k)
    exp.map fun k => (digitsValue (whole ++ frac), k - frac.length)

/-- The word that a text denotes in format `f`. -/
def Format.read (f : Format) (s : String) : Except ReadError Nat :=
  let cs := s.toList
  if cs.isEmpty then .error .empty
  else
    let (neg, body) := match cs with
      | '-' :: r => (true, r)
      | '+' :: r => (false, r)
      | r => (false, r)
    let word := String.ofList (body.map Char.toLower)
    if word == "inf" || word == "infinity" then .ok (f.infinity neg)
    else if word == "nan" then .ok (if neg then f.neg f.quietNaN else f.quietNaN)
    else
      match readNumeral body with
      | some (digits, exp) => .ok (f.ofDecimal neg digits exp)
      | none => .error .invalid

end TypedJit.Ieee
