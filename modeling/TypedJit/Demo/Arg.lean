import TypedJit.Ieee.Text
import TypedJit.Scalar.Basic

/-!
Reading command-line words as argument values.
-/

namespace TypedJit.Demo

open Ieee

/-- Why a word is not a signed 64-bit decimal. -/
inductive IntReadError where
  | empty
  | invalidDigit
  | tooLarge
  | tooSmall
  deriving DecidableEq, Repr

def IntReadError.message : IntReadError → String
  | .empty => "cannot parse integer from empty string"
  | .invalidDigit => "invalid digit found in string"
  | .tooLarge => "number too large to fit in target type"
  | .tooSmall => "number too small to fit in target type"

/-- Accumulate decimal digits into a magnitude below `limit`. Digits are taken left to right and
the first fault met wins: a character that is not a digit, or a magnitude above `limit`. -/
def accumulate (limit : Nat) (overflow : IntReadError) : List Char → Nat → Except IntReadError Nat
  | [], n => .ok n
  | c :: cs, n =>
    if !c.isDigit then .error .invalidDigit
    else
      let n' := 10 * n + (c.toNat - '0'.toNat)
      if n' > limit then .error overflow else accumulate limit overflow cs n'

/-- Read a signed 64-bit decimal with an optional leading sign. -/
def readInt64 (s : String) : Except IntReadError Int :=
  match s.toList with
  | [] => .error .empty
  | ['+'] | ['-'] => .error .invalidDigit
  | '-' :: ds => (fun n => -(n : Int)) <$> accumulate (Nat.pow 2 63) .tooSmall ds 0
  | '+' :: ds => (fun n => (n : Int)) <$> accumulate (Nat.pow 2 63 - 1) .tooLarge ds 0
  | ds => (fun n => (n : Int)) <$> accumulate (Nat.pow 2 63 - 1) .tooLarge ds 0

/-- Why a word cannot be an argument of a given type. -/
inductive ArgError where
  | notScalar (ty : Ty)
  | notBool (text : String)
  | notReal (text : String) (e : ReadError)
  | notInteger (text : String) (e : IntReadError)
  deriving Repr

def ArgError.message : ArgError → String
  | .notScalar t => s!"parameters of type {t} cannot be given on the command line"
  | .notBool t => s!"`{t}` is not a Bool"
  | .notReal t e => s!"`{t}`: {e.message}"
  | .notInteger t e => s!"`{t}`: {e.message}"

/-- The argument value a word denotes for a parameter of type `ty`. -/
def parseArg (text : String) (ty : Ty) : Except ArgError Scalar :=
  match ty with
  | .scalar .bool =>
    if text ∈ ["true", "True", "1"] then .ok (.bool true)
    else if text ∈ ["false", "False", "0"] then .ok (.bool false)
    else .error (.notBool text)
  | .scalar s =>
    if s.isReal then
      match binary64.read text with
      | .ok w => .ok ((Scalar.f64 (UInt64.ofNat w)).cast s)
      | .error e => .error (.notReal text e)
    else
      match readInt64 text with
      | .ok n => .ok ((Scalar.i64 (Int64.ofInt n)).cast s)
      | .error e => .error (.notInteger text e)
  | t => .error (.notScalar t)

theorem readInt64_empty : readInt64 "" = .error .empty := rfl

end TypedJit.Demo
