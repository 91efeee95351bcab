import TypedJit.Types.Basic
import TypedJit.Text.Quoted
import TypedJit.Text.WhiteSpace

/-!
Reading types from their text, the inverse of `Ty.render`.
-/

namespace TypedJit

/-- The scalar type named `s`; `Int` is `Int32`. -/
def ScalarType.ofName? (s : String) : Option ScalarType :=
  if s == "Int" then some .int32 else ScalarType.all.find? (·.name == s)

/-- A decimal integer: an optional sign, then one or more ASCII digits and nothing else. -/
def readInt? (s : String) : Option Int :=
  let digits (cs : List Char) : Option Nat :=
    if cs.isEmpty || !cs.all Char.isDigit then none
    else some (cs.foldl (fun n c => 10 * n + (c.toNat - '0'.toNat)) 0)
  match s.toList with
  | '-' :: cs => (digits cs).map fun n => -(n : Int)
  | '+' :: cs => (digits cs).map (Int.ofNat ·)
  | cs => (digits cs).map (Int.ofNat ·)

/-- A decimal integer that fits in 64 bits. -/
def readInt64? (s : String) : Option Int :=
  (readInt? s).filter fun n => -Int.pow 2 63 ≤ n ∧ n < Int.pow 2 63

inductive TypeTextError where
  | unknownScalar (name : String)
  | badCount (text : String)
  | count (e : CountError)
  | malformed (text : String)
  deriving DecidableEq, Repr

def TypeTextError.message : TypeTextError → String
  | .unknownScalar n => s!"unknown scalar type {Text.quoted n}"
  | .badCount t => s!"bad count in {Text.quoted t}"
  | .count e => e.message
  | .malformed t => s!"bad type {Text.quoted t}"

/-- The parts of a type's text: the constructor, the element and the count, when the text has
the shape `ctor(element)` or `ctor(element,count)`. -/
def typeParts? (s : String) : Option (String × String × Option String) :=
  match s.toList.span (· ≠ '(') with
  | (_, []) => none
  | (ctor, _ :: rest) =>
    match rest.reverse with
    | ')' :: inside =>
      match inside.reverse.span (· ≠ ',') with
      | (e, []) => some (String.ofList ctor, String.ofList e, none)
      | (e, _ :: n) => some (String.ofList ctor, String.ofList e, some (String.ofList n))
    | _ => none

/-- The type a text denotes. -/
def Ty.ofText? (text : String) : Except TypeTextError Ty := do
  let s := String.ofList (text.toList.filter (!Text.isWhiteSpace ·))
  let scalar (n : String) : Except TypeTextError ScalarType :=
    match ScalarType.ofName? n with
    | some t => .ok t
    | none => .error (.unknownScalar n)
  if s == "Void" then return .void
  if !s.contains '(' then return .scalar (← scalar s)
  let some (ctor, e, n) := typeParts? s | throw (.malformed s)
  let t ← scalar e
  let k ← n.mapM fun n => match readInt64? n with
    | some k => pure k
    | none => throw (.badCount s)
  match ctor, k with
  | "Vector", some k => (Ty.vector? t k).mapError .count
  | "Array", some k => (Ty.array? t k).mapError .count
  | "Array", none => pure (.unbounded t)
  | "Slice", none => pure (.slice t)
  | _, _ => throw (.malformed s)

end TypedJit
