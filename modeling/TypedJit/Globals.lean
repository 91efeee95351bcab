import TypedJit.Scalar.Basic
import TypedJit.Error

/-!
The global namespace every function sees.
-/

namespace TypedJit

inductive TypeConstructor where
  | vector | array | slice
  deriving DecidableEq, Repr, Inhabited

def TypeConstructor.name : TypeConstructor → String
  | .vector => "Vector"
  | .array => "Array"
  | .slice => "Slice"

/-- Whether a constructor takes `n` arguments: two for a vector, one or two for an array, one
for a slice. -/
def TypeConstructor.takes : TypeConstructor → Nat → Bool
  | .vector, n => n == 2
  | .array, n => n == 1 || n == 2
  | .slice, n => n == 1

/-- The type a constructor builds from its element type and count: a slice has no count, an
array without one is unbounded, and a vector without one gets the count zero, which fails. -/
def TypeConstructor.build (ctor : TypeConstructor) (elem : ScalarType) (count : Option Int) :
    Except CountError Ty :=
  match ctor, count with
  | .slice, _ => .ok (.slice elem)
  | .array, none => .ok (.unbounded elem)
  | .array, some n => Ty.array? elem n
  | .vector, n => Ty.vector? elem (n.getD 0)

/-- Syntactic constructs with a name in the prelude. -/
inductive Construct where
  | var | range
  deriving DecidableEq, Repr, Inhabited

def Construct.name : Construct → String
  | .var => "var"
  | .range => "range"

/-- The declared signature of a dialect or builtin function. -/
structure Signature where
  ret : Ty
  params : List Ty
  deriving DecidableEq, Repr, Inhabited

/-- `(Int32, Array(Float)) -> Int32` -/
def Signature.render (s : Signature) : String :=
  "(" ++ ", ".intercalate (s.params.map Ty.render) ++ ") -> " ++ s.ret.render

/-- A callable bound in the namespace. -/
structure FunctionRef where
  /-- The registry entry of a dialect function. -/
  id : Nat
  /-- The machine symbol. -/
  symbol : String
  sig : Signature
  /-- An external native routine rather than a dialect function. -/
  builtin : Bool
  deriving DecidableEq, Repr, Inhabited

inductive GlobalSymbol where
  | type (t : Ty)
  | ctor (c : TypeConstructor)
  | construct (c : Construct)
  | constant (value : Scalar)
  | function (f : FunctionRef)
  deriving DecidableEq, Repr, Inhabited

/-- Global bindings, each name at most once. -/
structure Globals where
  bindings : List (String × GlobalSymbol)
  deriving Repr, Inhabited

namespace Globals

def find? (g : Globals) (name : String) : Option GlobalSymbol :=
  (g.bindings.find? (·.1 == name)).map (·.2)

def contains (g : Globals) (name : String) : Bool := (g.find? name).isSome

/-- Bind `name`, replacing an earlier binding of it. -/
def insert (g : Globals) (name : String) (sym : GlobalSymbol) : Globals :=
  if g.contains name then
    ⟨g.bindings.map fun (n, s) => if n == name then (n, sym) else (n, s)⟩
  else ⟨g.bindings ++ [(name, sym)]⟩

def size (g : Globals) : Nat := g.bindings.length

def function? (g : Globals) (name : String) : Option FunctionRef :=
  match g.find? name with
  | some (.function f) => some f
  | _ => none

/-- The names every function sees. -/
def prelude : Globals :=
  ⟨[("Void", .type .void), ("Int", .type (.scalar .int32))] ++
    ScalarType.all.map (fun s => (s.name, .type (.scalar s))) ++
    [("Vector", .ctor .vector), ("Array", .ctor .array), ("Slice", .ctor .slice),
     ("var", .construct .var), ("range", .construct .range), ("xrange", .construct .range),
     ("True", .constant (.bool true)), ("False", .constant (.bool false))]⟩

/-- An element count: an integer literal, the negation of one, or a name bound to an integer
constant. -/
def constCount (g : Globals) (e : Expr) : Except CompileError Int :=
  let value : Option Int := match e with
    | .const (.int n) _ => some n.toInt
    | .unary .neg (.const (.int n) _) _ => if n.toInt = -Int.pow 2 63 then none else some (-n.toInt)
    | .name n _ => match g.find? n with
      | some (.constant c) => if c.ty.isInteger then some c.toInt else none
      | _ => none
    | _ => none
  match value with
  | some n => .ok n
  | none => .error (.invalidConstruct
      "element count must be a compile-time integer constant" e.span)

mutual

/-- The type an expression denotes: a name bound to a type, or a constructor applied to a
scalar element type and, for vectors and bounded arrays, an element count. -/
def resolveType (g : Globals) : Expr → Except CompileError Ty
  | .name n span => match g.find? n with
    | some (.type t) => .ok t
    | some _ => .error (.invalidConstruct s!"`{n}` is not a type" span)
    | none => .error (.undefinedSymbol n span)
  | .call func args kws span => do
    let ctorName := func.asName?.getD ""
    let ctor ← match g.find? ctorName with
      | some (.ctor c) => pure c
      | _ => throw (.invalidConstruct "expected a type or type constructor" span)
    if !kws.isEmpty then
      throw (.invalidConstruct s!"`{ctorName}` takes no keyword arguments" span)
    g.constructType ctor ctorName args span
  | e => .error (.invalidConstruct "expected a type expression" e.span)

/-- A constructor applied to its arguments, named `ctorName` in errors: the number of arguments
is checked first, then the element type, which must resolve to a scalar type, then the count. -/
def constructType (g : Globals) (ctor : TypeConstructor) (ctorName : String) :
    List Expr → Span → Except CompileError Ty
  | elemExpr :: rest, span => do
    if !ctor.takes (elemExpr :: rest).length then
      throw (.invalidConstruct s!"wrong number of arguments to `{ctorName}`" span)
    let elem ← match g.resolveType elemExpr with
      | .ok (.scalar s) => pure s
      | .ok other => throw (.invalidConstruct
          s!"element type of `{ctorName}` must be a scalar type, not {other}" elemExpr.span)
      | .error e => throw e
    let count ← match rest with
      | c :: _ => (some ·) <$> g.constCount c
      | [] => pure none
    match ctor.build elem count with
    | .ok t => pure t
    | .error e => throw (.invalidConstruct e.message span)
  | [], span => throw (.invalidConstruct s!"wrong number of arguments to `{ctorName}`" span)

end

end Globals

end TypedJit
