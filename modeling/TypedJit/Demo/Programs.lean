import TypedJit.Syntax.Lines
import TypedJit.Types.Basic

/-!
The demonstration programs of the command-line tool.
-/

namespace TypedJit.Demo

inductive Demo where
  | add | sumRange | fact | fib | isEven | hypot
  deriving DecidableEq, Repr, Inhabited

namespace Demo

def all : List Demo := [.add, .sumRange, .fact, .fib, .isEven, .hypot]

/-- The name a demo is selected by on the command line. -/
def name : Demo → String
  | .add => "add"
  | .sumRange => "sum-range"
  | .fact => "fact"
  | .fib => "fib"
  | .isEven => "is-even"
  | .hypot => "hypot"

/-- The demo's name as a capitalised word. -/
def title : Demo → String
  | .add => "Add"
  | .sumRange => "SumRange"
  | .fact => "Fact"
  | .fib => "Fib"
  | .isEven => "IsEven"
  | .hypot => "Hypot"

def ofName? (s : String) : Option Demo := all.find? (·.name == s)

end Demo

/-- A function of a demo with its signature. -/
structure DemoFunction where
  definition : FunctionDef
  ret : Ty
  params : List Ty

section Trees

private def nameE (s : String) : Expr := .name s .unknown
private def intE (n : Int64) : Expr := .const (.int n) .unknown
private def binE (op : BinOp) (l r : Expr) : Expr := .binary op l r .unknown
private def cmpE (op : CmpOp) (l r : Expr) : Expr := .compare op l r .unknown
private def callE (f : String) (args : List Expr) : Expr := .call (nameE f) args [] .unknown
private def retS (e : Expr) : Stmt := .ret (some e) .unknown
private def assignS (x : String) (e : Expr) : Stmt := .assign (nameE x) e .unknown
private def ifS (test : Expr) (body : List Stmt) : Stmt := .branch test body [] .unknown
private def rangeS (x : String) (stop : Expr) (body : List Stmt) : Stmt :=
  .forLoop x .unknown (callE "range" [stop]) body .unknown

/-- `var(a=T, …)` -/
private def varS (decls : List (String × String)) : Stmt :=
  .eval (.call (nameE "var") [] (decls.map fun (x, t) => .mk x (nameE t) .unknown) .unknown) .unknown

/-- The functions a demo registers, entry point first. -/
def Demo.functions : Demo → List DemoFunction
  | .add =>
    [⟨FunctionDef.build "add" ["a", "b"] [retS (binE .add (nameE "a") (nameE "b"))],
      .int32, [.int32, .int32]⟩]
  | .sumRange =>
    [⟨FunctionDef.build "sum_range" ["n"]
        [assignS "res" (intE 0),
         rangeS "i" (nameE "n") [.augAssign (nameE "res") .add (nameE "i") .unknown],
         retS (nameE "res")],
      .int32, [.int32]⟩]
  | .fact =>
    [⟨FunctionDef.build "fact" ["n"]
        [ifS (cmpE .le (nameE "n") (intE 1)) [retS (intE 1)],
         retS (binE .mul (nameE "n") (callE "fact" [binE .sub (nameE "n") (intE 1)]))],
      .int64, [.int64]⟩]
  | .fib =>
    [⟨FunctionDef.build "fib" ["n"]
        [varS [("a", "Int64"), ("b", "Int64")],
         assignS "b" (intE 1),
         rangeS "i" (nameE "n")
           [assignS "t" (binE .add (nameE "a") (nameE "b")),
            assignS "a" (nameE "b"),
            assignS "b" (nameE "t")],
         retS (nameE "a")],
      .int64, [.int32]⟩]
  | .isEven =>
    [⟨FunctionDef.build "is_even" ["n"]
        [ifS (cmpE .eq (nameE "n") (intE 0)) [retS (nameE "True")],
         retS (callE "is_odd" [binE .sub (nameE "n") (intE 1)])],
      .bool, [.int32]⟩,
     ⟨FunctionDef.build "is_odd" ["n"]
        [ifS (cmpE .eq (nameE "n") (intE 0)) [retS (nameE "False")],
         retS (callE "is_even" [binE .sub (nameE "n") (intE 1)])],
      .bool, [.int32]⟩]
  | .hypot =>
    [⟨FunctionDef.build "hypot" ["x", "y"]
        [retS (callE "sqrt"
          [binE .add (binE .mul (nameE "x") (nameE "x")) (binE .mul (nameE "y") (nameE "y"))])],
      .double, [.double, .double]⟩]

end Trees

theorem Demo.functions_ne_nil (d : Demo) : d.functions ≠ [] := by
  cases d <;> simp [Demo.functions]

end TypedJit.Demo
