/-!
Syntax trees of dialect functions.

A host front end hands over one `FunctionDef` per function, every statement and expression
tagged with a `Span`: a line counted from the `def` line (which is line 1) and a 0-based column.
Line 0 means the position is unknown. Host constructs without a dialect meaning travel as
`unsupported` nodes so that they can be reported where they stand.
-/

namespace TypedJit

/-- A position: both numbers are 32-bit words, and arithmetic on them wraps around. -/
structure Span where
  line : UInt32
  col : UInt32
  deriving DecidableEq, Repr, Inhabited

namespace Span

def unknown : Span := ⟨0, 0⟩

def isKnown (s : Span) : Bool := s.line != 0

/-- `line:column` with a 1-based column, or `<unknown>`. -/
def render (s : Span) : String :=
  if s.isKnown then s!"{s.line}:{s.col + 1}" else "<unknown>"

end Span

inductive Literal where
  | int (v : Int64)
  /-- A Double literal, held as its bit word. -/
  | real (bits : UInt64)
  | bool (b : Bool)
  | str (s : String)
  deriving DecidableEq, Repr, Inhabited

inductive BinOp where
  | add | sub | mul | div | mod | bitAnd | bitOr | bitXor | shl | shr
  deriving DecidableEq, Repr, Inhabited

def BinOp.all : List BinOp := [.add, .sub, .mul, .div, .mod, .bitAnd, .bitOr, .bitXor, .shl, .shr]

def BinOp.symbol : BinOp → String
  | .add => "+"
  | .sub => "-"
  | .mul => "*"
  | .div => "/"
  | .mod => "%"
  | .bitAnd => "&"
  | .bitOr => "|"
  | .bitXor => "^"
  | .shl => "<<"
  | .shr => ">>"

def BinOp.isBitwise : BinOp → Bool
  | .bitAnd | .bitOr | .bitXor | .shl | .shr => true
  | _ => false

inductive UnaryOp where
  | neg | plus | not | invert
  deriving DecidableEq, Repr, Inhabited

def UnaryOp.all : List UnaryOp := [.neg, .plus, .not, .invert]

def UnaryOp.symbol : UnaryOp → String
  | .neg => "-"
  | .plus => "+"
  | .not => "not"
  | .invert => "~"

inductive CmpOp where
  | eq | ne | lt | le | gt | ge
  deriving DecidableEq, Repr, Inhabited

def CmpOp.all : List CmpOp := [.eq, .ne, .lt, .le, .gt, .ge]

def CmpOp.symbol : CmpOp → String
  | .eq => "=="
  | .ne => "!="
  | .lt => "<"
  | .le => "<="
  | .gt => ">"
  | .ge => ">="

inductive BoolOp where
  | and | or
  deriving DecidableEq, Repr, Inhabited

mutual

inductive Expr where
  | const (lit : Literal) (span : Span)
  | name (id : String) (span : Span)
  | binary (op : BinOp) (lhs rhs : Expr) (span : Span)
  | unary (op : UnaryOp) (operand : Expr) (span : Span)
  | compare (op : CmpOp) (lhs rhs : Expr) (span : Span)
  | logic (op : BoolOp) (lhs rhs : Expr) (span : Span)
  | call (func : Expr) (args : List Expr) (keywords : List Keyword) (span : Span)
  /-- `value[i]` -/
  | index (value i : Expr) (span : Span)
  /-- `value[lower:upper]` -/
  | slice (value : Expr) (lower upper : Option Expr) (span : Span)
  | unsupported (construct : String) (span : Span)

/-- A keyword argument `name=value`. -/
inductive Keyword where
  | mk (name : String) (value : Expr) (span : Span)

end

deriving instance Repr for Expr, Keyword
deriving instance Inhabited for Expr

namespace Keyword

def name : Keyword → String
  | .mk n _ _ => n

def value : Keyword → Expr
  | .mk _ v _ => v

def span : Keyword → Span
  | .mk _ _ s => s

end Keyword

namespace Expr

def span : Expr → Span
  | .const _ s | .name _ s | .binary _ _ _ s | .unary _ _ s | .compare _ _ _ s
  | .logic _ _ _ s | .call _ _ _ s | .index _ _ s | .slice _ _ _ s | .unsupported _ s => s

/-- The identifier, when the expression is a bare name. -/
def asName? : Expr → Option String
  | .name n _ => some n
  | _ => none

end Expr

inductive Stmt where
  | assign (target value : Expr) (span : Span)
  /-- `target op= value` -/
  | augAssign (target : Expr) (op : BinOp) (value : Expr) (span : Span)
  /-- An expression evaluated for its effect: a call, a `var(...)` declaration. -/
  | eval (e : Expr) (span : Span)
  | branch (test : Expr) (body orelse : List Stmt) (span : Span)
  /-- `for target in iter: body` -/
  | forLoop (target : String) (targetSpan : Span) (iter : Expr) (body : List Stmt) (span : Span)
  | whileLoop (test : Expr) (body : List Stmt) (span : Span)
  | ret (value : Option Expr) (span : Span)
  | pass (span : Span)
  | unsupported (construct : String) (span : Span)
  deriving Repr, Inhabited

def Stmt.span : Stmt → Span
  | .assign _ _ s | .augAssign _ _ _ s | .eval _ s | .branch _ _ _ s | .forLoop _ _ _ _ s
  | .whileLoop _ _ s | .ret _ s | .pass s | .unsupported _ s => s

structure Param where
  name : String
  span : Span
  deriving Repr, Inhabited

/-- The source lines of a definition, kept for diagnostics. -/
structure SourceText where
  file : String
  /-- Absolute number of the `def` line in `file`. -/
  firstLine : UInt32
  text : String
  deriving Repr, Inhabited

structure FunctionDef where
  name : String
  params : List Param
  body : List Stmt
  span : Span := ⟨1, 0⟩
  source : Option SourceText := none
  deriving Repr, Inhabited

end TypedJit
