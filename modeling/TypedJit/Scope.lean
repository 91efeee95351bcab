import TypedJit.Globals

/-!
Function-local symbol tables.
-/

namespace TypedJit

/-- A local name's type and where it lives. -/
structure Binding (H : Type) where
  ty : Ty
  storage : H
  deriving DecidableEq, Repr

/-- What a name resolves to: a local binding or a global symbol. -/
inductive Resolved (H : Type) where
  | bound (b : Binding H)
  | global (sym : GlobalSymbol)

structure Scope (H : Type) where
  globals : Globals
  locals : List (String × Binding H) := []

namespace Scope

variable {H : Type}

def local? (s : Scope H) (name : String) : Option (Binding H) :=
  (s.locals.find? (·.1 == name)).map (·.2)

/-- Fail when `name` is already declared here or bound globally. -/
def ensureUndeclared (s : Scope H) (name : String) (span : Span) : Except CompileError Unit :=
  if (s.local? name).isSome || s.globals.contains name then .error (.redeclaration name span)
  else .ok ()

/-- Declare `name` with its type and storage. -/
def declare (s : Scope H) (name : String) (ty : Ty) (storage : H) (span : Span) :
    Except CompileError (Scope H) := do
  s.ensureUndeclared name span
  pure { s with locals := s.locals ++ [(name, ⟨ty, storage⟩)] }

/-- Resolve `name` locally, then globally. -/
def resolve (s : Scope H) (name : String) (span : Span) : Except CompileError (Resolved H) :=
  match s.local? name with
  | some b => .ok (.bound b)
  | none => match s.globals.find? name with
    | some g => .ok (.global g)
    | none => .error (.undefinedSymbol name span)

def size (s : Scope H) : Nat := s.locals.length

/-- Whether `name` is a global naming the construct `which`. -/
def isConstruct (s : Scope H) (func : Expr) (which : Construct) : Bool :=
  match func.asName? with
  | some n => match s.resolve n func.span with
    | .ok (.global (.construct c)) => c == which
    | _ => false
  | none => false

end Scope

end TypedJit
