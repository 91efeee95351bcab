import TypedJit.Host.Check
import TypedJit.Session
import TypedJit.Machine.Ir

/-!
The function registry: the global namespace together with the dialect functions registered in
it.
-/

namespace TypedJit

/-- Code-generation levels of the backend. -/
inductive OptLevel where
  | none | less | default | aggressive
  deriving DecidableEq, Repr, Inhabited

def OptLevel.name : OptLevel → String
  | .none => "None"
  | .less => "Less"
  | .default => "Default"
  | .aggressive => "Aggressive"

def OptLevel.ofName? (s : String) : Option OptLevel :=
  [OptLevel.none, .less, .default, .aggressive].find? (·.name == s)

structure Config where
  optLevel : OptLevel := .default
  /-- Optimize every function as part of `define`. -/
  optimizeOnDefine : Bool := false
  /-- Check generated code before accepting it. -/
  verify : Bool := true
  deriving DecidableEq, Repr, Inhabited

inductive FunctionState where
  | declared | compiled | sealed
  deriving DecidableEq, Repr, Inhabited

def FunctionState.name : FunctionState → String
  | .declared => "Declared"
  | .compiled => "Compiled"
  | .sealed => "Sealed"

/-- The machine symbol of the dialect function `name`. -/
def dialectSymbol (name : String) : String := "dialect." ++ name

structure Registry.Entry where
  name : String
  sig : Signature
  body : Option FunctionDef := none
  state : FunctionState := .declared
  /-- The generated code, once compiled. -/
  code : Option Machine.Code := none
  /-- The ids of the dialect functions the compiled body calls, ascending. -/
  callees : List Nat := []
  optimized : Bool := false
  /-- Whether a native entry point has been bound. -/
  bound : Bool := false

structure Registry where
  config : Config := {}
  globals : Globals := Globals.prelude
  entries : Array Registry.Entry := #[]
  stats : SessionStats := {}

namespace Registry

/-- The one-argument math routines, each over Double and, with an `f` suffix, over Float. -/
def mathRoutines : List String :=
  ["sin", "cos", "tan", "asin", "acos", "atan", "sinh", "cosh", "tanh", "sqrt", "exp", "log",
   "log10", "fabs", "ceil", "floor"]

variable (r : Registry)

def size : Nat := r.entries.size

def entry? (id : Nat) : Option Entry := r.entries[id]?

def handle? (name : String) : Option Nat := r.entries.findIdx? (·.name == name)

def state? (id : Nat) : Option FunctionState := (r.entry? id).map (·.state)

def signature? (id : Nat) : Option Signature := (r.entry? id).map (·.sig)

def name? (id : Nat) : Option String := (r.entry? id).map (·.name)

def modifyEntry (id : Nat) (f : Entry → Entry) : Registry :=
  { r with entries := r.entries.modify id f }

/-- The entry `id`, or `unknownFunction` naming the raw id. -/
def entryOrFail (id : Nat) : Except JitError Entry :=
  match r.entry? id with
  | some e => .ok e
  | none => .error (.unknownFunction s!"#{id}")

/-- Fail when `name` is already a global. -/
def ensureFree (name : String) : Except JitError Unit :=
  if r.globals.contains name then
    .error (.compile ⟨.variableRedeclaration, s!"global `{name}` is already defined", .unknown, none⟩)
  else .ok ()

def defineConstant (name : String) (value : Scalar) : Except JitError Registry := do
  r.ensureFree name
  pure { r with globals := r.globals.insert name (.constant value) }

def defineType (name : String) (ty : Ty) : Except JitError Registry := do
  r.ensureFree name
  pure { r with globals := r.globals.insert name (.type ty) }

/-- Bind an external native routine under `name`. -/
def declareBuiltin (name symbol : String) (ret : Ty) (params : List Ty) :
    Except JitError Registry := do
  r.ensureFree name
  let sig : Signature := ⟨ret, params⟩
  (sig.validate name .unknown).mapError .compile
  let f : FunctionRef := { id := 0, symbol, sig, builtin := true }
  pure { r with globals := r.globals.insert name (.function f) }

/-- A builtin to declare: its name, which is also its symbol, and its signature. -/
abbrev BuiltinDecl := String × Ty × List Ty

/-- The math builtins in the order they are declared: each routine over Double and then over
Float (named with an `f` suffix), then `pow` and `powf`. -/
def mathBuiltins : List BuiltinDecl :=
  mathRoutines.flatMap (fun n => [(n, .double, [.double]), (n ++ "f", .scalar .float, [.scalar .float])]) ++
    [("pow", .double, [.double, .double]), ("powf", .scalar .float, [.scalar .float, .scalar .float])]

/-- Declare builtins in order. The first that fails stops the rest, and those declared before it
stay: the registry is returned with the failure. -/
def declareEach (reg : Registry) : List BuiltinDecl → Registry × Option JitError
  | [] => (reg, none)
  | (name, ret, params) :: rest =>
    match reg.declareBuiltin name name ret params with
    | .ok next => next.declareEach rest
    | .error e => (reg, some e)

def declareMath : Registry × Option JitError := r.declareEach mathBuiltins

/-- The stdio builtins: `putchar` alone. -/
def stdioBuiltins : List BuiltinDecl := [("putchar", .int32, [.int32])]

def declareStdio : Registry × Option JitError := r.declareEach stdioBuiltins

/-- Register `name` as a new dialect function; its id is the next position. -/
def addEntry (name : String) (sig : Signature) (body : Option FunctionDef) :
    Except JitError (Nat × Registry) := do
  let span := (body.map (·.span)).getD .unknown
  if r.globals.contains name then
    throw (.compile ⟨.functionDeclaration, s!"`{name}` collides with an existing global", span, none⟩)
  (sig.validate name span).mapError .compile
  let id := r.entries.size
  let f : FunctionRef := { id, symbol := dialectSymbol name, sig, builtin := false }
  pure (id, { r with
    globals := r.globals.insert name (.function f)
    entries := r.entries.push { name, sig, body } })

/-- Declare `name` without a body, so that functions compiled before its body can call it.
Declaring it again with the same signature gives the same id. -/
def forwardDeclare (name : String) (ret : Ty) (params : List Ty) :
    Except JitError (Nat × Registry) :=
  match r.handle? name with
  | some id =>
    let sig := (r.signature? id).getD default
    if sig.ret = ret ∧ sig.params = params then .ok (id, r)
    else .error (.compile ⟨.functionDeclaration,
      s!"`{name}` is already declared as {sig.render}", .unknown, none⟩)
  | none => r.addEntry name ⟨ret, params⟩ none

/-- The parameter names of `f` must match the number of parameter types. -/
def checkArity (f : FunctionDef) (params : List Ty) : Except JitError Unit :=
  if f.params.length = params.length then .ok ()
  else .error (.compile ⟨.functionDeclaration,
    s!"`{f.name}` has {f.params.length} parameters but {params.length} argument types were given",
    f.span, none⟩)

/-- Register a definition: a new function, or the body of one declared ahead with the same
signature. -/
def register (f : FunctionDef) (ret : Ty) (params : List Ty) :
    Except JitError (Nat × Registry) := do
  checkArity f params
  let sig : Signature := ⟨ret, params⟩
  match r.handle? f.name with
  | some id =>
    let e ← r.entryOrFail id
    if e.body.isSome then
      throw (.compile ⟨.functionDeclaration, s!"`{f.name}` already has a body", f.span, none⟩)
    if e.sig ≠ sig then
      throw (.compile ⟨.functionDeclaration,
        s!"`{f.name}` was forward-declared as {e.sig.render}", f.span, none⟩)
    pure (id, r.modifyEntry id fun e => { e with body := some f })
  | none => r.addEntry f.name sig (some f)

/-- Register a definition as a new function only, never attaching it to an earlier one. -/
def addDefinition (f : FunctionDef) (ret : Ty) (params : List Ty) :
    Except JitError (Nat × Registry) := do
  checkArity f params
  r.addEntry f.name ⟨ret, params⟩ (some f)

/-- What the reference interpreter reads: the namespace and the bodies by id. -/
def library : Library where
  globals := r.globals
  name? := r.name?
  definition? id := (r.entry? id).bind fun e => e.body.map (·, e.sig)

end Registry

end TypedJit
