import TypedJit.Registry.Basic
import TypedJit.Codegen.Function
import TypedJit.Interpreter.Call

/-!
The life of a registered function: compiling, optimizing, binding and calling.
-/

namespace TypedJit

/-- Registry operations that can fail, keeping the changes made before the failure. -/
abbrev Jit := ExceptT JitError (StateM Registry)

namespace Jit

def ofExcept {α : Type} (x : Except JitError α) : Jit α :=
  match x with
  | .ok a => pure a
  | .error e => throw e

/-- Apply a registry step that returns a value and the new registry. -/
def update {α : Type} (f : Registry → Except JitError (α × Registry)) : Jit α := do
  let (a, r) ← ofExcept (f (← get))
  set r
  pure a

/-- Apply a registry step that returns only the new registry. -/
def change (f : Registry → Except JitError Registry) : Jit Unit := do
  set (← ofExcept (f (← get)))

/-- Apply a registry step that may fail part way: the registry it reached is kept, and its
failure, if any, is raised. -/
def apply (f : Registry → Registry × Option JitError) : Jit Unit := do
  let (r, e) := f (← get)
  set r
  if let some e := e then throw e

def entry (id : Nat) : Jit Registry.Entry := do
  ofExcept ((← get).entryOrFail id)

end Jit

namespace Registry

/-- The functions reachable from `root` through calls, `root` first, in breadth-first order.
Every callee met must be compiled, else the caller has an unresolved callee. -/
def reachable (r : Registry) (root : Nat) : Except JitError (List Nat) :=
  go (r.size + 1) [root] [root]
where
  /-- Visit `callee` of `caller`: it must be a known function past `declared`, and it joins
  `fresh` unless it is in `order` or `fresh` already. -/
  visit (order : List Nat) (caller : Entry) (fresh : List Nat) (callee : Nat) :
      Except JitError (List Nat) := do
    let some t := r.entry? callee | throw (.unknownFunction s!"#{callee}")
    if t.state = .declared then throw (.unresolvedCallee caller.name t.name)
    pure (if callee ∈ order ∨ callee ∈ fresh then fresh else fresh ++ [callee])
  /-- `queue` holds the functions whose callees are still to be visited, `order` every function
  met so far; each function enters both once, so `r.size + 1` rounds suffice. -/
  go : Nat → List Nat → List Nat → Except JitError (List Nat)
    | 0, _, order => .ok order
    | _, [], order => .ok order
    | fuel + 1, caller :: queue, order => do
      let e ← r.entryOrFail caller
      let fresh ← e.callees.foldlM (visit order e) []
      go fuel (queue ++ fresh) (order ++ fresh)

/-- The code of the sealed functions, by machine symbol. -/
def bindings (r : Registry) : Machine.Bindings := fun symbol =>
  (r.entries.find? fun e => e.state = .sealed ∧ dialectSymbol e.name = symbol).bind (·.code)

end Registry

/-- Generate the code of a declared function with a body. -/
def compile (id : Nat) : Jit Unit := do
  let r ← get
  let e ← Jit.ofExcept (r.entryOrFail id)
  if e.state ≠ .declared then return
  let some f := e.body | throw (.notCompiled e.name)
  let (result, stats) := (Codegen.compileFunction r.globals f e.sig (dialectSymbol e.name)).run r.stats
  set { r with stats }
  match result with
  | .error err => throw (.compile err)
  | .ok c =>
    modify fun r => r.modifyEntry id fun e =>
      { e with code := some c.code, callees := c.callees, state := .compiled }

/-- Mark a compiled function optimized; optimization changes no result, so only the mark and
the count of optimized functions record it. -/
def optimize (id : Nat) : Jit Unit := do
  let e ← Jit.entry id
  match e.state with
  | .declared => throw (.notCompiled e.name)
  | .sealed => throw (.alreadyFinalized e.name)
  | .compiled =>
    if e.optimized then return
    modify fun r =>
      { r.modifyEntry id (fun e => { e with optimized := true }) with
        stats := r.stats.recordOptimization }

/-- Register a definition and compile it, optimizing it too when the configuration asks. -/
def define (f : FunctionDef) (ret : Ty) (params : List Ty) : Jit Nat := do
  let id ← Jit.update (·.register f ret params)
  compile id
  if (← get).config.optimizeOnDefine then optimize id
  pure id

/-- Bind a function's native entry point on first use, sealing every function it reaches. -/
def bind (id : Nat) : Jit Unit := do
  let e ← Jit.entry id
  if e.bound then return
  let order ← Jit.ofExcept ((← get).reachable id)
  let sealEntry (r : Registry) (i : Nat) : Registry :=
    r.modifyEntry i fun e =>
      if e.state ≠ .sealed ∧ e.code.isSome then { e with state := .sealed } else e
  modify fun r => order.foldl sealEntry r
  modify fun r =>
    { r.modifyEntry id (fun e => { e with bound := true }) with
      stats := r.stats.recordBinding }

/-- Call a compiled function with host arguments through its bound code. -/
def invoke (id : Nat) (args : List Arg) : Jit Machine.HostCall := do
  let e ← Jit.entry id
  if e.state = .declared then throw (.notCompiled e.name)
  Jit.ofExcept (checkInvocable e.name e.sig)
  Jit.ofExcept (checkArgs e.name e.sig args)
  bind id
  let r ← get
  let some code := (← Jit.entry id).code | throw (.notCompiled e.name)
  match Machine.callFromHost r.bindings code e.sig args with
  | .ok call => pure call
  | .error fault => throw (.native fault)

/-- Call a function with host arguments through the reference interpreter. -/
def runReference (id : Nat) (args : List Arg) : Jit Interpreter.Outcome := do
  let e ← Jit.entry id
  Jit.ofExcept (checkArgs e.name e.sig args)
  pure (Interpreter.call (← get).library id args Interpreter.maxCallDepth)

/-- The listing of a compiled function is available once it has code. -/
def listing (id : Nat) : Jit Unit := do
  let e ← Jit.entry id
  if e.code.isNone then throw (.notCompiled e.name)

end TypedJit
