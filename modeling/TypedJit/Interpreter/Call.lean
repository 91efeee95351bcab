import TypedJit.Interpreter.Exec

/-!
Calling a dialect function from the host with the reference interpreter.
-/

namespace TypedJit.Interpreter

/-- The step budget of one host call. -/
def stepBudget : Nat := 1000000000

/-- How deeply calls nest unless a caller asks for another limit. -/
def maxCallDepth : Nat := 128

/-- The outcome of a host call: its result (`none` for Void), the buffers after the call, and
the bytes written. -/
structure Outcome where
  result : Except RunError (Option Scalar)
  buffers : List HostBuffer
  output : List UInt8

/-- Bind one host argument for parameter type `p`: a scalar is passed as it is, a buffer is
copied into a fresh region and passed as a pointer to it. -/
def bindArg (acc : List Value × Machine × List Nat) (ap : Arg × Ty) :
    List Value × Machine × List Nat :=
  let (vs, m, rs) := acc
  match ap with
  | (.scalar s, _) => (vs ++ [.scalar s], m, rs)
  | (.buffer b, p) =>
    let r := m.regions.size
    (vs ++ [.pointer p r 0], { m with regions := m.regions.push b.data }, rs ++ [r])

/-- Bind the host arguments: the values passed, the machine with one region per buffer, and
for each buffer its region. -/
def bindArgs (args : List Arg) (params : List Ty) (m : Machine) :
    List Value × Machine × List Nat :=
  (args.zip params).foldl bindArg ([], m, [])

/-- Copy a region back into the buffer it came from. -/
def copyBack (m : Machine) (b : HostBuffer) (region : Nat) : HostBuffer :=
  let data := (m.regions[region]?).getD #[]
  (List.range data.size).foldl (fun b j => (data[j]?).elim b (b.setOrKeep j ·)) b

/-- The host's view of a returned value. -/
def hostResult (v : Value) : Except RunError (Option Scalar) :=
  match v with
  | .scalar s => .ok (some s)
  | .void => .ok none
  | other => .error (.arguments s!"a {other.ty} result cannot be returned to the host")

/-- Call function `id` of `lib` with host arguments, nesting calls at most `maxDepth` deep. -/
def call (lib : Library) (id : Nat) (args : List Arg) (maxDepth : Nat) : Outcome :=
  let name := (lib.name? id).getD "<unknown>"
  let buffers := Arg.buffers args
  let failed (e : RunError) : Outcome := ⟨.error e, buffers, []⟩
  match lib.definition? id with
  | none => failed (.missingBody name)
  | some (_, sig) =>
    if args.length ≠ sig.params.length then
      failed (.arguments s!"`{name}` takes {sig.params.length} argument(s), got {args.length}")
    else
      let (values, m, regions) := bindArgs args sig.params { maxDepth }
      let frame : Frame := { scope := { globals := lib.globals }, slots := #[], ret := .void }
      let (r, m) := ((callFunction lib stepBudget id values Span.unknown).run frame).run.run m
      let output := m.output.toList
      match r with
      | .error e => ⟨.error e, buffers, output⟩
      | .ok (v, _) =>
        let after := (buffers.zip regions).map fun (b, r) => copyBack m b r
        ⟨hostResult v, after, output⟩

end TypedJit.Interpreter
