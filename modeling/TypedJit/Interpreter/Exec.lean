import TypedJit.Interpreter.Ops
import TypedJit.Syntax.Literal

/-!
Evaluation of expressions and statements by the reference interpreter.
-/

namespace TypedJit.Interpreter

open Ieee

def Run.ofExcept {α : Type} (x : Except RunError α) : Run α :=
  match x with
  | .ok a => pure a
  | .error e => throw e

/-- Convert a value with the dialect's cast rules. -/
def castValue (v : Value) (dst : Ty) (span : Span) : Except RunError Value :=
  let src := v.ty
  if !castable src dst then .error (.compile (.invalidCast (toString src) (toString dst) span))
  else if src = dst then .ok v
  else
    match v, dst with
    | .scalar s, .scalar t => .ok (.scalar (s.cast t))
    | .scalar s, .vector e n => .ok (.vector e (List.replicate n (s.cast e)))
    | .pointer _ r o, t => .ok (.pointer t r o)
    | _, _ => .error (.compile (.internal s!"no conversion of {src} to {dst}" span))

/-- The truth of a value, through a cast to Bool. -/
def truthyValue (v : Value) (span : Span) : Except RunError Bool := do
  match ← castValue v .bool span with
  | .scalar (.bool b) => pure b
  | other => throw (.compile (.invalidCast (toString other.ty) "Bool" span))

def noCommonType (l r : Ty) (symbol : String) (span : Span) : RunError :=
  .compile ⟨.invalidCast, s!"no common type for {l} {symbol} {r}", span, none⟩

/-- A binary operator on the operands' common type, lane by lane on vectors. -/
def binaryValue (op : BinOp) (l r : Value) (span : Span) : Except RunError Value := do
  let some ty := coerce l.ty r.ty | throw (noCommonType l.ty r.ty op.symbol span)
  if ty.operandKind.isNone then
    throw (.compile ⟨.invalidOperation, s!"operator `{op.symbol}` is not defined for {ty}", span, none⟩)
  let a ← castValue l ty span
  let b ← castValue r ty span
  match a, b with
  | .scalar x, .scalar y => .scalar <$> binaryScalar op x y span
  | .vector e xs, .vector _ ys => .vector e <$> (xs.zip ys).mapM fun (x, y) => binaryScalar op x y span
  | _, _ => throw (.compile (.internal "operand shapes differ after coercion" span))

/-- A comparison on the operands' common type, which must be a scalar type. -/
def compareValue (op : CmpOp) (l r : Value) (span : Span) : Except RunError Value := do
  let some ty := coerce l.ty r.ty | throw (noCommonType l.ty r.ty op.symbol span)
  let .scalar _ := ty |
    throw (.compile ⟨.invalidOperation, s!"comparisons are defined on scalars only, not {ty}", span, none⟩)
  let a ← castValue l ty span
  let b ← castValue r ty span
  match a, b with
  | .scalar x, .scalar y => (.scalar ∘ .bool) <$> compareScalar op x y span
  | _, _ => throw (.compile (.internal "comparison operands are not scalars" span))

def unaryValue (op : UnaryOp) (v : Value) (operandSpan span : Span) : Except RunError Value := do
  if op = .not then
    return .scalar (.bool !(← truthyValue v operandSpan))
  match v with
  | .scalar s => .scalar <$> unaryScalar op s span
  | .vector e lanes => .vector e <$> lanes.mapM (unaryScalar op · span)
  | other =>
    throw (.compile ⟨.invalidOperation, s!"operator `{op.symbol}` is not defined for {other.ty}", span, none⟩)

def constantValue (lit : Literal) (span : Span) : Except RunError Value :=
  match lit.toScalar? with
  | some s => .ok (.scalar s)
  | none => .error (.compile (.internal "string literals are not supported" span))

def scalarOf (v : Value) (span : Span) : Except RunError Scalar :=
  match v with
  | .scalar s => .ok s
  | other => .error (.compile (.internal s!"expected a scalar, got {other.ty}" span))

def indexOf (idx : Value) (span : Span) : Except RunError Int :=
  match idx with
  | .scalar s => if s.ty.isInteger then .ok s.toInt else bad
  | _ => bad
where
  bad := .error (.compile ⟨.invalidSubscript, s!"index must be an integer, got {idx.ty}", span, none⟩)

def laneIndex (position : Int) (lanes : Nat) (span : Span) : Except RunError Nat :=
  if position < 0 ∨ position ≥ lanes then .error (.outOfBounds position lanes span)
  else .ok position.toNat

def regionSize (m : Machine) (region : Nat) : Nat := (m.regions[region]?.map (·.size)).getD 0

/-- The position of element `position` of a pointer, checked against its region. -/
def elementIndex (region offset : Nat) (position : Int) (span : Span) : Run Nat := do
  let len := regionSize (← Run.machine) region
  let pos := (offset : Int) + position
  if pos < 0 ∨ pos ≥ len then throw (.outOfBounds position (len - offset) span)
  pure pos.toNat

def declareLocal (name : String) (ty : Ty) (v : Value) (span : Span) : Run Unit := do
  let fr ← get
  let scope ← Run.liftCompile (fr.scope.declare name ty fr.slots.size span)
  set { fr with scope, slots := fr.slots.push v }

def alloc (data : Array Scalar) : Run Nat := do
  let n := (← Run.machine).regions.size
  Run.modifyMachine fun m => { m with regions := m.regions.push data }
  pure n

/-- The zero value of a declared type; arrays get fresh regions. -/
def zeroValue : Ty → Run Value
  | .scalar s => pure (.scalar (Scalar.zero s))
  | .vector e n => pure (.vector e (List.replicate n (Scalar.zero e)))
  | .array e n => do
    let r ← alloc (Array.replicate n (Scalar.zero e))
    pure (.pointer (.array e n) r 0)
  | .unbounded e => do
    let r ← alloc #[]
    pure (.pointer (.unbounded e) r 0)
  | .slice e => do
    let r ← alloc #[]
    pure (.pointer (.slice e) r 0)
  | .void => pure .void

def loadPlace : Place → Run Value
  | .slot i _ => do pure (((← get).slots[i]?).getD .void)
  | .lane slot lane e => do
    match (← get).slots[slot]? with
    | some (.vector _ lanes) => pure (.scalar (lanes[lane]?.getD (Scalar.zero e)))
    | _ => pure (.scalar (Scalar.zero e))
  | .element r i e => do
    let m ← Run.machine
    pure (.scalar (((m.regions[r]?).bind (·[i]?)).getD (Scalar.zero e)))

def storePlace (p : Place) (v : Value) : Run Unit :=
  match p, v with
  | .slot i _, v => modify fun fr => { fr with slots := fr.slots.setIfInBounds i v }
  | .lane slot lane _, .scalar s => modify fun fr =>
    match fr.slots[slot]? with
    | some (.vector e lanes) => { fr with slots := fr.slots.setIfInBounds slot (.vector e (lanes.set lane s)) }
    | _ => fr
  | .element r i _, .scalar s =>
    Run.modifyMachine fun m => { m with regions := m.regions.modify r (·.setIfInBounds i s) }
  | _, _ => pure ()

def callBuiltin (f : FunctionRef) (args : List Value) (span : Span) : Run Value := do
  let xs ← args.mapM fun v => Run.ofExcept (scalarOf v span)
  let (r, byte) ← Run.ofExcept (builtinScalar f xs)
  if let some b := byte then
    Run.modifyMachine fun m => { m with output := m.output.push b }
  pure (.scalar r)

/-- `var(name=Type, …)`: declare each name with the zero of its type. -/
def declareVars (args : List Expr) (kws : List Keyword) (span : Span) : Run Unit := do
  if let some extra := args.head? then
    Run.compileError .invalidUseOfConstruct
      "var() takes only keyword declarations, as in var(x=Int)" extra.span
  if kws.isEmpty then Run.compileError .invalidUseOfConstruct "var() declares nothing" span
  for kw in kws do
    let fr ← get
    let ty ← Run.liftCompile
      ((fr.scope.globals.resolveType kw.value).mapError (·.atIfUnknown kw.value.span))
    if ty.isVoid then
      Run.compileError .invalidUseOfConstruct s!"cannot declare `{kw.name}` as Void" kw.span
    Run.liftCompile (fr.scope.ensureUndeclared kw.name kw.span)
    let v ← zeroValue ty
    declareLocal kw.name ty v kw.span

/-- The bounds of `for x in range(...)`: an optional start and the stop. -/
def rangeBounds (fr : Frame) (iter : Expr) : Run (Option Expr × Expr) :=
  let notRange : Run (Option Expr × Expr) :=
    Run.compileError .invalidUseOfConstruct
      "only `for <name> in range(...)` loops are supported" iter.span
  match iter with
  | .call func args kws _ =>
    if fr.scope.isConstruct func .range then do
      if let some kw := kws.head? then
        Run.compileError .invalidUseOfConstruct s!"range() takes no keyword `{kw.name}`" kw.span
      match args with
      | [stop] => pure (none, stop)
      | [start, stop] => pure (some start, stop)
      | [_, _, step] =>
        Run.compileError .invalidUseOfConstruct "range() with a step is not supported" step.span
      | _ =>
        Run.compileError .invalidUseOfConstruct
          s!"range() takes 1 or 2 arguments, got {args.length}" iter.span
    else notRange
  | _ => notRange

variable (lib : Library)

mutual

def eval : Nat → Expr → Run Value
  | 0, _ => throw .outOfFuel
  | fuel + 1, e => Run.mapError (·.atIfUnknown e.span) <| match e with
    | .const lit span => Run.ofExcept (constantValue lit span)
    | .name n span => do
      match ← Run.liftCompile ((← get).scope.resolve n span) with
      | .bound b => pure (((← get).slots[b.storage]?).getD .void)
      | .global (.constant c) => pure (.scalar c)
      | .global (.function _) =>
        Run.compileError .invalidOperation s!"function `{n}` can only be called" span
      | .global _ => Run.compileError .invalidUseOfConstruct s!"`{n}` is not a value" span
    | .binary op l r span => do
      let lv ← eval fuel l
      let rv ← eval fuel r
      Run.ofExcept (binaryValue op lv rv span)
    | .compare op l r span => do
      let lv ← eval fuel l
      let rv ← eval fuel r
      Run.ofExcept (compareValue op lv rv span)
    | .unary op x span => do
      let v ← eval fuel x
      Run.ofExcept (unaryValue op v x.span span)
    | .logic op l r _ => do
      let lv ← eval fuel l
      let left ← Run.ofExcept (truthyValue lv l.span)
      let result ← match op, left with
        | .and, false => pure false
        | .or, true => pure true
        | _, _ => do
          let rv ← eval fuel r
          Run.ofExcept (truthyValue rv r.span)
      pure (.scalar (.bool result))
    | .call func args kws span => evalCall fuel func args kws span
    | .index value i _ => do
      let container ← eval fuel value
      let idx ← eval fuel i
      let position ← Run.ofExcept (indexOf idx i.span)
      match container with
      | .vector _ lanes => do
        let lane ← Run.ofExcept (laneIndex position lanes.length i.span)
        pure (.scalar (lanes[lane]?.getD default))
      | .pointer _ region offset => do
        let pos ← elementIndex region offset position i.span
        let m ← Run.machine
        pure (.scalar (((m.regions[region]?).bind (·[pos]?)).getD default))
      | other =>
        Run.compileError .invalidSubscript s!"{other.ty} cannot be subscripted" value.span
    | .slice value lo hi span => do
      let container ← eval fuel value
      if let some u := hi then
        Run.compileError .invalidSubscript "slices with an upper bound are not supported" u.span
      let .pointer ty region offset := container |
        Run.compileError .invalidSubscript s!"{container.ty} cannot be sliced" value.span
      let some elem := ty.element |
        Run.compileError .internal s!"{ty} has no element type" span
      let lower ← match lo with
        | some l => do
          let idx ← eval fuel l
          Run.ofExcept (indexOf idx l.span)
        | none => pure 0
      let start := (offset : Int) + lower
      if start < 0 then
        throw (.outOfBounds lower (regionSize (← Run.machine) region) span)
      pure (.pointer (.slice elem) region start.toNat)
    | .unsupported c span =>
      Run.compileError .internal s!"{c} expressions are not supported" span

def evalCall : Nat → Expr → List Expr → List Keyword → Span → Run Value
  | 0, _, _, _, _ => throw .outOfFuel
  | fuel + 1, func, args, kws, span => do
    let some name := func.asName? |
      Run.compileError .invalidCall "only named functions can be called" func.span
    let sym ← match ← Run.liftCompile ((← get).scope.resolve name func.span) with
      | .bound _ => Run.compileError .invalidCall s!"local `{name}` is not callable" func.span
      | .global s => pure s
    match sym with
    | .function f => do
      if let some kw := kws.head? then
        Run.compileError .invalidCall s!"keyword argument `{kw.name}` is not supported" kw.span
      if args.length ≠ f.sig.params.length then
        Run.compileError .invalidCall
          s!"`{f.symbol}` takes {f.sig.params.length} argument(s), got {args.length}" span
      let values ← evalArgs fuel args f.sig.params
      if f.builtin then callBuiltin f values span else callFunction fuel f.id values span
    | .type .void => Run.compileError .invalidCall "Void cannot be called" func.span
    | .type ty => do
      let [arg] := args |
        Run.compileError .invalidCall s!"cast to {ty} takes exactly one argument" span
      if let some kw := kws.head? then
        Run.compileError .invalidCall s!"cast to {ty} takes no keyword `{kw.name}`" kw.span
      let v ← eval fuel arg
      Run.ofExcept (castValue v ty span)
    | .ctor _ =>
      Run.compileError .invalidUseOfConstruct
        s!"`{name}(...)` is only valid as a type in var()" span
    | .construct _ =>
      Run.compileError .invalidUseOfConstruct
        s!"`{name}(...)` cannot be used as an expression" span
    | .constant _ => Run.compileError .invalidCall s!"constant `{name}` is not callable" func.span

/-- Evaluate call arguments left to right, each cast to its parameter's type. -/
def evalArgs : Nat → List Expr → List Ty → Run (List Value)
  | 0, _, _ => throw .outOfFuel
  | _ + 1, [], _ => pure []
  | _ + 1, _ :: _, [] => pure []
  | fuel + 1, a :: as, p :: ps => do
    let v ← eval fuel a
    let c ← Run.ofExcept (castValue v p a.span)
    let rest ← evalArgs fuel as ps
    pure (c :: rest)

/-- Call dialect function `id`: check the depth limit, bind the arguments in a fresh frame, run
the body, and wrap a compile error with the innermost function's context. -/
def callFunction : Nat → Nat → List Value → Span → Run Value
  | 0, _, _, _ => throw .outOfFuel
  | fuel + 1, id, values, _ => do
    let name := (lib.name? id).getD "<unknown>"
    let m ← Run.machine
    if m.depth ≥ m.maxDepth then throw (.callDepth m.maxDepth)
    let some (f, sig) := lib.definition? id | throw (.missingBody name)
    Run.modifyMachine fun m => { m with depth := m.depth + 1 }
    let saved ← get
    set ({ scope := { globals := lib.globals }, slots := #[], ret := sig.ret } : Frame)
    let result ← tryCatch (execute fuel f sig values) fun e => do
      Run.modifyMachine fun m => { m with depth := m.depth - 1 }
      match e with
      | .compile c => throw (.compile (c.inFunction f))
      | other => throw other
    Run.modifyMachine fun m => { m with depth := m.depth - 1 }
    set saved
    pure result

def execute : Nat → FunctionDef → Signature → List Value → Run Value
  | 0, _, _, _ => throw .outOfFuel
  | fuel + 1, f, sig, values => do
    for ((p, ty), v) in (f.params.zip sig.params).zip values do
      let c ← Run.ofExcept (castValue v ty p.span)
      declareLocal p.name ty c p.span
    match ← execBlock fuel f.body with
    | .returned v => pure v
    | .next =>
      if sig.ret.isVoid then pure .void
      else
        Run.compileError .missingReturn
          s!"`{f.name}` reached its end without returning {sig.ret}"
          ((f.body.getLast?.map Stmt.span).getD f.span)

def execBlock : Nat → List Stmt → Run Flow
  | 0, _ => throw .outOfFuel
  | _ + 1, [] => pure .next
  | fuel + 1, s :: rest => do
    match ← Run.mapError (·.atIfUnknown s.span) (execStmt fuel s) with
    | .returned v => pure (.returned v)
    | .next => execBlock fuel rest

def execStmt : Nat → Stmt → Run Flow
  | 0, _ => throw .outOfFuel
  | fuel + 1, s => match s with
    | .assign t v _ => do
      assign fuel t v
      pure .next
    | .augAssign t op v _ => do
      let p ← place fuel t
      let cur ← loadPlace p
      let rhs ← eval fuel v
      let r ← Run.ofExcept (binaryValue op cur rhs v.span)
      let stored ← Run.ofExcept (castValue r p.ty v.span)
      storePlace p stored
      pure .next
    | .eval e _ => match e with
      | .const (.str _) _ => pure .next
      | .call func args kws span => do
        if (← get).scope.isConstruct func .var then declareVars args kws span
        else
          let _ ← eval fuel e
        pure .next
      | _ => do
        let _ ← eval fuel e
        pure .next
    | .branch test body orelse _ => do
      let c ← eval fuel test
      let b ← Run.ofExcept (truthyValue c test.span)
      execBlock fuel (if b then body else orelse)
    | .forLoop target ts iter body _ => execFor fuel target ts iter body
    | .whileLoop test body _ => execWhile fuel test body
    | .ret value span => execReturn fuel value span
    | .pass _ => pure .next
    | .unsupported c span =>
      Run.compileError .internal s!"{c} statements are not supported" span

/-- `target = value`. An unseen local name is declared with the value's type, a bounded
array's decaying to an unbounded one; otherwise the value is evaluated before the target. -/
def assign : Nat → Expr → Expr → Run Unit
  | 0, _, _ => throw .outOfFuel
  | fuel + 1, target, value => do
    let fr ← get
    if let some n := target.asName? then
      if (fr.scope.local? n).isNone && !fr.scope.globals.contains n then
        let rhs ← eval fuel value
        let ty ← match rhs.ty with
          | .void =>
            Run.compileError .invalidOperation
              s!"cannot assign a Void result to `{n}`" value.span
          | .array e _ => pure (.unbounded e)
          | t => pure t
        let c ← Run.ofExcept (castValue rhs ty value.span)
        declareLocal n ty c target.span
        return
    let rhs ← eval fuel value
    let p ← place fuel target
    if let .array .. := p.ty then
      Run.compileError .invalidOperation "cannot assign to a bounded array as a whole" target.span
    let stored ← Run.ofExcept (castValue rhs p.ty value.span)
    storePlace p stored

/-- The location an assignment target denotes. -/
def place : Nat → Expr → Run Place
  | 0, _ => throw .outOfFuel
  | fuel + 1, target => match target with
    | .name n span => do
      match ← Run.liftCompile ((← get).scope.resolve n span) with
      | .bound b => pure (.slot b.storage b.ty)
      | .global _ => Run.compileError .invalidOperation s!"cannot assign to global `{n}`" span
    | .slice .. => Run.compileError .invalidSubscript "cannot assign to a slice" target.span
    | .index value i _ => do
      let container ← eval fuel value
      let idx ← eval fuel i
      let position ← Run.ofExcept (indexOf idx i.span)
      let fr ← get
      let localVector := (value.asName?.bind fr.scope.local?).bind fun b =>
        if b.ty.isVector then some b.storage else none
      match container, localVector with
      | .vector e lanes, some slot => do
        let lane ← Run.ofExcept (laneIndex position lanes.length i.span)
        pure (.lane slot lane e)
      | .vector .., none =>
        Run.compileError .invalidSubscript
          "cannot assign to a lane of a temporary vector" target.span
      | .pointer ty region offset, _ => do
        let some e := ty.element |
          Run.compileError .internal s!"{ty} has no element type" target.span
        let index ← elementIndex region offset position i.span
        pure (.element region index e)
      | other, _ =>
        Run.compileError .invalidSubscript s!"{other.ty} cannot be subscripted" value.span
    | _ => Run.compileError .invalidOperation "cannot assign to this expression" target.span

/-- `for target in range(...)`: the bounds are evaluated once, converted to their common
integer type, and the body runs while the counter is below the stop. -/
def execFor : Nat → String → Span → Expr → List Stmt → Run Flow
  | 0, _, _, _, _ => throw .outOfFuel
  | fuel + 1, target, ts, iter, body => do
    let fr ← get
    let (start?, stop) ← rangeBounds fr iter
    Run.liftCompile (fr.scope.ensureUndeclared target ts)
    let start ← match start? with
      | some e => eval fuel e
      | none => pure (.scalar (.i32 0))
    let stopV ← eval fuel stop
    let bad : Run ScalarType := Run.compileError .invalidUseOfConstruct
      s!"range() bounds must be integers, got {start.ty} and {stopV.ty}" iter.span
    let kind ← match coerce start.ty stopV.ty with
      | some (.scalar s) => if s.isInteger then pure s else bad
      | _ => bad
    let initial ← Run.ofExcept (castValue start (.scalar kind) iter.span)
    declareLocal target (.scalar kind) initial ts
    let slot := (← get).slots.size - 1
    let stopValue ← Run.ofExcept (castValue stopV (.scalar kind) stop.span)
    let stopScalar ← Run.ofExcept (scalarOf stopValue stop.span)
    forSteps fuel slot stopScalar.toInt kind iter.span body

def forSteps : Nat → Nat → Int → ScalarType → Span → List Stmt → Run Flow
  | 0, _, _, _, _, _ => throw .outOfFuel
  | fuel + 1, slot, stop, kind, span, body => do
    let cur ← Run.ofExcept (scalarOf (((← get).slots[slot]?).getD .void) span)
    if cur.toInt ≥ stop then return .next
    match ← execBlock fuel body with
    | .returned v => pure (.returned v)
    | .next => do
      let cur ← Run.ofExcept (scalarOf (((← get).slots[slot]?).getD .void) span)
      let next := (Scalar.i64 (Int64.ofInt cur.toInt + 1)).cast kind
      modify fun fr => { fr with slots := fr.slots.setIfInBounds slot (.scalar next) }
      forSteps fuel slot stop kind span body

def execWhile : Nat → Expr → List Stmt → Run Flow
  | 0, _, _ => throw .outOfFuel
  | fuel + 1, test, body => do
    let c ← eval fuel test
    if !(← Run.ofExcept (truthyValue c test.span)) then return .next
    match ← execBlock fuel body with
    | .returned v => pure (.returned v)
    | .next => execWhile fuel test body

def execReturn : Nat → Option Expr → Span → Run Flow
  | 0, _, _ => throw .outOfFuel
  | fuel + 1, value, span => do
    let ret := (← get).ret
    match value, ret with
    | none, .void => pure (.returned .void)
    | none, ty =>
      Run.compileError .invalidReturn s!"bare return in a function returning {ty}" span
    | some e, .void =>
      Run.compileError .invalidReturn "returning a value from a Void function" e.span
    | some e, ty => do
      let r ← eval fuel e
      if !castable r.ty ty then
        Run.compileError .invalidReturn
          s!"cannot return {r.ty} from a function returning {ty}" e.span
      pure (.returned (← Run.ofExcept (castValue r ty e.span)))

end

end TypedJit.Interpreter
