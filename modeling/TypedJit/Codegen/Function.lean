import TypedJit.Codegen.Expr
import TypedJit.Host.Check

/-!
Code for statements and whole functions.
-/

namespace TypedJit.Codegen

open Machine

/-- `var(name=Type, …)`: a zeroed slot per name. -/
def genVar (args : List Expr) (kws : List Keyword) (span : Span) : Gen Unit := do
  if let some extra := args.head? then
    Gen.fail .invalidUseOfConstruct
      "var() takes only keyword declarations, as in var(x=Int)" extra.span
  if kws.isEmpty then Gen.fail .invalidUseOfConstruct "var() declares nothing" span
  for kw in kws do
    let st ← get
    let ty ← Gen.lift ((st.scope.globals.resolveType kw.value).mapError (·.atIfUnknown kw.value.span))
    if ty.isVoid then
      Gen.fail .invalidUseOfConstruct s!"cannot declare `{kw.name}` as Void" kw.span
    Gen.lift (st.scope.ensureUndeclared kw.name kw.span)
    let ptr ← allocaFor ty kw.name kw.span
    declareName kw.name ty ptr kw.span
where
  declareName (name : String) (ty : Ty) (ptr : Nat) (span : Span) : Gen Unit := do
    let st ← get
    let scope ← Gen.lift (st.scope.declare name ty ptr span)
    set { st with scope }

def declareLocal (name : String) (ty : Ty) (ptr : Nat) (span : Span) : Gen Unit := do
  let st ← get
  let scope ← Gen.lift (st.scope.declare name ty ptr span)
  set { (← get) with scope }

/-- The bounds of `for x in range(...)`: an optional start and the stop. -/
def loopBounds (iter : Expr) : Gen (Option Expr × Expr) := do
  let notRange : Gen (Option Expr × Expr) :=
    Gen.fail .invalidUseOfConstruct "only `for <name> in range(...)` loops are supported" iter.span
  match iter with
  | .call func args kws _ =>
    if (← get).scope.isConstruct func .range then
      if let some kw := kws.head? then
        Gen.fail .invalidUseOfConstruct s!"range() takes no keyword `{kw.name}`" kw.span
      match args with
      | [stop] => pure (none, stop)
      | [start, stop] => pure (some start, stop)
      | [_, _, step] => Gen.fail .invalidUseOfConstruct "range() with a step is not supported" step.span
      | _ =>
        Gen.fail .invalidUseOfConstruct
          s!"range() takes 1 or 2 arguments, got {args.length}" iter.span
    else notRange
  | _ => notRange

variable (ret : Ty)

mutual

def genBlock : Nat → List Stmt → Gen Unit
  | 0, _ => Gen.fail .internal "statement nesting is too deep" .unknown
  | _ + 1, [] => pure ()
  | fuel + 1, s :: rest => do
    if ← isTerminated then return
    Gen.mapError (·.atIfUnknown s.span) (genStmt fuel s)
    genBlock fuel rest

def genStmt : Nat → Stmt → Gen Unit
  | 0, s => Gen.fail .internal "statement nesting is too deep" s.span
  | fuel + 1, s => match s with
    | .assign target value _ => genAssign fuel target value
    | .augAssign target op value _ => do
      let slot ← genTarget fuel target
      let rhs ← genExpr fuel value
      let result ← binaryValue op (.slot slot) rhs value.span
      let stored ← castValue result slot.ty value.span
      slot.store stored
    | .eval e _ => match e with
      | .const (.str _) _ => pure ()
      | .call func args kws span => do
        if (← get).scope.isConstruct func .var then genVar args kws span
        else discard (genExpr fuel e)
      | _ => discard (genExpr fuel e)
    | .branch test body orelse _ => genIf fuel test body orelse
    | .forLoop target ts iter body _ => genFor fuel target ts iter body
    | .whileLoop test body _ => do
      let condBb ← appendBlock "whilecond"
      let bodyBb ← appendBlock "whilebody"
      let exitBb ← appendBlock "whileexit"
      emit (.br condBb)
      positionAt condBb
      let c ← genExpr fuel test
      let flag ← toBool c test.span
      emit (.condBr flag bodyBb exitBb)
      positionAt bodyBb
      genBlock fuel body
      if !(← isTerminated) then emit (.br condBb)
      positionAt exitBb
    | .ret value span => genReturn fuel value span
    | .pass _ => pure ()
    | .unsupported c span => Gen.fail .internal s!"{c} statements are not supported" span

/-- `target = value`; an unseen local name is declared with the value's type. -/
def genAssign : Nat → Expr → Expr → Gen Unit
  | 0, target, _ => Gen.fail .internal "statement nesting is too deep" target.span
  | fuel + 1, target, value => do
    let st ← get
    if let some n := target.asName? then
      if (st.scope.local? n).isNone && !st.scope.globals.contains n then
        let rhs ← genExpr fuel value
        let ty ← match rhs.ty with
          | .void =>
            Gen.fail .invalidOperation s!"cannot assign a Void result to `{n}`" value.span
          | .array e _ => pure (.unbounded e)
          | t => pure t
        let ptr ← allocaFor ty n target.span
        let stored ← castValue rhs ty value.span
        store stored (.reg ptr)
        declareLocal n ty ptr target.span
        return
    let rhs ← genExpr fuel value
    let slot ← genTarget fuel target
    if let .array .. := slot.ty then
      Gen.fail .invalidOperation "cannot assign to a bounded array as a whole" target.span
    let stored ← castValue rhs slot.ty value.span
    slot.store stored

def genIf : Nat → Expr → List Stmt → List Stmt → Gen Unit
  | 0, test, _, _ => Gen.fail .internal "statement nesting is too deep" test.span
  | fuel + 1, test, body, orelse => do
    let c ← genExpr fuel test
    let flag ← toBool c test.span
    let thenBb ← appendBlock "if"
    let elseBb ← if orelse.isEmpty then pure none else some <$> appendBlock "else"
    let endBb ← appendBlock "endif"
    emit (.condBr flag thenBb (elseBb.getD endBb))
    positionAt thenBb
    genBlock fuel body
    let thenFalls := !(← isTerminated)
    if thenFalls then emit (.br endBb)
    let mut elseFalls := true
    if let some bb := elseBb then
      positionAt bb
      genBlock fuel orelse
      elseFalls := !(← isTerminated)
      if elseFalls then emit (.br endBb)
    positionAt endBb
    if !thenFalls && !elseFalls then emit .unreachable

/-- `for target in range(...)`: the counter counts up from the start while below the stop. -/
def genFor : Nat → String → Span → Expr → List Stmt → Gen Unit
  | 0, _, ts, _, _ => Gen.fail .internal "statement nesting is too deep" ts
  | fuel + 1, target, ts, iter, body => do
    let (start?, stop) ← loopBounds iter
    Gen.lift ((← get).scope.ensureUndeclared target ts)
    let start ← match start? with
      | some e => genExpr fuel e
      | none => pure (.const (.i32 0))
    let stopValue ← genExpr fuel stop
    let bad : Gen ScalarType := Gen.fail .invalidUseOfConstruct
      s!"range() bounds must be integers, got {start.ty} and {stopValue.ty}" iter.span
    let kind ← match coerce start.ty stopValue.ty with
      | some (.scalar s) => if s.isInteger then pure s else bad
      | _ => bad
    let counterTy : Ty := .scalar kind
    let counter ← allocaFor counterTy target ts
    declareLocal target counterTy counter ts
    let initial ← castValue start counterTy iter.span
    store initial (.reg counter)
    let stopOp ← castValue stopValue counterTy stop.span
    let condBb ← appendBlock "loopcond"
    let bodyBb ← appendBlock "loopbody"
    let incrBb ← appendBlock "loopincr"
    let exitBb ← appendBlock "loopexit"
    emit (.br condBb)
    positionAt condBb
    let current ← load (.scalar kind) (.reg counter)
    let more ← icmp .slt current stopOp
    emit (.condBr more bodyBb exitBb)
    positionAt bodyBb
    genBlock fuel body
    if !(← isTerminated) then emit (.br incrBb)
    positionAt incrBb
    let current ← load (.scalar kind) (.reg counter)
    let next ← binary .add current (.const (.scalar (Scalar.ofInt kind 1)))
    store next (.reg counter)
    emit (.br condBb)
    positionAt exitBb

def genReturn : Nat → Option Expr → Span → Gen Unit
  | 0, _, span => Gen.fail .internal "statement nesting is too deep" span
  | fuel + 1, value, span => do
    match value, ret with
    | none, .void => emit (.ret none)
    | none, ty => Gen.fail .invalidReturn s!"bare return in a function returning {ty}" span
    | some e, .void => Gen.fail .invalidReturn "returning a value from a Void function" e.span
    | some e, ty => do
      let r ← genExpr fuel e
      if !castable r.ty ty then
        Gen.fail .invalidReturn s!"cannot return {r.ty} from a function returning {ty}" e.span
      let v ← castValue r ty e.span
      emit (.ret (some v))

end

/-- The nesting budget of one function's code generation. -/
def nestingBudget : Nat := 100000

/-- The code of a function and the dialect functions it calls. -/
structure Compiled where
  code : Code
  callees : List Nat

/-- Generate the body of `f`: parameters into slots, the statements, and the closing return. -/
def genFunction (f : FunctionDef) (sig : Signature) : Gen Unit := do
  if f.params.length ≠ sig.params.length then
    Gen.fail .functionDeclaration
      s!"`{f.name}` has {f.params.length} parameters but {sig.params.length} argument types were declared"
      f.span
  Gen.lift (sig.validate f.name f.span)
  let entry ← appendBlock "entry"
  positionAt entry
  for ((p, ty), i) in (f.params.zip sig.params).zipIdx do
    Gen.lift ((← get).scope.ensureUndeclared p.name p.span)
    let slot ← allocaFor ty p.name p.span
    store (.reg i) (.reg slot)
    declareLocal p.name ty slot p.span
  genBlock sig.ret nestingBudget f.body
  if !(← isTerminated) then
    if sig.ret.isVoid then emit (.ret none)
    else
      Gen.fail .missingReturn
        s!"`{f.name}` returns {sig.ret} but control can reach the end of the function"
        ((f.body.getLast?.map Stmt.span).getD f.span)

/-- Compile `f` with signature `sig` under `symbol` against `globals`, recording the outcome in
the session statistics. -/
def compileFunction (globals : Globals) (f : FunctionDef) (sig : Signature) (symbol : String) :
    StateM SessionStats (Except CompileError Compiled) := do
  let start : GenState :=
    { blocks := #[], nextReg := sig.params.length, scope := { globals },
      declared := [(symbol, machineSignature sig)] }
  let result ← ((genFunction f sig).run start).run
  match result with
  | .error e =>
    modify SessionStats.recordFailed
    pure (.error (e.inFunction f))
  | .ok ((), st) =>
    -- The entry block holds the stack slots first, the blocks keep their creation order.
    let blocks := st.blocks.modify 0 fun b => { b with insts := st.entryPrefix.toArray ++ b.insts }
    let code : Code := { symbol, sig, blocks, registers := st.nextReg }
    if !code.wellTerminated then
      modify SessionStats.recordFailed
      return .error ((CompileError.internal s!"backend verification of `{f.name}` failed" f.span).inFunction f)
    for i in code.insts do
      modify (·.recordInstruction i.mnemonic)
    modify (·.recordCompiled f.name code.insts.length)
    pure (.ok { code, callees := (st.callees.mergeSort (· ≤ ·)).eraseDups })

end TypedJit.Codegen
