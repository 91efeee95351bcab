import TypedJit.Codegen.Builder
import TypedJit.Syntax.Literal

/-!
Code for expressions.
-/

namespace TypedJit.Codegen

open Machine

/-- `operator … is not defined for … operands` -/
def undefinedOperator (symbol kind : String) (span : Span) : Gen α :=
  Gen.fail .invalidOperation s!"operator `{symbol}` is not defined for {kind} operands" span

def operandKindOf (ty : Ty) (symbol : String) (span : Span) : Gen ScalarType :=
  match ty.operandKind with
  | some k => pure k
  | none => Gen.fail .invalidOperation s!"operator `{symbol}` is not defined for {ty}" span

def scalarElement (ty : Ty) (span : Span) : Gen ScalarType :=
  match ty.element with
  | some e => pure e
  | none => Gen.fail .internal s!"{ty} has no element type" span

def commonType (l r : Ty) (symbol : String) (span : Span) : Gen Ty :=
  match coerce l r with
  | some t => pure t
  | none => Gen.fail .invalidCast s!"no common type for {l} {symbol} {r}" span

/-- A binary operator on operands of element kind `kind`. -/
def kindBinary (kind : ScalarType) (op : BinOp) (l r : Operand) (span : Span) : Gen Operand :=
  if kind.isBool then
    match op with
    | .bitAnd => binary .and l r
    | .bitOr => binary .or l r
    | .bitXor => binary .xor l r
    | _ => undefinedOperator op.symbol "Bool" span
  else if kind.isReal then
    match op with
    | .add => binary .fadd l r
    | .sub => binary .fsub l r
    | .mul => binary .fmul l r
    | .div => binary .fdiv l r
    | .mod => binary .frem l r
    | _ => undefinedOperator op.symbol "real" span
  else
    binary (match op with
      | .add => .add | .sub => .sub | .mul => .mul | .div => .sdiv | .mod => .srem
      | .bitAnd => .and | .bitOr => .or | .bitXor => .xor | .shl => .shl | .shr => .ashr) l r

/-- A comparison of scalars of kind `kind`. -/
def kindCompare (kind : ScalarType) (op : CmpOp) (l r : Operand) (span : Span) : Gen Operand :=
  if kind.isBool then
    match op with
    | .eq => icmp .eq l r
    | .ne => icmp .ne l r
    | _ => undefinedOperator op.symbol "Bool" span
  else if kind.isReal then
    fcmp (match op with
      | .eq => .oeq | .ne => .une | .lt => .olt | .le => .ole | .gt => .ogt | .ge => .oge) l r
  else
    icmp (match op with
      | .eq => .eq | .ne => .ne | .lt => .slt | .le => .sle | .gt => .sgt | .ge => .sge) l r

/-- `+`, `-` and `~` on a value of type `ty` and element kind `kind`. -/
def kindUnary (kind : ScalarType) (ty : Ty) (op : UnaryOp) (v : Operand) (span : Span) :
    Gen Operand := do
  let name := if kind.isBool then "Bool" else if kind.isReal then "real" else "integer"
  if kind.isBool then return ← undefinedOperator op.symbol name span
  match op with
  | .plus => pure v
  | .neg => if kind.isReal then fneg v else negate (← valueType ty) v
  | .invert => if kind.isReal then undefinedOperator op.symbol name span else invert (← valueType ty) v
  | .not => undefinedOperator op.symbol name span

/-- Arithmetic and bitwise operators on converted operands. -/
def binaryValue (op : BinOp) (lhs rhs : TValue) (span : Span) : Gen TValue := do
  let ty ← commonType lhs.ty rhs.ty op.symbol span
  let kind ← operandKindOf ty op.symbol span
  let l ← castValue lhs ty span
  let r ← castValue rhs ty span
  let v ← Gen.mapError (·.atIfUnknown span) (kindBinary kind op l r span)
  pure (.temp ty v)

def toBool (v : TValue) (span : Span) : Gen Operand := castValue v .bool span

def constantValue (lit : Literal) (span : Span) : Gen TValue :=
  match lit.toScalar? with
  | some s => pure (.const s)
  | none => Gen.fail .internal "string literals are not supported" span

/-- An integer index widened to 64 bits. -/
def indexValue (idx : TValue) (span : Span) : Gen Operand :=
  match idx.ty with
  | .scalar s =>
    if s.isInteger then castValue idx .int64 span
    else Gen.fail .invalidSubscript s!"index must be an integer, got {idx.ty}" span
  | other => Gen.fail .invalidSubscript s!"index must be an integer, got {other}" span

def nameValue (name : String) (span : Span) : Gen TValue := do
  match ← Gen.lift ((← get).scope.resolve name span) with
  | .bound b => pure (.var b.ty b.storage)
  | .global (.constant c) => pure (.const c)
  | .global (.function _) =>
    Gen.fail .invalidOperation s!"function `{name}` can only be called" span
  | .global _ => Gen.fail .invalidUseOfConstruct s!"`{name}` is not a value" span

/-- The machine signature of a dialect signature. -/
def machineSignature (sig : Signature) : List Mty × Option Mty :=
  (sig.params.filterMap Mty.ofTy, Mty.ofTy sig.ret)

/-- Refer to a callee in the module; a symbol is declared with one signature only. -/
def declareCallee (f : FunctionRef) (span : Span) : Gen Unit := do
  let st ← get
  let shape := machineSignature f.sig
  match st.declared.lookup f.symbol with
  | some existing =>
    if existing ≠ shape then
      Gen.fail .functionDeclaration s!"`{f.symbol}` is declared with a conflicting signature" span
  | none => set { st with declared := st.declared ++ [(f.symbol, shape)] }

mutual

def genExpr : Nat → Expr → Gen TValue
  | 0, e => Gen.fail .internal "expression nesting is too deep" e.span
  | fuel + 1, e => Gen.mapError (·.atIfUnknown e.span) <| match e with
    | .const lit span => constantValue lit span
    | .name n span => nameValue n span
    | .binary op l r span => do
      let lv ← genExpr fuel l
      let rv ← genExpr fuel r
      binaryValue op lv rv span
    | .compare op l r span => do
      let lv ← genExpr fuel l
      let rv ← genExpr fuel r
      let ty ← commonType lv.ty rv.ty op.symbol span
      let .scalar kind := ty |
        Gen.fail .invalidOperation s!"comparisons are defined on scalars only, not {ty}" span
      let a ← castValue lv ty span
      let b ← castValue rv ty span
      let flag ← kindCompare kind op a b span
      pure (.temp .bool flag)
    | .unary op x span => do
      let v ← genExpr fuel x
      if op = .not then
        let flag ← toBool v x.span
        let negated ← invert (.scalar .bool) flag
        return .temp .bool negated
      let ty := v.ty
      let kind ← operandKindOf ty op.symbol span
      let raw ← materialize v
      let r ← kindUnary kind ty op raw span
      pure (.temp ty r)
    | .logic op l r _ => do
      let lv ← genExpr fuel l
      let leftFlag ← toBool lv l.span
      let leftEnd ← currentBlock
      let right ← appendBlock "bool_right"
      let merge ← appendBlock "bool_result"
      match op with
      | .and => emit (.condBr leftFlag right merge)
      | .or => emit (.condBr leftFlag merge right)
      positionAt right
      let rv ← genExpr fuel r
      let rightFlag ← toBool rv r.span
      let rightEnd ← currentBlock
      emit (.br merge)
      positionAt merge
      let shortCircuit : Operand := .const (.scalar (.bool (op == .or)))
      let v ← emitValue (.phi · [(shortCircuit, leftEnd), (rightFlag, rightEnd)])
      pure (.temp .bool v)
    | .call func args kws span => genCall fuel func args kws span
    | .index value i span => genIndex fuel value i span
    | .slice value lo hi span => genSlice fuel value lo hi span
    | .unsupported c span => Gen.fail .internal s!"{c} expressions are not supported" span

def genCall : Nat → Expr → List Expr → List Keyword → Span → Gen TValue
  | 0, _, _, _, span => Gen.fail .internal "expression nesting is too deep" span
  | fuel + 1, func, args, kws, span => do
    let some name := func.asName? |
      Gen.fail .invalidCall "only named functions can be called" func.span
    let sym ← match ← Gen.lift ((← get).scope.resolve name func.span) with
      | .bound _ => Gen.fail .invalidCall s!"local `{name}` is not callable" func.span
      | .global s => pure s
    match sym with
    | .function f => do
      if let some kw := kws.head? then
        Gen.fail .invalidCall s!"keyword argument `{kw.name}` is not supported" kw.span
      if args.length ≠ f.sig.params.length then
        Gen.fail .invalidCall
          s!"`{f.symbol}` takes {f.sig.params.length} argument(s), got {args.length}" span
      let values ← genArgs fuel args f.sig.params
      declareCallee f span
      let dst ← if f.sig.ret.isVoid then pure none else some <$> fresh
      emit (.call dst f.symbol f.sig values)
      Gen.record SessionStats.recordCall
      if !f.builtin then modify fun st => { st with callees := st.callees ++ [f.id] }
      match dst with
      | some r => pure (.temp f.sig.ret (.reg r))
      | none => pure .void
    | .type .void => Gen.fail .invalidCall "Void cannot be called" func.span
    | .type ty => do
      let [arg] := args |
        Gen.fail .invalidCall s!"cast to {ty} takes exactly one argument" span
      if let some kw := kws.head? then
        Gen.fail .invalidCall s!"cast to {ty} takes no keyword `{kw.name}`" kw.span
      let v ← genExpr fuel arg
      let raw ← castValue v ty span
      pure (.temp ty raw)
    | .ctor _ =>
      Gen.fail .invalidUseOfConstruct s!"`{name}(...)` is only valid as a type in var()" span
    | .construct _ =>
      Gen.fail .invalidUseOfConstruct s!"`{name}(...)` cannot be used as an expression" span
    | .constant _ => Gen.fail .invalidCall s!"constant `{name}` is not callable" func.span

/-- Call arguments in order, each converted to its parameter type. -/
def genArgs : Nat → List Expr → List Ty → Gen (List Operand)
  | 0, _, _ => Gen.fail .internal "expression nesting is too deep" .unknown
  | _ + 1, [], _ => pure []
  | _ + 1, _ :: _, [] => pure []
  | fuel + 1, a :: as, p :: ps => do
    let v ← genExpr fuel a
    let c ← castValue v p a.span
    let rest ← genArgs fuel as ps
    pure (c :: rest)

def genIndex : Nat → Expr → Expr → Span → Gen TValue
  | 0, _, _, span => Gen.fail .internal "expression nesting is too deep" span
  | fuel + 1, value, i, span => do
    let container ← genExpr fuel value
    let ty := container.ty
    let idx ← genExpr fuel i
    let position ← indexValue idx i.span
    match ty, container with
    | .vector .., .var _ ptr => pure (.slot (.lane ptr ty position))
    | .vector e _, _ => do
      let v ← materialize container
      let lane ← extract v position
      pure (.temp (.scalar e) lane)
    | _, _ =>
      if ty.isArrayLike then
        let elem ← scalarElement ty span
        let base ← materialize container
        let p ← elementAddress base position
        pure (.slot (.memory (.scalar elem) p))
      else Gen.fail .invalidSubscript s!"{ty} cannot be subscripted" value.span

def genSlice : Nat → Expr → Option Expr → Option Expr → Span → Gen TValue
  | 0, _, _, _, span => Gen.fail .internal "expression nesting is too deep" span
  | fuel + 1, value, lo, hi, span => do
    let container ← genExpr fuel value
    let ty := container.ty
    if let some u := hi then
      Gen.fail .invalidSubscript "slices with an upper bound are not supported" u.span
    if !ty.isArrayLike then Gen.fail .invalidSubscript s!"{ty} cannot be sliced" value.span
    let elem ← scalarElement ty span
    let offset ← match lo with
      | some l => do
        let idx ← genExpr fuel l
        indexValue idx l.span
      | none => pure (indexConst 0)
    let base ← materialize container
    let p ← elementAddress base offset
    pure (.temp (.slice elem) p)

end

/-- The slot an assignment target denotes. -/
def genTarget (fuel : Nat) (target : Expr) : Gen Slot :=
  match target with
  | .name n span => do
    match ← Gen.lift ((← get).scope.resolve n span) with
    | .bound b => pure (.memory b.ty (.reg b.storage))
    | .global _ => Gen.fail .invalidOperation s!"cannot assign to global `{n}`" span
  | .slice .. => Gen.fail .invalidSubscript "cannot assign to a slice" target.span
  | .index value i _ => do
    let element ← genIndex fuel value i target.span
    match element.asSlot? with
    | some s => pure s
    | none => Gen.fail .invalidSubscript "cannot assign to a lane of a temporary vector" target.span
  | _ => Gen.fail .invalidOperation "cannot assign to this expression" target.span

end TypedJit.Codegen
