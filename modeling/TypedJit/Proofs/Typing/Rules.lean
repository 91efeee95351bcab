import TypedJit.Scope
import TypedJit.Syntax.Literal

/-!
# The typing rules of expressions
-/

namespace TypedJit

/-- Whether the binary operator `op` is defined on operands of element kind `k`. -/
def BinOp.appliesTo (op : BinOp) (k : ScalarType) : Bool :=
  if k.isBool then
    match op with
    | .bitAnd | .bitOr | .bitXor => true
    | _ => false
  else if k.isReal then
    match op with
    | .add | .sub | .mul | .div | .mod => true
    | _ => false
  else true

/-- Whether the comparison `op` is defined on scalars of kind `k`: Bool has only equality. -/
def CmpOp.appliesTo (op : CmpOp) (k : ScalarType) : Bool :=
  if k.isBool then
    match op with
    | .eq | .ne => true
    | _ => false
  else true

/-- Whether the unary operator `op` is defined on operands of element kind `k`. `not` is decided
on truth values and has a rule of its own. -/
def UnaryOp.appliesTo (op : UnaryOp) (k : ScalarType) : Bool :=
  match op with
  | .plus | .neg => !k.isBool
  | .invert => k.isInteger
  | .not => false

/-- The local typing context of a scope: the type of each name bound locally. -/
def Scope.types {H : Type} (s : Scope H) (n : String) : Option Ty := (s.local? n).map (·.ty)

namespace Scope

variable {H : Type} {s : Scope H} {n : String} {span : Span}

theorem resolve_eq_bound_iff {b : Binding H} :
    s.resolve n span = .ok (.bound b) ↔ s.local? n = some b := by
  unfold resolve
  split
  · simp_all
  · split <;> simp_all

theorem resolve_eq_global_iff {g : GlobalSymbol} :
    s.resolve n span = .ok (.global g) ↔ s.local? n = none ∧ s.globals.find? n = some g := by
  unfold resolve
  split
  · simp_all
  · split <;> simp_all

theorem types_of_local {b : Binding H} (h : s.local? n = some b) : s.types n = some b.ty := by
  simp [types, h]

theorem types_of_not_local (h : s.local? n = none) : s.types n = none := by
  simp [types, h]

end Scope

mutual

/-- `HasType G Γ e τ`: under the globals `G` and the local typing context `Γ`, the expression `e`
has type `τ`. A local name hides a global one; a call names a global function or a type. -/
inductive HasType (G : Globals) (Γ : String → Option Ty) : Expr → Ty → Prop
  | const {lit : Literal} {s : ScalarType} {span : Span} :
      lit.scalarType? = some s → HasType G Γ (.const lit span) (.scalar s)
  | local {n : String} {τ : Ty} {span : Span} :
      Γ n = some τ → HasType G Γ (.name n span) τ
  | constant {n : String} {c : Scalar} {span : Span} :
      Γ n = none → G.find? n = some (.constant c) → HasType G Γ (.name n span) (.scalar c.ty)
  | binary {op : BinOp} {l r : Expr} {a b τ : Ty} {k : ScalarType} {span : Span} :
      HasType G Γ l a → HasType G Γ r b → coerce a b = some τ → τ.operandKind = some k →
      op.appliesTo k = true → HasType G Γ (.binary op l r span) τ
  | compare {op : CmpOp} {l r : Expr} {a b : Ty} {k : ScalarType} {span : Span} :
      HasType G Γ l a → HasType G Γ r b → coerce a b = some (.scalar k) →
      op.appliesTo k = true → HasType G Γ (.compare op l r span) (.scalar .bool)
  | not {x : Expr} {a : Ty} {span : Span} :
      HasType G Γ x a → castable a (.scalar .bool) = true →
      HasType G Γ (.unary .not x span) (.scalar .bool)
  | unary {op : UnaryOp} {x : Expr} {a : Ty} {k : ScalarType} {span : Span} :
      HasType G Γ x a → a.operandKind = some k → op.appliesTo k = true →
      HasType G Γ (.unary op x span) a
  | logic {op : BoolOp} {l r : Expr} {a b : Ty} {span : Span} :
      HasType G Γ l a → castable a (.scalar .bool) = true →
      HasType G Γ r b → castable b (.scalar .bool) = true →
      HasType G Γ (.logic op l r span) (.scalar .bool)
  | call {func : Expr} {args : List Expr} {n : String} {f : FunctionRef} {span : Span} :
      func.asName? = some n → Γ n = none → G.find? n = some (.function f) →
      ArgsHaveTypes G Γ args f.sig.params → HasType G Γ (.call func args [] span) f.sig.ret
  | cast {func arg : Expr} {n : String} {ty a : Ty} {span : Span} :
      func.asName? = some n → Γ n = none → G.find? n = some (.type ty) → ty ≠ .void →
      HasType G Γ arg a → castable a ty = true → HasType G Γ (.call func [arg] [] span) ty
  | lane {v i : Expr} {e : ScalarType} {count : Nat} {s : ScalarType} {span : Span} :
      HasType G Γ v (.vector e count) → HasType G Γ i (.scalar s) → s.isInteger = true →
      HasType G Γ (.index v i span) (.scalar e)
  | element {v i : Expr} {τ : Ty} {e s : ScalarType} {span : Span} :
      HasType G Γ v τ → τ.isArrayLike = true → τ.element = some e →
      HasType G Γ i (.scalar s) → s.isInteger = true → HasType G Γ (.index v i span) (.scalar e)
  | slice {v : Expr} {τ : Ty} {e : ScalarType} {span : Span} :
      HasType G Γ v τ → τ.isArrayLike = true → τ.element = some e →
      HasType G Γ (.slice v none none span) (.slice e)
  | sliceFrom {v l : Expr} {τ : Ty} {e s : ScalarType} {span : Span} :
      HasType G Γ v τ → τ.isArrayLike = true → τ.element = some e →
      HasType G Γ l (.scalar s) → s.isInteger = true →
      HasType G Γ (.slice v (some l) none span) (.slice e)

/-- Call arguments, one per parameter, each of a type that converts to its parameter's. -/
inductive ArgsHaveTypes (G : Globals) (Γ : String → Option Ty) : List Expr → List Ty → Prop
  | nil : ArgsHaveTypes G Γ [] []
  | cons {a : Expr} {as : List Expr} {t p : Ty} {ps : List Ty} :
      HasType G Γ a t → castable t p = true → ArgsHaveTypes G Γ as ps →
      ArgsHaveTypes G Γ (a :: as) (p :: ps)

end

theorem ArgsHaveTypes.length_eq {G : Globals} {Γ : String → Option Ty} :
    {as : List Expr} → {ps : List Ty} → ArgsHaveTypes G Γ as ps → as.length = ps.length
  | _, _, .nil => rfl
  | _, _, .cons _ _ h => by simp [h.length_eq]

namespace ScalarType

/-- The scalar kinds are Bool, the integers and the reals. -/
theorem isInteger_iff (s : ScalarType) : s.isInteger = true ↔ s.isBool = false ∧ s.isReal = false := by
  cases s <;> decide

end ScalarType

theorem Ty.isVoid_iff {t : Ty} : t.isVoid = true ↔ t = .void := by
  cases t <;> simp [Ty.isVoid]

end TypedJit
