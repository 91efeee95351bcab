import Mathlib.Data.List.Forall2
import TypedJit.Proofs.Typing.Operators
import TypedJit.Proofs.Typing.Generator
import TypedJit.Proofs.Interpreter.Regular
import TypedJit.Proofs.Interpreter.Statements
import TypedJit.Proofs.Registry.Session

/-!
# Typed expressions evaluate to values of their type
-/

namespace TypedJit.Interpreter

/-- What evaluating an expression of type `τ` guarantees: the frame is unchanged and the value is
a well-formed value of type `τ`. -/
def TypedRuns (τ : Ty) (fr : Frame) (v : Value) (fr' : Frame) (_ : Machine) : Prop :=
  fr' = fr ∧ v.ty = τ ∧ v.WellFormed

variable (lib : Library)

/-- The expressions' functions at budget `fuel` evaluate expressions of a type to values of that
type, failing only with a fault or inside a callee. -/
structure EvalTyped (fuel : Nat) : Prop where
  eval : ∀ e τ fr m, fr.Typed m.shape → fr.OfLibrary lib →
    HasType fr.scope.globals fr.scope.types e τ →
    Within (eval lib fuel e) fr m (·.isFaultOrCallee) (TypedRuns τ fr)
  evalCall : ∀ func args span τ fr m, fr.Typed m.shape → fr.OfLibrary lib →
    HasType fr.scope.globals fr.scope.types (.call func args [] span) τ →
    Within (evalCall lib fuel func args [] span) fr m (·.isFaultOrCallee) (TypedRuns τ fr)
  evalArgs : ∀ as ps fr m, fr.Typed m.shape → fr.OfLibrary lib →
    ArgsHaveTypes fr.scope.globals fr.scope.types as ps →
    Within (evalArgs lib fuel as ps) fr m (·.isFaultOrCallee) fun vs fr' _ =>
      fr' = fr ∧ List.Forall₂ (fun v p => v.ty = p ∧ v.WellFormed) vs ps

theorem evalTyped_zero : EvalTyped lib 0 := by
  refine ⟨?_, ?_, ?_⟩ <;> intros <;> simp only [eval, evalCall, evalArgs] <;> exact Within.throw rfl

variable {lib} {fuel : Nat} {fr : Frame} {m : Machine}

/-- A subexpression of type `τ`, evaluated with what memory guarantees: the rest of the run starts
from the same frame, in memory that has only grown, with a value of type `τ` that agrees with it. -/
theorem Within.bind_typed {β : Type} {E : RunError → Prop} {Q : β → Frame → Machine → Prop}
    {x : Run Value} {f : Value → Run β} {τ : Ty} (hx : Within x fr m E (TypedRuns τ fr))
    (hs : Preserves x fr m (ExprPost fr))
    (hf : ∀ v m₁, m.shape <+: m₁.shape → v.ty = τ → v.WellFormed → v.Typed m₁.shape →
      Within (f v) fr m₁ E Q) :
    Within (x >>= f) fr m E Q := by
  refine (hx.and_preserves hs).bind fun v fr₁ m₁ h => ?_
  obtain ⟨hgrow, ⟨hfr₁, hty, hv⟩, -, hvt⟩ := h
  subst fr₁
  exact hf v m₁ hgrow hty hv hvt

theorem Value.eq_pointer_of_ty {v : Value} {τ : Ty} (h : v.ty = τ) (harr : τ.isArrayLike = true) :
    ∃ r o, v = .pointer τ r o := by
  subst h
  exact Value.eq_pointer_of_isArrayLike harr

/-- Arguments of a standard builtin's parameter types are scalars. -/
theorem FunctionRef.IsStandard.args_scalar {f : FunctionRef} {vs : List Value} (hf : f.IsStandard)
    (hvs : List.Forall₂ (fun v p => v.ty = p ∧ v.WellFormed) vs f.sig.params) :
    ∀ v ∈ vs, ∃ x, v = .scalar x := by
  intro v hv
  obtain ⟨i, hi, rfl⟩ := List.getElem_of_mem hv
  have hip : i < f.sig.params.length := hvs.length_eq ▸ hi
  obtain ⟨hty, hw⟩ := hvs.get hi hip
  obtain ⟨s, hs⟩ := hf.param_scalar (List.getElem_mem hip)
  obtain ⟨x, hx, -⟩ := hw.eq_scalar (hty.trans hs)
  exact ⟨x, hx⟩

theorem Scope.local_none_of_types {s : Scope Nat} {n : String} (h : s.types n = none) :
    s.local? n = none := by
  simpa [Scope.types] using h

theorem eval_typed (ih : EvalTyped lib fuel) (hs : Sound lib fuel) (e : Expr) (τ : Ty)
    (hfr : fr.Typed m.shape) (hfl : fr.OfLibrary lib)
    (hty : HasType fr.scope.globals fr.scope.types e τ) :
    Within (eval lib (fuel + 1) e) fr m (·.isFaultOrCallee) (TypedRuns τ fr) := by
  simp only [eval]
  refine Within.mapError ?_ fun e he => by simpa using he
  cases hty with
  | @const lit s span hlit =>
    obtain ⟨x, hx, hxty⟩ := constantValue_ok span hlit
    exact Within.ofExcept_ok hx ⟨rfl, by simp [Value.ty, hxty], trivial⟩
  | @«local» n τ span hΓ =>
    -- a local name reads its slot, which holds a value of the binding's type
    obtain ⟨b, hb, rfl⟩ := Option.map_eq_some_iff.1 hΓ
    have hres : fr.scope.resolve n span = .ok (.bound b) := Scope.resolve_of_local hb
    obtain ⟨q, hq, rfl⟩ := Scope.resolve_bound_mem hres
    obtain ⟨v, hv, hvty⟩ := hfr.bound q hq
    refine Within.bind_get (Within.bind_liftCompile_ok hres (Within.bind_get (Within.pure ?_)))
    have hwf := hfl.getD q.2.storage
    rw [hv, Option.getD_some] at hwf ⊢
    exact ⟨rfl, hvty, hwf⟩
  | @constant n c span hΓ hg =>
    have hres : fr.scope.resolve n span = .ok (.global (.constant c)) :=
      Scope.resolve_eq_global_iff.2 ⟨Scope.local_none_of_types hΓ, hg⟩
    exact Within.bind_get (Within.bind_liftCompile_ok hres (Within.pure ⟨rfl, rfl, trivial⟩))
  | @binary op l r a b τ k span hl hr hc hk hop =>
    refine (ih.eval l a fr m hfr hfl hl).bind_typed (hs.eval l fr m hfr)
      fun lv m₁ hg₁ hlty hlw hlt => ?_
    refine (ih.eval r b fr m₁ (hfr.mono hg₁) hfl hr).bind_typed (hs.eval r fr m₁ (hfr.mono hg₁))
      fun rv m₂ hg₂ hrty hrw hrt => ?_
    rw [← hlty, ← hrty] at hc
    rcases binaryValue_typed_ok span hc hk hop hlw hrw (hlt.mono hg₂) hrt with
      ⟨v, hv, hvty⟩ | hv
    · exact Within.ofExcept_ok hv ⟨rfl, hvty, binaryValue_wellFormed hv⟩
    · exact Within.ofExcept (fun _ h => by rw [hv] at h; cases h; rfl) fun _ h => by
        rw [hv] at h; cases h
  | @compare op l r a b k span hl hr hc hop =>
    refine (ih.eval l a fr m hfr hfl hl).bind_typed (hs.eval l fr m hfr)
      fun lv m₁ hg₁ hlty hlw hlt => ?_
    refine (ih.eval r b fr m₁ (hfr.mono hg₁) hfl hr).bind_typed (hs.eval r fr m₁ (hfr.mono hg₁))
      fun rv m₂ hg₂ hrty hrw hrt => ?_
    rw [← hlty, ← hrty] at hc
    obtain ⟨v, hv, hvty⟩ := compareValue_typed_ok span hc hop hlw hrw (hlt.mono hg₂) hrt
    exact Within.ofExcept_ok hv ⟨rfl, hvty, compareValue_wellFormed hv⟩
  | @not x a span hx hc =>
    refine (ih.eval x a fr m hfr hfl hx).bind_typed (hs.eval x fr m hfr)
      fun v m₁ _ hvty hvw _ => ?_
    obtain ⟨b, hb⟩ := unaryValue_not_ok span x.span hvw (hvty ▸ hc)
    exact Within.ofExcept_ok hb ⟨rfl, rfl, trivial⟩
  | @unary op x _ k span hx hk hop =>
    refine (ih.eval x τ fr m hfr hfl hx).bind_typed (hs.eval x fr m hfr)
      fun v m₁ _ hvty hvw hvt => ?_
    obtain ⟨w, hw, hwty⟩ :=
      unaryValue_typed_ok span x.span (hvty ▸ hk) hop hvw hvt
    exact Within.ofExcept_ok hw ⟨rfl, hwty.trans hvty, unaryValue_wellFormed hw⟩
  | @logic op l r a b span hl hla hr hrb =>
    refine (ih.eval l a fr m hfr hfl hl).bind_typed (hs.eval l fr m hfr)
      fun lv m₁ hg₁ hlty hlw _ => ?_
    obtain ⟨left, hleft⟩ := truthyValue_ok l.span hlw (hlty ▸ hla)
    refine Within.bind_ofExcept_ok hleft ?_
    -- whether the right operand runs or not, the result is a truth value
    split
    · simp only [pure_bind]
      exact Within.pure ⟨rfl, rfl, trivial⟩
    · simp only [pure_bind]
      exact Within.pure ⟨rfl, rfl, trivial⟩
    · refine (ih.eval r b fr m₁ (hfr.mono hg₁) hfl hr).bind_typed (hs.eval r fr m₁ (hfr.mono hg₁))
        fun rv m₂ _ hrty hrw _ => ?_
      obtain ⟨right, hright⟩ := truthyValue_ok r.span hrw (hrty ▸ hrb)
      exact Within.bind_ofExcept_ok hright (Within.pure ⟨rfl, rfl, trivial⟩)
  | @call func args n f span hn hΓ hg hargs =>
    exact ih.evalCall func args span _ fr m hfr hfl (.call hn hΓ hg hargs)
  | @cast func arg n _ a span hn hΓ hg hvoid harg hcast =>
    exact ih.evalCall func [arg] span τ fr m hfr hfl (.cast hn hΓ hg hvoid harg hcast)
  | @lane v i e count s span hv hi hint =>
    refine (ih.eval v _ fr m hfr hfl hv).bind_typed (hs.eval v fr m hfr)
      fun c m₁ hg₁ hcty hcw hct => ?_
    refine (ih.eval i _ fr m₁ (hfr.mono hg₁) hfl hi).bind_typed (hs.eval i fr m₁ (hfr.mono hg₁))
      fun idx m₂ _ hity hiw _ => ?_
    obtain ⟨position, hpos⟩ := indexOf_ok i.span hiw hity hint
    refine Within.bind_ofExcept_ok hpos ?_
    obtain ⟨lanes, rfl, -⟩ := hcw.eq_vector hcty
    refine Within.bind_ofExcept
      (fun _ h => RunError.isFaultOrCallee_of_isFault (laneIndex_eq_error h)) fun lane hlane => ?_
    exact Within.pure ⟨rfl, congrArg Ty.scalar (lane_ty hct (laneIndex_lt hlane)), trivial⟩
  | @element v i τ e s span hv harr he hi hint =>
    refine (ih.eval v _ fr m hfr hfl hv).bind_typed (hs.eval v fr m hfr)
      fun c m₁ hg₁ hcty _ hct => ?_
    refine (ih.eval i _ fr m₁ (hfr.mono hg₁) hfl hi).bind_typed (hs.eval i fr m₁ (hfr.mono hg₁))
      fun idx m₂ hg₂ hity hiw _ => ?_
    obtain ⟨position, hpos⟩ := indexOf_ok i.span hiw hity hint
    refine Within.bind_ofExcept_ok hpos ?_
    obtain ⟨r, o, rfl⟩ := Value.eq_pointer_of_ty hcty harr
    refine Within.bind ((elementIndex_within _ _ _ _).mono
      (fun _ h => RunError.isFaultOrCallee_of_isFault h) fun _ _ _ h => h) fun pos fr₃ m₃ h => ?_
    obtain ⟨hfr₃, hm₃, hlt⟩ := h
    subst fr₃ m₃
    exact Within.bind_machine
      (Within.pure ⟨rfl, congrArg Ty.scalar (element_ty (hct.mono hg₂) he hlt), trivial⟩)
  | @slice v τ e span hv harr he =>
    refine (ih.eval v _ fr m hfr hfl hv).bind_typed (hs.eval v fr m hfr)
      fun c m₁ _ hcty _ _ => ?_
    obtain ⟨r, o, rfl⟩ := Value.eq_pointer_of_ty hcty harr
    simp only [he, pure_bind]
    split
    · exact Within.bind_machine (Within.bind_throw rfl)
    · exact Within.pure ⟨rfl, rfl, rfl⟩
  | @sliceFrom v l τ e s span hv harr he hl hint =>
    refine (ih.eval v _ fr m hfr hfl hv).bind_typed (hs.eval v fr m hfr)
      fun c m₁ hg₁ hcty _ _ => ?_
    obtain ⟨r, o, rfl⟩ := Value.eq_pointer_of_ty hcty harr
    simp only [he]
    refine (ih.eval l _ fr m₁ (hfr.mono hg₁) hfl hl).bind_typed (hs.eval l fr m₁ (hfr.mono hg₁))
      fun idx m₂ _ hity hiw _ => ?_
    obtain ⟨lower, hlower⟩ := indexOf_ok l.span hiw hity hint
    refine Within.bind_ofExcept_ok hlower ?_
    split
    · exact Within.bind_machine (Within.bind_throw rfl)
    · exact Within.pure ⟨rfl, rfl, rfl⟩

theorem evalCall_typed (ih : EvalTyped lib fuel) (hs : Sound lib fuel) (hreg : Regular lib fuel)
    (hlib : lib.Consistent) (func : Expr) (args : List Expr) (span : Span) (τ : Ty)
    (hfr : fr.Typed m.shape) (hfl : fr.OfLibrary lib)
    (hty : HasType fr.scope.globals fr.scope.types (.call func args [] span) τ) :
    Within (evalCall lib (fuel + 1) func args [] span) fr m (·.isFaultOrCallee) (TypedRuns τ fr) := by
  cases hty with
  | @call _ _ n f _ hn hΓ hg hargs =>
    have hres : fr.scope.resolve n func.span = .ok (.global (.function f)) :=
      Scope.resolve_eq_global_iff.2 ⟨Scope.local_none_of_types hΓ, hg⟩
    simp only [evalCall, hn]
    refine Within.bind_get (Within.bind_liftCompile_ok hres ?_)
    simp only [pure_bind, List.head?_nil, hargs.length_eq, ne_eq, not_true_eq_false, if_false]
    refine (ih.evalArgs args f.sig.params fr m hfr hfl hargs).bind fun values fr₁ m₁ h => ?_
    obtain ⟨hfr₁, hvalues⟩ := h
    subst fr₁
    have hglobal : lib.globals.find? n = some (.function f) := hfl.globals ▸ hg
    split
    · -- a builtin of the library is a standard one, whose parameters are scalars: every
      -- argument is a scalar, and the builtin returns a scalar of its return type
      rename_i hbuiltin
      have hstd : f.IsStandard := hlib.builtins n f hglobal hbuiltin
      refine (callBuiltin_within hstd hvalues.length_eq).mono (fun _ h => ?_) fun v fr' _ h => ?_
      · obtain ⟨-, v, hv, hns⟩ := h
        obtain ⟨x, rfl⟩ := FunctionRef.IsStandard.args_scalar hstd hvalues v hv
        exact absurd rfl (hns x)
      · obtain ⟨rfl, r, rfl, hr⟩ := h
        exact ⟨rfl, hr, trivial⟩
    · -- a function of the library returns a value of its body's return type, which is the one
      -- its reference declares
      rename_i hbuiltin
      have hwf : ∀ v ∈ values, v.WellFormed := fun v hv => by
        obtain ⟨i, hi, rfl⟩ := List.getElem_of_mem hv
        exact (hvalues.get hi (hvalues.length_eq ▸ hi)).2
      refine (hreg.callFunction f.id values span fr m₁ hwf).mono (fun _ h => h) fun v fr' _ h => ?_
      obtain ⟨rfl, hw, d, sig, hdef, hvty⟩ := h
      have hsig := hlib.signatures n f hglobal (Bool.eq_false_iff.2 hbuiltin) d sig hdef
      exact ⟨rfl, hvty.trans (congrArg Signature.ret hsig), hw⟩
  | @cast _ arg n _ a _ hn hΓ hg hvoid harg hcast =>
    have hres : fr.scope.resolve n func.span = .ok (.global (.type τ)) :=
      Scope.resolve_eq_global_iff.2 ⟨Scope.local_none_of_types hΓ, hg⟩
    simp only [evalCall, hn]
    refine Within.bind_get (Within.bind_liftCompile_ok hres ?_)
    -- the cast's type is not Void, and it is given its one argument and no keyword
    simp only [pure_bind, List.head?_nil]
    refine (ih.eval arg a fr m hfr hfl harg).bind_typed (hs.eval arg fr m hfr)
      fun v m₁ _ hvty hvw hvt => ?_
    obtain ⟨w, hw, hwty, hww, -⟩ := castValue_typed_ok span hvw hvt (hvty ▸ hcast)
    exact Within.ofExcept_ok hw ⟨rfl, hwty, hww⟩

theorem evalArgs_typed (ih : EvalTyped lib fuel) (hs : Sound lib fuel) (as : List Expr)
    (ps : List Ty) (hfr : fr.Typed m.shape) (hfl : fr.OfLibrary lib)
    (hargs : ArgsHaveTypes fr.scope.globals fr.scope.types as ps) :
    Within (evalArgs lib (fuel + 1) as ps) fr m (·.isFaultOrCallee) fun vs fr' _ =>
      fr' = fr ∧ List.Forall₂ (fun v p => v.ty = p ∧ v.WellFormed) vs ps := by
  cases hargs with
  | nil =>
    simp only [evalArgs]
    exact Within.pure ⟨rfl, .nil⟩
  | @cons a as t p ps ha hcast hrest =>
    simp only [evalArgs]
    refine (ih.eval a t fr m hfr hfl ha).bind_typed (hs.eval a fr m hfr)
      fun v m₁ hg₁ hvty hvw hvt => ?_
    obtain ⟨c, hc, hcty, hcw, -⟩ := castValue_typed_ok a.span hvw hvt (hvty ▸ hcast)
    refine Within.bind_ofExcept_ok hc ?_
    refine (ih.evalArgs as ps fr m₁ (hfr.mono hg₁) hfl hrest).bind fun rest fr₂ m₂ h => ?_
    obtain ⟨hfr₂, hrest⟩ := h
    subst fr₂
    exact Within.pure ⟨rfl, .cons ⟨hcty, hcw⟩ hrest⟩

/-- Under a library whose builtins are the standard ones, the expressions' functions evaluate
expressions of a type to values of that type at every budget. -/
theorem evalTyped (hlib : lib.Consistent) : ∀ fuel, EvalTyped lib fuel
  | 0 => evalTyped_zero lib
  | fuel + 1 =>
    have ih := evalTyped hlib fuel
    ⟨fun e τ _ _ hfr hfl hty => eval_typed ih (sound lib fuel) e τ hfr hfl hty,
      fun func args span τ _ _ hfr hfl hty =>
        evalCall_typed ih (sound lib fuel) (regular hlib fuel) hlib func args span τ hfr hfl hty,
      fun as ps _ _ hfr hfl hargs => evalArgs_typed ih (sound lib fuel) as ps hfr hfl hargs⟩

end TypedJit.Interpreter

namespace TypedJit

open Interpreter Codegen

/-- The code generator and the interpreter agree on the type of every expression. If the
generator accepts `e` in a scope, giving a value of type `v.ty`, then under a library whose
builtins are the standard ones the interpreter, evaluating `e` in a frame whose scope has the same
globals and gives each local name the same type, and whose slots hold values of those types,
returns a value of type `v.ty`, or fails with a fault or inside a function it calls: never with a
compile error at a node of `e`. Running out of budget counts as a fault here: it stands for a run
that does not end. -/
theorem evaluation_agrees_with_generator {lib : Library} (hlib : lib.Consistent) {e : Expr}
    {gfuel : Nat} {gs gs' : GenState} {st st' : SessionStats} {v : TValue}
    (hgen : ((genExpr gfuel e).run gs).run.run st = (.ok (v, gs'), st')) {fr : Frame} {m : Machine}
    (hglobals : gs.scope.globals = fr.scope.globals) (htypes : gs.scope.types = fr.scope.types)
    (hfr : fr.Typed m.shape) (hfl : fr.OfLibrary lib) (fuel : Nat) :
    (∃ w fr' m', ((eval lib fuel e).run fr).run.run m = (.ok (w, fr'), m') ∧ w.ty = v.ty) ∨
      ∃ err m', ((eval lib fuel e).run fr).run.run m = (.error err, m') ∧
        err.isFaultOrCallee = true := by
  -- the generator's half: `e` has the type the generator gave it, in the frame's scope too
  have hty : HasType fr.scope.globals fr.scope.types e v.ty := by
    have := ((exprTyped gfuel).expr e gs st v gs' st' hgen).2
    rwa [hglobals, htypes] at this
  rcases hrun : ((eval lib fuel e).run fr).run.run m with ⟨r, m'⟩
  obtain ⟨herr, hok⟩ := (evalTyped hlib fuel).eval e v.ty fr m hfr hfl hty r m' hrun
  cases r with
  | ok p =>
    obtain ⟨-, hwty, -⟩ := hok p.1 p.2 rfl
    exact .inl ⟨p.1, p.2, m', rfl, hwty⟩
  | error err => exact .inr ⟨err, m', rfl, herr err rfl⟩

/-- A coherent registry gives the interpreter a library whose functions have the signatures of
their bodies: each is bound under its entry's name with the entry's signature. -/
theorem Registry.Coherent.library_signatures {r : Registry} (hc : r.Coherent) (n : String)
    (f : FunctionRef) (hf : r.library.globals.find? n = some (.function f))
    (hb : f.builtin = false) (d : FunctionDef) (sig : Signature)
    (hdef : r.library.definition? f.id = some (d, sig)) : sig = f.sig := by
  obtain ⟨e, he, rfl⟩ := hc.registered n f hf hb
  have hbound : GlobalSymbol.function f =
      .function ⟨f.id, dialectSymbol e.name, e.sig, false⟩ :=
    Option.some.inj (hf.symm.trans (hc.global f.id e he))
  have hsig : f.sig = e.sig := congrArg FunctionRef.sig (GlobalSymbol.function.inj hbound)
  -- the library reads the body of the same entry, with the entry's signature
  simp only [Registry.library, he, Option.bind_some, Option.map_eq_some_iff, Prod.mk.injEq] at hdef
  obtain ⟨-, -, -, hes⟩ := hdef
  rw [← hes, hsig]

/-- Every registry a session reaches gives a consistent library once its builtins are the
standard ones. -/
theorem Registry.runOps_library_consistent (cfg : Config) (ops : List Op)
    (hb : ∀ n f, (({ config := cfg } : Registry).runOps ops).globals.find? n = some (.function f) →
      f.builtin = true → f.IsStandard) :
    (({ config := cfg } : Registry).runOps ops).library.Consistent :=
  ⟨hb, (Registry.leads_runOps ops _ (Registry.coherent_start cfg)).1.library_signatures⟩

theorem Globals.prelude_find_ne_function (n : String) (f : FunctionRef) :
    Globals.prelude.find? n ≠ some (.function f) := by
  intro h
  obtain ⟨⟨n', s⟩, hfind, rfl⟩ := Option.map_eq_some_iff.1 h
  have hmem := List.mem_of_find?_eq_some hfind
  simp [Globals.prelude, ScalarType.all] at hmem

/-- An Int32 local plus a literal: the generator types the sum Int32, and the interpreter, in a
frame whose local holds an Int32, under a library of the prelude alone, agrees. -/
theorem local_sum_types_agree :
    let lib : Library := ⟨Globals.prelude, fun _ => none, fun _ => none⟩
    let sp : Span := ⟨1, 1⟩
    let e : Expr := .binary .add (.name "x" sp) (.const (.int 1) sp) sp
    let scope : Scope Nat := { globals := Globals.prelude, locals := [("x", ⟨.scalar .int32, 0⟩)] }
    let gs : GenState := { blocks := #[{ label := "entry" }], nextReg := 1, scope, declared := [] }
    let fr : Frame := { scope, slots := #[.scalar (.i32 5)], ret := .void }
    let m : Machine := { maxDepth := 8 }
    lib.Consistent ∧ fr.Typed m.shape ∧ fr.OfLibrary lib ∧
      ∃ v gs' st', ((genExpr 4 e).run gs).run.run {} = (.ok (v, gs'), st') ∧
        v.ty = .scalar .int32 ∧
        ((∃ w fr' m', ((eval lib 4 e).run fr).run.run m = (.ok (w, fr'), m') ∧ w.ty = v.ty) ∨
          ∃ err m', ((eval lib 4 e).run fr).run.run m = (.error err, m') ∧
            err.isFaultOrCallee = true) := by
  intro lib sp e scope gs fr m
  have hlib : lib.Consistent :=
    ⟨fun n f h => absurd h (Globals.prelude_find_ne_function n f),
      fun n f h => absurd h (Globals.prelude_find_ne_function n f)⟩
  have hfr : fr.Typed m.shape := ⟨by simp [fr, scope, Value.ty, Scalar.ty], by simp [fr, Value.Typed]⟩
  have hfl : fr.OfLibrary lib := ⟨rfl, by simp [fr]⟩
  obtain ⟨v, gs', st', hgen, hv⟩ : ∃ v gs' st', ((genExpr 4 e).run gs).run.run {} = (.ok (v, gs'), st') ∧
      v.ty = .scalar .int32 := ⟨_, _, _, rfl, rfl⟩
  exact ⟨hlib, hfr, hfl, v, gs', st', hgen, hv,
    evaluation_agrees_with_generator hlib hgen rfl rfl hfr hfl 4⟩

end TypedJit
