import TypedJit.Proofs.Registry.Session

/-!
Failed operations change nothing.
-/

open Std.Do

set_option mvcgen.warning false

namespace TypedJit

namespace Registry

/-- `r` is `r₀` with at most its session statistics changed. -/
def AsBefore (r₀ r : Registry) : Prop := r = { r₀ with stats := r.stats }

theorem AsBefore.refl (r : Registry) : r.AsBefore r := rfl

theorem AsBefore.of_eq {r₀ r : Registry} (h : r = r₀) : r₀.AsBefore r := by
  subst h
  rfl

theorem asBefore_with_stats (r : Registry) (s : SessionStats) : r.AsBefore { r with stats := s } :=
  rfl

theorem AsBefore.entry_eq {r₀ r : Registry} (h : r₀.AsBefore r) (i : Nat) :
    r.entry? i = r₀.entry? i := by
  rw [h]
  rfl

end Registry

/-- A fault of compiled code, as opposed to a failure the registry reports. -/
def JitError.IsFault (e : JitError) : Prop := ∃ f, e = .native f

namespace Jit

/-- From a registry satisfying `C`, every failure of `x` but the `exempt` ones leaves the registry
as it was. -/
def Atomic {α : Type} (C : Registry → Prop) (exempt : JitError → Prop) (x : Jit α) : Prop :=
  ∀ r₀ : Registry,
    ⦃fun r => ⌜r = r₀ ∧ C r⌝⦄ x ⦃post⟨fun _ _ => ⌜True⌝, fun e r => ⌜exempt e ∨ r₀.AsBefore r⌝⟩⦄

variable {α : Type} {C : Registry → Prop} {E E' : JitError → Prop}

/-- What a triple promises of failures holds of a failed run. -/
theorem error_of_triple {x : Jit α} {P : Registry → Prop} {Q : JitError → Registry → Prop}
    (h : ⦃fun r => ⌜P r⌝⦄ x ⦃post⟨fun _ _ => ⌜True⌝, fun e r => ⌜Q e r⌝⟩⦄) {r r' : Registry}
    {e : JitError} (hp : P r) (hx : x.run.run r = (.error e, r')) : Q e r' := by
  have h := h r hp
  simp only [wp, PredTrans.pushExcept, PredTrans.pushArg, PredTrans.apply, StateT.run,
    ExceptT.run, Id.run] at h
  simp only [StateT.run, ExceptT.run] at hx
  simpa [hx, Pure.pure, PredTrans.pure, PredTrans.trans] using h

/-- An atomic action, run from a registry satisfying `C`, fails only as it says. -/
theorem Atomic.run {x : Jit α} (h : x.Atomic C E) {r r' : Registry} {e : JitError} (hc : C r)
    (hx : x.run.run r = (.error e, r')) : E e ∨ r.AsBefore r' :=
  error_of_triple (h r) ⟨rfl, hc⟩ hx

theorem Atomic.mono {x : Jit α} (h : x.Atomic C E) (hE : ∀ e, E e → E' e) : x.Atomic C E' := by
  intro r₀
  have h := h r₀
  mvcgen [h]
  exact Or.imp_left (hE _)

theorem Atomic.discard {x : Jit α} (h : x.Atomic C E) : (discard x).Atomic C E := by
  intro r₀
  have h := h r₀
  show ⦃_⦄ (do let _ ← x; pure ()) ⦃_⦄
  mvcgen [h]

theorem change_atomic (C : Registry → Prop) (E : JitError → Prop)
    (f : Registry → Except JitError Registry) : (change f).Atomic C E := by
  intro r₀
  mvcgen [change, ofExcept]
  exact .inr (Registry.AsBefore.of_eq ‹_ = r₀ ∧ _›.1)

theorem update_atomic (C : Registry → Prop) (E : JitError → Prop)
    (f : Registry → Except JitError (α × Registry)) : (update f).Atomic C E := by
  intro r₀
  mvcgen [update, ofExcept]
  exact .inr (Registry.AsBefore.of_eq ‹_ = r₀ ∧ _›.1)

end Jit

open Registry

theorem Registry.entry?_eq_none_of_entryOrFail {r : Registry} {i : Nat} {e : JitError}
    (h : r.entryOrFail i = .error e) : r.entry? i = none := by
  unfold entryOrFail at h
  split at h
  · cases h
  · assumption

/-- What a lookup that found an entry says about every entry at that id. -/
theorem Registry.entry?_state_of_entryOrFail {r : Registry} {i : Nat} {a : Entry}
    (h : r.entryOrFail i = .ok a) (hs : a.state = .declared) :
    ∀ e, r.entry? i = some e → e.state = .declared := by
  intro e he
  rw [entryOrFail_eq_ok.1 h] at he
  cases he
  exact hs

/-- A compilation fails only for a declared function, and leaves the registry as it was but
for the statistics that count the failure. -/
theorem compile_spec (id : Nat) (r₀ : Registry) :
    ⦃fun r => ⌜r = r₀⌝⦄ compile id
    ⦃post⟨fun _ _ => ⌜True⌝,
      fun _ r => ⌜r₀.AsBefore r ∧ ∀ e, r₀.entry? id = some e → e.state = .declared⌝⟩⦄ := by
  mvcgen [compile, Jit.ofExcept]
  all_goals subst_vars
  -- the code generator failed, or the function has no body: it was declared
  case vc1 =>
    exact ⟨asBefore_with_stats _ _, entry?_state_of_entryOrFail ‹_› (Classical.not_not.1 ‹_›)⟩
  case vc2 =>
    exact ⟨AsBefore.refl _, entry?_state_of_entryOrFail ‹_› (Classical.not_not.1 ‹_›)⟩
  -- there is no such function
  case vc3 =>
    refine ⟨AsBefore.refl _, fun e h => ?_⟩
    rw [entry?_eq_none_of_entryOrFail ‹_›] at h
    cases h

/-- A failed compilation leaves its function declared, without code. -/
theorem compile_error_declared {r r' : Registry} {id : Nat} {e : JitError} (hc : r.Coherent)
    (hx : (compile id).run.run r = (.error e, r')) :
    ∀ x, r'.entry? id = some x → x.state = .declared ∧ x.code = none := by
  obtain ⟨hsame, hdeclared⟩ := Jit.error_of_triple (compile_spec id r) rfl hx
  intro x hx'
  rw [hsame.entry_eq] at hx'
  have hs := hdeclared x hx'
  refine ⟨hs, ?_⟩
  have hcode := (hc.code_iff id x hx').not
  simpa [hs] using hcode

theorem compile_atomic (C : Registry → Prop) (E : JitError → Prop) (id : Nat) :
    (compile id).Atomic C E := by
  intro r₀
  have h := compile_spec id r₀
  mvcgen [h]
  case vc1 => exact ‹_ = r₀ ∧ _›.1
  case vc3 => exact fun h _ => .inr h

theorem optimize_atomic (C : Registry → Prop) (E : JitError → Prop) (id : Nat) :
    (optimize id).Atomic C E := by
  intro r₀
  mvcgen [optimize, Jit.entry, Jit.ofExcept]
  all_goals exact .inr (AsBefore.of_eq ‹_ = r₀ ∧ _›.1)

/-- Sealing the functions a binding reaches and marking the bound one keep every function's
code. -/
theorem entry_code_of_bind {r : Registry} {id : Nat} {e : Entry} (he : r.entry? id = some e)
    (hcode : e.code.isSome) (order : List Nat) (s : SessionStats) :
    ∃ x, entry? { (order.foldl (fun r j => r.modifyEntry j Entry.seal) r).modifyEntry id
      (fun e => { e with bound := true }) with stats := s } id = some x ∧ x.code.isSome := by
  have hsealed : ∃ x, entry? (order.foldl (fun r j => r.modifyEntry j Entry.seal) r) id = some x ∧
      x.code = e.code := by
    rw [entry?_foldl_seal, he]
    split
    · exact ⟨e.seal, rfl, e.seal_agrees.2.2.1⟩
    · exact ⟨e, rfl, rfl⟩
  obtain ⟨x, hx, hxc⟩ := hsealed
  exact ⟨_, entry?_modifyEntry_self hx, hxc ▸ hcode⟩

/-- Binding a compiled function fails only before it changes anything; once bound, the function
still has its code. -/
theorem bind_spec_kept (id : Nat) (r₀ : Registry) :
    ⦃fun r => ⌜r = r₀ ∧ r.Coherent ∧ ∃ e, r.entry? id = some e ∧ e.state ≠ .declared⌝⦄ bind id
    ⦃post⟨fun _ r => ⌜∃ e, r.entry? id = some e ∧ e.code.isSome⌝, fun _ r => ⌜r = r₀⌝⟩⦄ := by
  mvcgen [bind, Jit.entry, Jit.ofExcept]
  all_goals obtain ⟨rfl, hc, e, he, hs⟩ := ‹_ = r₀ ∧ _›
  -- already bound: nothing changes; else the reached functions are sealed and this one marked
  case vc1 => exact ⟨e, he, (hc.code_iff id e he).2 hs⟩
  case vc2 => exact entry_code_of_bind he ((hc.code_iff id e he).2 hs) _ _
  case vc3 | vc4 => rfl

theorem invoke_atomic (id : Nat) (args : List Arg) :
    (invoke id args).Atomic Registry.Coherent JitError.IsFault := by
  intro r₀
  have hbind := bind_spec_kept id r₀
  mvcgen [invoke, Jit.entry, Jit.ofExcept, hbind]
  -- rejected before binding: nothing has changed
  case vc1 | vc7 | vc8 | vc9 => exact .inr (AsBefore.of_eq ‹_ = r₀ ∧ _›.1)
  case vc2 => exact ⟨‹_ = r₀ ∧ _›.1, ‹_ = r₀ ∧ _›.2, _, entryOrFail_eq_ok.1 ‹_›, ‹_›⟩
  case vc6 => exact fun h => .inr (AsBefore.of_eq h)
  -- once bound, the function is still there with its code, and only running it can fail
  case vc3 => exact .inl ⟨_, rfl⟩
  case vc4 hex a hlook c hno hcode =>
    obtain ⟨e, he, hsome⟩ := hex
    rw [entryOrFail_eq_ok.1 hlook] at he
    cases he
    rw [hcode] at hsome
    obtain ⟨k, hk⟩ := Option.isSome_iff_exists.1 hsome
    exact absurd hk (hno k)
  case vc5 hex e hlook =>
    obtain ⟨x, hx, -⟩ := hex
    rw [entry?_eq_none_of_entryOrFail hlook] at hx
    cases hx

/-- The operations that either succeed or change nothing. -/
def Op.AllOrNothing : Op → Bool
  | .defineConstant .. | .defineType .. | .declareBuiltin .. | .forwardDeclare .. | .register ..
  | .compile _ | .optimize _ | .invoke .. => true
  | .declareMath | .declareStdio | .define .. | .runReference .. => false

/-- From a coherent registry, an all-or-nothing operation that fails leaves the registry as it
was, unless it was a call whose compiled code faulted. -/
theorem Op.run_atomic {op : Op} (h : op.AllOrNothing = true) :
    op.run.Atomic Registry.Coherent fun e => e.IsFault ∧ ∃ id args, op = .invoke id args := by
  cases op <;> simp only [Op.AllOrNothing, Bool.false_eq_true] at h <;> simp only [Op.run]
  case defineConstant => exact Jit.change_atomic _ _ _
  case defineType => exact Jit.change_atomic _ _ _
  case declareBuiltin => exact Jit.change_atomic _ _ _
  case forwardDeclare => exact (Jit.update_atomic _ _ _).discard
  case register => exact (Jit.update_atomic _ _ _).discard
  case compile id => exact compile_atomic _ _ id
  case optimize id => exact optimize_atomic _ _ id
  case invoke id args =>
    exact ((invoke_atomic id args).mono fun e he => ⟨he, id, args, rfl⟩).discard

/-- In every registry a session reaches, an operation that checks before it changes and then
fails leaves the registry as it was, its statistics aside, unless it called compiled code that
faulted. In particular a failed compilation leaves its function declared and without code, and
an `invoke` rejected before the call seals and binds nothing. -/
theorem failed_operation_keeps_registry (cfg : Config) (ops : List Op) {op : Op}
    (hop : op.AllOrNothing = true) {e : JitError} {r' : Registry}
    (hrun : op.run.run.run (({ config := cfg } : Registry).runOps ops) = (.error e, r')) :
    ((({ config := cfg } : Registry).runOps ops).AsBefore r' ∨
        (e.IsFault ∧ ∃ id args, op = .invoke id args)) ∧
      ∀ id, op = .compile id → ∀ x, r'.entry? id = some x → x.state = .declared ∧ x.code = none := by
  have hc := (leads_runOps ops _ (coherent_start cfg)).1
  refine ⟨((Op.run_atomic hop).run hc hrun).symm, ?_⟩
  rintro id rfl
  exact compile_error_declared hc hrun

/-- Registering a body under a name declared ahead with another signature fails and changes
nothing. -/
theorem register_mismatch_keeps_registry :
    let r := ({ config := {} } : Registry).runOps [.forwardDeclare "f" .int32 [.int32]]
    let op := Op.register { name := "f", params := [], body := [] } .int32 []
    let e : JitError := .compile ⟨.functionDeclaration,
      "`f` was forward-declared as (Int32) -> Int32", ⟨1, 0⟩, none⟩
    op.AllOrNothing = true ∧ op.run.run.run r = (.error e, (op.run.run.run r).2) ∧
      (r.AsBefore (op.run.run.run r).2 ∨ (e.IsFault ∧ ∃ id args, op = .invoke id args)) := by
  intro r op e
  have hrun : op.run.run.run r = (.error e, (op.run.run.run r).2) :=
    Prod.ext (by decide +kernel) rfl
  exact ⟨rfl, hrun, (failed_operation_keeps_registry {} _ rfl hrun).1⟩

end TypedJit
