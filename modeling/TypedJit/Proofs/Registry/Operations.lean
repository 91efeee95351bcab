import TypedJit.Proofs.Registry.Coherence

/-!
Every registry operation keeps the registry coherent.
-/

open Std.Do

set_option mvcgen.warning false

namespace TypedJit
namespace Registry

variable {r r' : Registry}

/-! The registry steps -/

theorem ensureFree_eq_ok {n : String} (h : r.ensureFree n = .ok ()) :
    r.globals.contains n = false := by
  unfold ensureFree at h
  split at h
  · exact nomatch h
  · rename_i hn
    simpa using hn

theorem defineConstant_leads {n : String} {v : Scalar} (h : r.defineConstant n v = .ok r') :
    r.Leads r' := by
  unfold defineConstant at h
  rw [Except.bind_eq_ok] at h
  obtain ⟨⟨⟩, hfree, h⟩ := h
  cases h
  exact leads_bindGlobal (ensureFree_eq_ok hfree) (fun _ h => nomatch h)

theorem defineType_leads {n : String} {t : Ty} (h : r.defineType n t = .ok r') :
    r.Leads r' := by
  unfold defineType at h
  rw [Except.bind_eq_ok] at h
  obtain ⟨⟨⟩, hfree, h⟩ := h
  cases h
  exact leads_bindGlobal (ensureFree_eq_ok hfree) (fun _ h => nomatch h)

theorem declareBuiltin_leads {n sym : String} {ret : Ty} {ps : List Ty}
    (h : r.declareBuiltin n sym ret ps = .ok r') : r.Leads r' := by
  unfold declareBuiltin at h
  rw [Except.bind_eq_ok] at h
  obtain ⟨⟨⟩, hfree, h⟩ := h
  rw [Except.bind_eq_ok] at h
  obtain ⟨⟨⟩, -, h⟩ := h
  cases h
  refine leads_bindGlobal (ensureFree_eq_ok hfree) ?_
  rintro f ⟨⟩
  rfl

/-- Declaring builtins one by one leads on, also when one of them fails part way. -/
theorem declareEach_leads : ∀ (r : Registry) (ds : List BuiltinDecl), r.Leads (r.declareEach ds).1
  | r, [] => Leads.refl r
  | r, (n, ret, ps) :: ds => by
    unfold declareEach
    split
    · rename_i next h
      exact (declareBuiltin_leads h).trans (declareEach_leads next ds)
    · exact Leads.refl r

theorem addEntry_leads {n : String} {sig : Signature} {body : Option FunctionDef} {id : Nat}
    (h : r.addEntry n sig body = .ok (id, r')) : r.Leads r' := by
  unfold addEntry at h
  split at h
  · exact nomatch h
  · rename_i hn
    rw [Except.bind_eq_ok] at h
    obtain ⟨⟨⟩, -, h⟩ := h
    cases h
    exact leads_addEntry (by simpa using hn)

/-- Declaring ahead leads on: it either finds the function already declared with the same
signature, or registers it without a body. -/
theorem forwardDeclare_leads {n : String} {ret : Ty} {ps : List Ty} {id : Nat}
    (h : r.forwardDeclare n ret ps = .ok (id, r')) : r.Leads r' := by
  unfold forwardDeclare at h
  split at h
  · dsimp only at h
    split at h
    · cases h
      exact Leads.refl r
    · exact nomatch h
  · exact addEntry_leads h

/-- Registering a definition leads on: it either attaches a body to a function declared ahead,
where the invariant sees only that a body is now present, or registers a new function. -/
theorem register_leads {f : FunctionDef} {ret : Ty} {ps : List Ty} {id : Nat}
    (h : r.register f ret ps = .ok (id, r')) : r.Leads r' := by
  unfold register at h
  rw [Except.bind_eq_ok] at h
  obtain ⟨⟨⟩, -, h⟩ := h
  split at h
  · dsimp only at h
    rw [Except.bind_eq_ok] at h
    obtain ⟨e, -, h⟩ := h
    split at h
    · exact nomatch h
    · split at h
      · exact nomatch h
      · cases h
        refine leads_modifyEntry fun e => ⟨rfl, rfl, rfl, rfl, rfl, rfl, fun _ => rfl⟩
  · exact addEntry_leads h

/-- Binding a compiled function leads on: it and everything it reaches are sealed first. -/
theorem leads_bind {id : Nat} {e : Entry} {order : List Nat} (he : r.entry? id = some e)
    (hs : e.state ≠ .declared) (horder : r.reachable id = .ok order) :
    r.Leads ((order.foldl (fun r j => r.modifyEntry j Entry.seal) r).modifyEntry id
      fun e => { e with bound := true }) := by
  intro hc
  obtain ⟨hmem, hclosed, hvalid⟩ := reachable_closed (lt_size_of_entry_some he) horder
  have hcompiled : ∀ x ∈ order, ∃ e, r.entry? x = some e ∧ e.state ≠ .declared := by
    intro x hx
    rcases (hvalid x hx).2 with rfl | hx
    · exact ⟨e, he, hs⟩
    · exact hx
  obtain ⟨hc₁, hev₁⟩ := leads_sealAll hclosed hcompiled hc
  have hroot : entry? (order.foldl (fun r j => r.modifyEntry j Entry.seal) r) id = some e.seal := by
    rw [entry?_foldl_seal, if_pos hmem, he]
    rfl
  obtain ⟨hc₂, hev₂⟩ :=
    leads_markBound hroot (Entry.seal_state_of_code ((hc.code_iff id e he).2 hs)) hc₁
  exact ⟨hc₂, hev₁.trans hev₂⟩

end Registry

namespace Jit

/-- `x` keeps the registry coherent and lets it only evolve, whether it succeeds or fails. The
ghost `r₀` is the registry some earlier point of the session started from. -/
def Sound {α : Type} (x : Jit α) : Prop :=
  ∀ r₀ : Registry,
    ⦃fun r => ⌜r₀.Leads r⌝⦄ x ⦃post⟨fun _ r => ⌜r₀.Leads r⌝, fun _ r => ⌜r₀.Leads r⌝⟩⦄

/-- A sound action, run from a registry, leads on from it. -/
theorem Sound.run {α : Type} {x : Jit α} (h : x.Sound) (r : Registry) :
    r.Leads (x.run.run r).2 := by
  have h := h r r (Registry.Leads.refl r)
  simp only [wp, PredTrans.pushExcept, PredTrans.pushArg, PredTrans.apply, StateT.run,
    ExceptT.run, Id.run] at h
  rcases hx : x r with ⟨a | a, r'⟩ <;>
    simpa [hx, StateT.run, ExceptT.run, Pure.pure, PredTrans.pure, PredTrans.trans] using h

theorem Sound.discard {α : Type} {x : Jit α} (h : x.Sound) : (discard x).Sound := by
  intro r₀
  have h := h r₀
  show ⦃_⦄ (do let _ ← x; pure ()) ⦃_⦄
  mvcgen [h]

theorem change_sound {f : Registry → Except JitError Registry}
    (hf : ∀ r r', f r = .ok r' → r.Leads r') : (change f).Sound := by
  intro r₀
  mvcgen [change, ofExcept]
  exact ‹r₀.Leads _›.trans (hf _ _ ‹_›)

theorem update_sound {α : Type} {f : Registry → Except JitError (α × Registry)}
    (hf : ∀ r a r', f r = .ok (a, r') → r.Leads r') : (update f).Sound := by
  intro r₀
  mvcgen [update, ofExcept]
  exact ‹r₀.Leads _›.trans (hf _ _ _ ‹_›)

theorem apply_sound {f : Registry → Registry × Option JitError}
    (hf : ∀ r : Registry, r.Leads (f r).1) : (apply f).Sound := by
  intro r₀
  mvcgen [apply]
  all_goals exact ‹r₀.Leads _›.trans (hf _)

end Jit

/-! The operations -/

open Registry

theorem compile_sound (id : Nat) : (compile id).Sound := by
  intro r₀
  mvcgen [compile, Jit.ofExcept]
  · exact ‹r₀.Leads _›.trans (leads_stats _)
  · rename_i h e he hs f hf result stats hrun c hc _
    subst hc
    exact h.trans ((leads_stats _).trans
      (leads_compiled (entryOrFail_eq_ok.1 he) (Classical.not_not.1 hs) hf hrun))

theorem optimize_sound (id : Nat) : (optimize id).Sound := by
  intro r₀
  mvcgen [optimize, Jit.entry, Jit.ofExcept]
  have hmark : ∀ e : Entry, e.Agrees { e with optimized := true } :=
    fun e => ⟨rfl, rfl, rfl, rfl, rfl, rfl, fun h => h⟩
  exact ‹r₀.Leads _›.trans ((leads_modifyEntry hmark).trans (leads_stats _))

/-- Binding keeps the registry coherent when the function bound is compiled; `invoke` binds
only such a function. -/
theorem bind_spec (id : Nat) (r₀ : Registry) :
    ⦃fun r => ⌜r₀.Leads r ∧ ∃ e, r.entry? id = some e ∧ e.state ≠ .declared⌝⦄ bind id
    ⦃post⟨fun _ r => ⌜r₀.Leads r⌝, fun _ r => ⌜r₀.Leads r⌝⟩⦄ := by
  mvcgen [bind, Jit.entry, Jit.ofExcept]
  all_goals obtain ⟨h, e, he, hs⟩ := ‹r₀.Leads _ ∧ _›
  · exact h
  · exact h.trans ((leads_bind he hs ‹_›).trans (leads_stats _))
  · exact h
  · exact h

theorem invoke_sound (id : Nat) (args : List Arg) : (invoke id args).Sound := by
  intro r₀
  have hbind := bind_spec id r₀
  mvcgen [invoke, Jit.entry, Jit.ofExcept, hbind]
  -- binding is reached only for a function that is not merely declared
  exact ⟨‹r₀.Leads _›, _, entryOrFail_eq_ok.1 ‹Registry.entryOrFail _ _ = _›,
    ‹¬_ = FunctionState.declared›⟩

theorem runReference_sound (id : Nat) (args : List Arg) : (runReference id args).Sound := by
  intro r₀
  mvcgen [runReference, Jit.entry, Jit.ofExcept]

theorem define_sound (f : FunctionDef) (ret : Ty) (params : List Ty) :
    (define f ret params).Sound := by
  intro r₀
  have hreg := Jit.update_sound (f := (·.register f ret params)) (fun _ _ _ h => register_leads h) r₀
  have hcompile := fun id => compile_sound id r₀
  have hoptimize := fun id => optimize_sound id r₀
  mvcgen [define, hreg, hcompile, hoptimize]

end TypedJit
