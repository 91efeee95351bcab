import Mathlib.Logic.Relation
import TypedJit.Proofs.Registry.Operations

/-!
Sessions of registry operations.
-/

namespace TypedJit

/-- One operation of a host on a registry. -/
inductive Op where
  | defineConstant (name : String) (value : Scalar)
  | defineType (name : String) (ty : Ty)
  | declareBuiltin (name symbol : String) (ret : Ty) (params : List Ty)
  | declareMath
  | declareStdio
  | forwardDeclare (name : String) (ret : Ty) (params : List Ty)
  | register (f : FunctionDef) (ret : Ty) (params : List Ty)
  | define (f : FunctionDef) (ret : Ty) (params : List Ty)
  | compile (id : Nat)
  | optimize (id : Nat)
  | invoke (id : Nat) (args : List Arg)
  | runReference (id : Nat) (args : List Arg)

/-- The registry action of an operation, its answer dropped. -/
def Op.run : Op → Jit Unit
  | .defineConstant n v => Jit.change (·.defineConstant n v)
  | .defineType n t => Jit.change (·.defineType n t)
  | .declareBuiltin n s ret ps => Jit.change (·.declareBuiltin n s ret ps)
  | .declareMath => Jit.apply Registry.declareMath
  | .declareStdio => Jit.apply Registry.declareStdio
  | .forwardDeclare n ret ps => discard (Jit.update (·.forwardDeclare n ret ps))
  | .register f ret ps => discard (Jit.update (·.register f ret ps))
  | .define f ret ps => discard (TypedJit.define f ret ps)
  | .compile id => TypedJit.compile id
  | .optimize id => TypedJit.optimize id
  | .invoke id args => discard (TypedJit.invoke id args)
  | .runReference id args => discard (TypedJit.runReference id args)

namespace Registry

/-- The registry a sequence of operations leaves, each run from the registry the one before
left. -/
def runOps (r : Registry) (ops : List Op) : Registry :=
  ops.foldl (fun r op => (op.run.run.run r).2) r

theorem runOps_append (r : Registry) (ops more : List Op) :
    r.runOps (ops ++ more) = (r.runOps ops).runOps more := by
  simp [runOps, List.foldl_append]

end Registry

open Registry

/-- Every operation is sound: the step lemma of a session. -/
theorem Op.run_sound (op : Op) : op.run.Sound := by
  cases op <;> simp only [Op.run]
  case defineConstant => exact Jit.change_sound fun _ _ h => defineConstant_leads h
  case defineType => exact Jit.change_sound fun _ _ h => defineType_leads h
  case declareBuiltin => exact Jit.change_sound fun _ _ h => declareBuiltin_leads h
  case declareMath => exact Jit.apply_sound fun r => declareEach_leads r _
  case declareStdio => exact Jit.apply_sound fun r => declareEach_leads r _
  case forwardDeclare => exact (Jit.update_sound fun _ _ _ h => forwardDeclare_leads h).discard
  case register => exact (Jit.update_sound fun _ _ _ h => register_leads h).discard
  case define f ret ps => exact (define_sound f ret ps).discard
  case compile id => exact compile_sound id
  case optimize id => exact optimize_sound id
  case invoke id args => exact (invoke_sound id args).discard
  case runReference id args => exact (runReference_sound id args).discard

/-- The prelude binds no function. -/
theorem Globals.prelude_find?_ne_function {n : String} {f : FunctionRef} :
    Globals.prelude.find? n ≠ some (.function f) := by
  intro h
  obtain ⟨⟨m, s⟩, hp, hs⟩ := Option.map_eq_some_iff.1 h
  have hmem := List.mem_of_find?_eq_some hp
  subst hs
  simp [Globals.prelude, ScalarType.all] at hmem

namespace Registry

variable {r : Registry}

/-- A session leads on from the registry it starts from: the run lemma of `Op.run_sound`. -/
theorem leads_runOps (ops : List Op) : ∀ r : Registry, r.Leads (r.runOps ops) := by
  induction ops with
  | nil => exact Leads.refl
  | cons op ops ih =>
    intro r
    exact (op.run_sound.run r).trans (ih _)

/-- A fresh registry is coherent: it has no entries, and its prelude no functions. -/
theorem coherent_start (cfg : Config) : ({ config := cfg } : Registry).Coherent := by
  have hnone : ∀ i, entry? ({ config := cfg } : Registry) i = none := fun i => by
    simp [Registry.entry?]
  refine ⟨?_, ?_, ?_, ?_, ?_, ?_, ?_⟩
  all_goals intro i
  · intro e he
    simp [hnone] at he
  · intro f hf
    exact absurd hf Globals.prelude_find?_ne_function
  all_goals intro e he
  all_goals simp [hnone] at he

/-- In a coherent registry two entries of one name are one entry. -/
theorem Coherent.eq_of_name (hc : r.Coherent) {i j : Nat} {e u : Entry}
    (he : r.entry? i = some e) (hu : r.entry? j = some u) (hn : u.name = e.name) : j = i := by
  have hi := hc.global i e he
  have hj := hc.global j u hu
  rw [hn, hi] at hj
  simp only [Option.some.injEq, GlobalSymbol.function.injEq, FunctionRef.mk.injEq] at hj
  exact hj.1.symm

/-- In a coherent registry a name is looked up to the one entry registered under it. -/
theorem Coherent.handle (hc : r.Coherent) {i : Nat} {e : Entry} (he : r.entry? i = some e) :
    r.handle? e.name = some i := by
  obtain ⟨hi, hei⟩ := Array.getElem?_eq_some_iff.1 he
  unfold handle?
  rw [Array.findIdx?_eq_some_iff_getElem]
  refine ⟨hi, by simp [hei], fun j hji hname => ?_⟩
  -- an earlier entry of the same name would be the same entry
  have hj : r.entry? j = some r.entries[j] := Array.getElem?_eq_getElem (Nat.lt_trans hji hi)
  have := hc.eq_of_name he hj (by simpa using hname)
  omega

/-- In a coherent registry every function reached through calls from a function with a native
entry point is sealed. -/
theorem Coherent.sealed_of_reaches (hc : r.Coherent) {i j : Nat} {e : Entry}
    (he : r.entry? i = some e) (hb : e.bound = true) (hij : Relation.ReflTransGen r.Calls i j) :
    ∃ t, r.entry? j = some t ∧ t.state = .sealed := by
  induction hij with
  | refl => exact ⟨e, he, hc.bound i e he hb⟩
  | tail _ hcall ih =>
    obtain ⟨t, ht, hs⟩ := ih
    obtain ⟨u, hu, hk⟩ := hcall
    rw [ht] at hu
    cases hu
    exact hc.sealed _ t ht hs _ hk

end Registry

/-- Every registry a session reaches is coherent and only evolves under the operations that
follow; in it every name is looked up to the one function registered under it, and every
function reached through calls from one with a native entry point is sealed. -/
theorem session_registry_coherent (cfg : Config) (ops more : List Op) :
    let r := ({ config := cfg } : Registry).runOps ops
    r.Coherent ∧ r.Evolves (r.runOps more) ∧
      (∀ i e, r.entry? i = some e → r.handle? e.name = some i) ∧
      ∀ i e, r.entry? i = some e → e.bound = true →
        ∀ j, Relation.ReflTransGen r.Calls i j → ∃ t, r.entry? j = some t ∧ t.state = .sealed := by
  intro r
  have hc : r.Coherent := (leads_runOps ops _ (coherent_start cfg)).1
  refine ⟨hc, (leads_runOps more r hc).2, fun i e he => hc.handle he, ?_⟩
  intro i e he hb j hij
  exact hc.sealed_of_reaches he hb hij

end TypedJit
