import Mathlib.Tactic.Set
import TypedJit.Proofs.Codegen.Callees
import TypedJit.Proofs.Registry.Reachable

/-!
The registry's invariant, and the changes that keep it.
-/

namespace TypedJit

theorem Globals.find?_insert {g : Globals} {n m : String} {s : GlobalSymbol}
    (h : g.contains n = false) : (g.insert n s).find? m = if m = n then some s else g.find? m := by
  have hn : g.find? n = none := by simpa [Globals.contains] using h
  unfold Globals.insert
  rw [if_neg (by simp [h])]
  unfold Globals.find? at hn ⊢
  rw [List.find?_append]
  split
  · rename_i hmn
    subst hmn
    simp only [Option.map_eq_none_iff] at hn
    simp [hn]
  · rename_i hmn
    have : ((n, s).1 == m) = false := by simpa using Ne.symm hmn
    simp [this]

theorem Globals.ne_of_find?_eq_some {g : Globals} {n m : String} {s : GlobalSymbol}
    (h : g.contains n = false) (hm : g.find? m = some s) : m ≠ n := by
  rintro rfl
  simp [Globals.contains, hm] at h

/-- The place of a state on the way from declared through compiled to sealed. -/
def FunctionState.rank : FunctionState → Nat
  | .declared => 0
  | .compiled => 1
  | .sealed => 2

namespace Registry

open Machine Codegen

/-- How the parts of a registry agree. -/
structure Coherent (r : Registry) : Prop where
  /-- Each entry is bound under its name to itself, as a dialect function with its symbol. -/
  global : ∀ i e, r.entry? i = some e →
    r.globals.find? e.name = some (.function ⟨i, dialectSymbol e.name, e.sig, false⟩)
  /-- Every dialect function bound globally is the entry of that name. -/
  registered : ∀ n f, r.globals.find? n = some (.function f) → f.builtin = false →
    ∃ e, r.entry? f.id = some e ∧ e.name = n
  /-- An entry has code exactly when it is past `declared`. -/
  code_iff : ∀ i e, r.entry? i = some e → (e.code.isSome ↔ e.state ≠ .declared)
  /-- An entry past `declared` has its definition. -/
  body : ∀ i e, r.entry? i = some e → e.state ≠ .declared → e.body.isSome
  /-- A function with a native entry point is sealed. -/
  bound : ∀ i e, r.entry? i = some e → e.bound = true → e.state = .sealed
  /-- The callees of a sealed function are sealed. -/
  sealed : ∀ i e, r.entry? i = some e → e.state = .sealed →
    ∀ j ∈ e.callees, ∃ t, r.entry? j = some t ∧ t.state = .sealed
  /-- A recorded callee is an entry, and the caller's code calls its symbol with its own
  machine signature. -/
  callees : ∀ i e, r.entry? i = some e → ∀ j ∈ e.callees, ∃ t, r.entry? j = some t ∧
    ∀ c, e.code = some c → ∀ d sig args, Inst.call d (dialectSymbol t.name) sig args ∈ c.insts →
      machineSignature sig = machineSignature t.sig

/-- What a later registry keeps of an earlier one. -/
structure Evolves (r r' : Registry) : Prop where
  /-- A global binding is never changed or removed. -/
  globals : ∀ n s, r.globals.find? n = some s → r'.globals.find? n = some s
  /-- An entry stays, with its name and signature, and its state only moves forward. -/
  entries : ∀ i e, r.entry? i = some e → ∃ e', r'.entry? i = some e' ∧ e'.name = e.name ∧
    e'.sig = e.sig ∧ e.state.rank ≤ e'.state.rank

theorem Evolves.refl (r : Registry) : r.Evolves r :=
  ⟨fun _ _ h => h, fun _ e h => ⟨e, h, rfl, rfl, Nat.le_refl _⟩⟩

theorem Evolves.trans {r₁ r₂ r₃ : Registry} (h₁ : r₁.Evolves r₂) (h₂ : r₂.Evolves r₃) :
    r₁.Evolves r₃ := by
  refine ⟨fun n s h => h₂.globals n s (h₁.globals n s h), fun i e h => ?_⟩
  obtain ⟨e₂, h₂', hn₂, hs₂, hr₂⟩ := h₁.entries i e h
  obtain ⟨e₃, h₃, hn₃, hs₃, hr₃⟩ := h₂.entries i e₂ h₂'
  exact ⟨e₃, h₃, hn₃.trans hn₂, hs₃.trans hs₂, Nat.le_trans hr₂ hr₃⟩

/-- From a coherent `r`, the registry `r'` is coherent and has evolved from `r`. -/
def Leads (r r' : Registry) : Prop := r.Coherent → r'.Coherent ∧ r.Evolves r'

theorem Leads.refl (r : Registry) : r.Leads r := fun h => ⟨h, Evolves.refl r⟩

theorem Leads.trans {r₁ r₂ r₃ : Registry} (h₁ : r₁.Leads r₂) (h₂ : r₂.Leads r₃) :
    r₁.Leads r₃ := by
  intro h
  obtain ⟨hc₂, he₂⟩ := h₁ h
  obtain ⟨hc₃, he₃⟩ := h₂ hc₂
  exact ⟨hc₃, he₂.trans he₃⟩

section Entries

variable (r : Registry)

@[simp] theorem entry?_with_globals (g : Globals) (i : Nat) :
    entry? ({ r with globals := g } : Registry) i = r.entry? i := rfl

@[simp] theorem entry?_with_stats (s : SessionStats) (i : Nat) :
    entry? ({ r with stats := s } : Registry) i = r.entry? i := rfl

theorem entry?_push (g : Globals) (x : Entry) (i : Nat) :
    entry? ({ r with globals := g, entries := r.entries.push x } : Registry) i =
      if i = r.size then some x else r.entry? i := by
  unfold entry? size
  exact Array.getElem?_push

theorem entry?_modifyEntry (id : Nat) (f : Entry → Entry) (i : Nat) :
    entry? (r.modifyEntry id f) i = if id = i then (r.entry? i).map f else r.entry? i := by
  simp [Registry.entry?, modifyEntry, Array.getElem?_modify]

variable {r}

theorem entry?_push_of_some {g : Globals} {x e : Entry} {i : Nat} (he : r.entry? i = some e) :
    entry? ({ r with globals := g, entries := r.entries.push x } : Registry) i = some e := by
  rw [entry?_push, if_neg (Nat.ne_of_lt (lt_size_of_entry_some he)), he]

theorem entry?_modifyEntry_some {id i : Nat} {f : Entry → Entry} {e : Entry}
    (he : r.entry? i = some e) : entry? (r.modifyEntry id f) i = some (if id = i then f e else e) := by
  rw [entry?_modifyEntry, he]
  split <;> rfl

/-- An entry of a modified registry is the modified entry, or one that was there. -/
theorem entry?_modifyEntry_eq_some {id i : Nat} {f : Entry → Entry} {e' : Entry}
    (he : entry? (r.modifyEntry id f) i = some e') :
    ∃ e, r.entry? i = some e ∧ e' = if id = i then f e else e := by
  rw [entry?_modifyEntry] at he
  split at he
  · obtain ⟨e, he₀, rfl⟩ := Option.map_eq_some_iff.1 he
    exact ⟨e, he₀, by simp [*]⟩
  · exact ⟨e', he, by simp [*]⟩

theorem entry?_modifyEntry_ne {id i : Nat} {f : Entry → Entry} (h : i ≠ id) :
    entry? (r.modifyEntry id f) i = r.entry? i := by
  rw [entry?_modifyEntry, if_neg (Ne.symm h)]

theorem entry?_modifyEntry_self {id : Nat} {f : Entry → Entry} {e : Entry}
    (he : r.entry? id = some e) : entry? (r.modifyEntry id f) id = some (f e) := by
  rw [entry?_modifyEntry, if_pos rfl, he]
  rfl

/-- An entry of a modified registry is the modified entry, or another one that was there. -/
theorem entry?_modifyEntry_cases {id i : Nat} {f : Entry → Entry} {e' : Entry}
    (he : entry? (r.modifyEntry id f) i = some e') :
    (i = id ∧ ∃ e, r.entry? id = some e ∧ e' = f e) ∨ (i ≠ id ∧ r.entry? i = some e') := by
  by_cases hi : i = id
  · subst hi
    obtain ⟨e, he₀, rfl⟩ := entry?_modifyEntry_eq_some he
    exact .inl ⟨rfl, e, he₀, by simp⟩
  · rw [entry?_modifyEntry_ne hi] at he
    exact .inr ⟨hi, he⟩

end Entries

section Changes

variable {r : Registry}

/-- Binding a fresh global name to anything but a dialect function leads on. -/
theorem leads_bindGlobal {n : String} {s : GlobalSymbol} (h : r.globals.contains n = false)
    (hs : ∀ f, s = .function f → f.builtin = true) :
    r.Leads { r with globals := r.globals.insert n s } := by
  intro hc
  refine ⟨⟨?_, ?_, hc.code_iff, hc.body, hc.bound, hc.sealed, hc.callees⟩, ⟨?_, ?_⟩⟩
  · intro i e he
    have hg := hc.global i e he
    simp only [Globals.find?_insert h, if_neg (Globals.ne_of_find?_eq_some h hg)]
    exact hg
  · intro m f hm hb
    simp only [Globals.find?_insert h] at hm
    split at hm
    · cases hm
      simp [hs f rfl] at hb
    · exact hc.registered m f hm hb
  · intro m t hm
    simp only [Globals.find?_insert h, if_neg (Globals.ne_of_find?_eq_some h hm)]
    exact hm
  · exact fun i e he => ⟨e, he, rfl, rfl, Nat.le_refl _⟩

/-- Registering a new function under a fresh name leads on. -/
theorem leads_addEntry {n : String} {sig : Signature} {body : Option FunctionDef}
    (h : r.globals.contains n = false) :
    r.Leads { r with
      globals := r.globals.insert n (.function ⟨r.size, dialectSymbol n, sig, false⟩)
      entries := r.entries.push { name := n, sig, body } } := by
  intro hc
  set r' : Registry := { r with
      globals := r.globals.insert n (.function ⟨r.size, dialectSymbol n, sig, false⟩)
      entries := r.entries.push { name := n, sig, body } }
  -- the new entry sits at `r.size`; every entry met through `r` is below it
  have hold : ∀ {i e}, r.entry? i = some e → r'.entry? i = some e :=
    fun he => entry?_push_of_some he
  have hnew : ∀ {i e'}, r'.entry? i = some e' →
      (i = r.size ∧ e' = { name := n, sig, body }) ∨ r.entry? i = some e' := by
    intro i e' he
    rw [entry?_push] at he
    split at he
    · cases he
      exact .inl ⟨‹_›, rfl⟩
    · exact .inr he
  have hglob : ∀ m, r'.globals.find? m =
      if m = n then some (.function ⟨r.size, dialectSymbol n, sig, false⟩) else r.globals.find? m :=
    fun m => Globals.find?_insert h
  refine ⟨⟨?_, ?_, ?_, ?_, ?_, ?_, ?_⟩, ⟨?_, ?_⟩⟩
  · intro i e he
    rw [hglob]
    rcases hnew he with ⟨rfl, rfl⟩ | he
    · simp
    · have hg := hc.global i e he
      rw [if_neg (Globals.ne_of_find?_eq_some h hg)]
      exact hg
  · intro m f hm hb
    rw [hglob] at hm
    split at hm
    · cases hm
      exact ⟨_, by rw [entry?_push, if_pos rfl], by simp [*]⟩
    · obtain ⟨e, he, hn⟩ := hc.registered m f hm hb
      exact ⟨e, hold he, hn⟩
  · intro i e he
    rcases hnew he with ⟨-, rfl⟩ | he
    · simp
    · exact hc.code_iff i e he
  · intro i e he
    rcases hnew he with ⟨-, rfl⟩ | he
    · simp
    · exact hc.body i e he
  · intro i e he
    rcases hnew he with ⟨-, rfl⟩ | he
    · simp
    · exact hc.bound i e he
  · intro i e he hs j hj
    rcases hnew he with ⟨-, rfl⟩ | he
    · simp at hs
    · obtain ⟨t, ht, hts⟩ := hc.sealed i e he hs j hj
      exact ⟨t, hold ht, hts⟩
  · intro i e he j hj
    rcases hnew he with ⟨-, rfl⟩ | he
    · simp at hj
    · obtain ⟨t, ht, hcalls⟩ := hc.callees i e he j hj
      exact ⟨t, hold ht, hcalls⟩
  · intro m t hm
    rw [hglob, if_neg (Globals.ne_of_find?_eq_some h hm)]
    exact hm
  · exact fun i e he => ⟨e, hold he, rfl, rfl, Nat.le_refl _⟩

/-- Two entries agree on all the invariant reads, the second having a definition where the
first has one. -/
structure Entry.Agrees (e e' : Entry) : Prop where
  name : e'.name = e.name
  sig : e'.sig = e.sig
  state : e'.state = e.state
  code : e'.code = e.code
  callees : e'.callees = e.callees
  bound : e'.bound = e.bound
  body : e.body.isSome → e'.body.isSome

theorem Entry.Agrees.refl (e : Entry) : e.Agrees e := ⟨rfl, rfl, rfl, rfl, rfl, rfl, id⟩

/-- Changing the registry only where the invariant does not look leads on. -/
theorem leads_of_agrees {r' : Registry} (hg : r'.globals = r.globals)
    (hfwd : ∀ i e, r.entry? i = some e → ∃ e', r'.entry? i = some e' ∧ e.Agrees e')
    (hback : ∀ i e', r'.entry? i = some e' → ∃ e, r.entry? i = some e ∧ e.Agrees e') :
    r.Leads r' := by
  intro hc
  refine ⟨⟨?_, ?_, ?_, ?_, ?_, ?_, ?_⟩, ⟨?_, ?_⟩⟩
  · intro i e' he'
    obtain ⟨e, he, ha⟩ := hback i e' he'
    rw [hg, ha.name, ha.sig]
    exact hc.global i e he
  · intro n f hf hb
    rw [hg] at hf
    obtain ⟨e, he, hn⟩ := hc.registered n f hf hb
    obtain ⟨e', he', ha⟩ := hfwd _ e he
    exact ⟨e', he', ha.name.trans hn⟩
  · intro i e' he'
    obtain ⟨e, he, ha⟩ := hback i e' he'
    rw [ha.code, ha.state]
    exact hc.code_iff i e he
  · intro i e' he' hs
    obtain ⟨e, he, ha⟩ := hback i e' he'
    rw [ha.state] at hs
    exact ha.body (hc.body i e he hs)
  · intro i e' he' hb
    obtain ⟨e, he, ha⟩ := hback i e' he'
    rw [ha.bound] at hb
    rw [ha.state]
    exact hc.bound i e he hb
  · intro i e' he' hs j hj
    obtain ⟨e, he, ha⟩ := hback i e' he'
    rw [ha.state] at hs
    rw [ha.callees] at hj
    obtain ⟨t, ht, hts⟩ := hc.sealed i e he hs j hj
    obtain ⟨t', ht', hta⟩ := hfwd j t ht
    exact ⟨t', ht', hta.state.trans hts⟩
  · intro i e' he' j hj
    obtain ⟨e, he, ha⟩ := hback i e' he'
    rw [ha.callees] at hj
    obtain ⟨t, ht, hcalls⟩ := hc.callees i e he j hj
    obtain ⟨t', ht', hta⟩ := hfwd j t ht
    refine ⟨t', ht', fun c hcode => ?_⟩
    rw [hta.name, hta.sig]
    rw [ha.code] at hcode
    exact hcalls c hcode
  · intro n s hs
    rw [hg]
    exact hs
  · intro i e he
    obtain ⟨e', he', ha⟩ := hfwd i e he
    exact ⟨e', he', ha.name, ha.sig, Nat.le_of_eq (by rw [ha.state])⟩

theorem leads_stats (s : SessionStats) : r.Leads { r with stats := s } :=
  leads_of_agrees rfl (fun _ e he => ⟨e, he, .refl e⟩) (fun _ e he => ⟨e, he, .refl e⟩)

/-- Changing one entry where the invariant does not look leads on. -/
theorem leads_modifyEntry {id : Nat} {f : Entry → Entry} (hf : ∀ e : Entry, e.Agrees (f e)) :
    r.Leads (r.modifyEntry id f) := by
  refine leads_of_agrees rfl (fun i e he => ?_) (fun i e' he' => ?_)
  · refine ⟨_, entry?_modifyEntry_some he, ?_⟩
    split
    · exact hf e
    · exact .refl e
  · obtain ⟨e, he, rfl⟩ := entry?_modifyEntry_eq_some he'
    refine ⟨e, he, ?_⟩
    split
    · exact hf e
    · exact .refl e

/-- Recording the code of a declared function, compiled against the registry's own globals,
leads on: the callees it records are registered functions called with their own signatures. -/
theorem leads_compiled {id : Nat} {e : Entry} {f : FunctionDef} {c : Compiled}
    {t t' : SessionStats} (he : r.entry? id = some e) (hstate : e.state = .declared)
    (hbody : e.body = some f)
    (hrun : (compileFunction r.globals f e.sig (dialectSymbol e.name)).run t = (.ok c, t')) :
    r.Leads (r.modifyEntry id fun e =>
      { e with code := some c.code, callees := c.callees, state := .compiled }) := by
  intro hc
  set upd : Entry → Entry := fun e =>
    { e with code := some c.code, callees := c.callees, state := .compiled }
  have hself : entry? (r.modifyEntry id upd) id = some (upd e) := entry?_modifyEntry_self he
  -- every entry is still there, with its name and signature
  have hkeep : ∀ {j u}, r.entry? j = some u → ∃ u', entry? (r.modifyEntry id upd) j = some u' ∧
      u'.name = u.name ∧ u'.sig = u.sig ∧ (j ≠ id → u' = u) := by
    intro j u hu
    by_cases hj : j = id
    · subst hj
      rw [he] at hu
      cases hu
      exact ⟨upd e, hself, rfl, rfl, fun h => absurd rfl h⟩
    · exact ⟨u, by rw [entry?_modifyEntry_ne hj, hu], rfl, rfl, fun _ => rfl⟩
  -- the compiled function was declared, so no sealed function calls it
  have hnot : ∀ j u, r.entry? j = some u → u.state = .sealed → j ≠ id := by
    rintro j u hu hus rfl
    rw [he] at hu
    cases hu
    simp [hstate] at hus
  refine ⟨⟨?_, ?_, ?_, ?_, ?_, ?_, ?_⟩, ⟨?_, ?_⟩⟩
  · intro i e' he'
    rcases entry?_modifyEntry_cases he' with ⟨rfl, e₀, he₀, rfl⟩ | ⟨-, he₀⟩
    · exact hc.global i e₀ he₀
    · exact hc.global i e' he₀
  · intro n g hg hb
    obtain ⟨e₀, he₀, hn⟩ := hc.registered n g hg hb
    obtain ⟨e₁, he₁, hn₁, -⟩ := hkeep he₀
    exact ⟨e₁, he₁, hn₁.trans hn⟩
  · intro i e' he'
    rcases entry?_modifyEntry_cases he' with ⟨rfl, e₀, -, rfl⟩ | ⟨-, he₀⟩
    · simp [upd]
    · exact hc.code_iff i e' he₀
  · intro i e' he' hs
    rcases entry?_modifyEntry_cases he' with ⟨rfl, e₀, he₀, rfl⟩ | ⟨-, he₀⟩
    · rw [he] at he₀
      cases he₀
      simp [upd, hbody]
    · exact hc.body i e' he₀ hs
  · intro i e' he' hb
    rcases entry?_modifyEntry_cases he' with ⟨rfl, e₀, he₀, rfl⟩ | ⟨-, he₀⟩
    · rw [he] at he₀
      cases he₀
      -- a declared function has no native entry point
      have := hc.bound i e he hb
      simp [hstate] at this
    · exact hc.bound i e' he₀ hb
  · intro i e' he' hs j hj
    rcases entry?_modifyEntry_cases he' with ⟨rfl, e₀, -, rfl⟩ | ⟨-, he₀⟩
    · simp [upd] at hs
    · obtain ⟨u, hu, hus⟩ := hc.sealed i e' he₀ hs j hj
      exact ⟨u, by rw [entry?_modifyEntry_ne (hnot j u hu hus), hu], hus⟩
  · intro i e' he' j hj
    rcases entry?_modifyEntry_cases he' with ⟨rfl, e₀, he₀, rfl⟩ | ⟨-, he₀⟩
    · -- a callee just recorded: a registered function, by what compilation guarantees
      rw [he] at he₀
      cases he₀
      obtain ⟨n, g, hg, hb, hid, htypes⟩ := compileFunction_callees hrun j hj
      obtain ⟨u, hu, hun⟩ := hc.registered n g hg hb
      have hglobal := hc.global _ u hu
      rw [hun, hg, hid] at hglobal
      cases hglobal
      obtain ⟨u', hu', hn', hs', -⟩ := hkeep hu
      refine ⟨u', hu', fun code hcode d sig args hcall => ?_⟩
      simp only [upd, Option.some.injEq] at hcode
      subst hcode
      rw [hn', hun] at hcall
      rw [hs']
      exact htypes d sig args hcall
    · obtain ⟨u, hu, hcalls⟩ := hc.callees i e' he₀ j hj
      obtain ⟨u', hu', hn', hs', -⟩ := hkeep hu
      refine ⟨u', hu', fun code hcode => ?_⟩
      rw [hn', hs']
      exact hcalls code hcode
  · exact fun n s hs => hs
  · intro i e₀ he₀
    obtain ⟨e₁, he₁, hn₁, hs₁, hsame⟩ := hkeep he₀
    refine ⟨e₁, he₁, hn₁, hs₁, ?_⟩
    by_cases hi : i = id
    · subst hi
      rw [he] at he₀
      cases he₀
      rw [hself] at he₁
      cases he₁
      simp [upd, hstate, FunctionState.rank]
    · exact Nat.le_of_eq (by rw [hsame hi])

/-- The sealing step of binding: a function with code that is not sealed yet becomes sealed. -/
def Entry.seal (e : Entry) : Entry :=
  if e.state ≠ .sealed ∧ e.code.isSome then { e with state := .sealed } else e

theorem Entry.seal_of_sealed {e : Entry} (h : e.state = .sealed) : e.seal = e := by
  simp [Entry.seal, h]

theorem Entry.seal_state_of_code {e : Entry} (h : e.code.isSome) : e.seal.state = .sealed := by
  unfold Entry.seal
  split
  · rfl
  · rename_i hn
    by_contra hs
    exact hn ⟨hs, h⟩

theorem Entry.seal_seal (e : Entry) : e.seal.seal = e.seal := by
  by_cases h : e.code.isSome
  · exact Entry.seal_of_sealed (Entry.seal_state_of_code h)
  · simp [Entry.seal, h]

/-- Sealing changes the state only, and only towards `sealed`. -/
theorem Entry.seal_agrees (e : Entry) : e.seal.name = e.name ∧ e.seal.sig = e.sig ∧
    e.seal.code = e.code ∧ e.seal.callees = e.callees ∧ e.seal.bound = e.bound ∧
    e.seal.body = e.body ∧ (e.seal.state = e.state ∨ (e.seal.state = .sealed ∧ e.code.isSome)) := by
  unfold Entry.seal
  split
  · rename_i h
    exact ⟨rfl, rfl, rfl, rfl, rfl, rfl, .inr ⟨rfl, h.2⟩⟩
  · exact ⟨rfl, rfl, rfl, rfl, rfl, rfl, .inl rfl⟩

theorem entry?_foldl_seal (order : List Nat) (r : Registry) (i : Nat) :
    entry? (order.foldl (fun r j => r.modifyEntry j Entry.seal) r) i =
      if i ∈ order then (r.entry? i).map Entry.seal else r.entry? i := by
  induction order generalizing r with
  | nil => simp
  | cons x xs ih =>
    rw [List.foldl_cons, ih, entry?_modifyEntry]
    by_cases hx : x = i
    · subst hx
      by_cases hmem : x ∈ xs
      · simp [hmem, Option.map_map, Function.comp_def, Entry.seal_seal]
      · simp [hmem]
    · simp [hx, Ne.symm hx]

theorem globals_foldl_seal (order : List Nat) (r : Registry) :
    (order.foldl (fun r j => r.modifyEntry j Entry.seal) r).globals = r.globals := by
  induction order generalizing r with
  | nil => rfl
  | cons x xs ih => exact ih _

/-- Sealing every function of a set of compiled functions closed under callees leads on. -/
theorem leads_sealAll {order : List Nat}
    (hclosed : ∀ x ∈ order, ∀ y, r.Calls x y → y ∈ order)
    (hcompiled : ∀ x ∈ order, ∃ e, r.entry? x = some e ∧ e.state ≠ .declared) :
    r.Leads (order.foldl (fun r j => r.modifyEntry j Entry.seal) r) := by
  intro hc
  set r' := order.foldl (fun r j => r.modifyEntry j Entry.seal) r
  have hg : r'.globals = r.globals := globals_foldl_seal order r
  have hback : ∀ {i e'}, r'.entry? i = some e' →
      ∃ e, r.entry? i = some e ∧ (e = e' ∨ (i ∈ order ∧ e' = e.seal)) := by
    intro i e' he'
    rw [entry?_foldl_seal] at he'
    split at he'
    · obtain ⟨e, he, rfl⟩ := Option.map_eq_some_iff.1 he'
      exact ⟨e, he, .inr ⟨‹_›, rfl⟩⟩
    · exact ⟨e', he', .inl rfl⟩
  have hfwd : ∀ {i e}, r.entry? i = some e → ∃ e', r'.entry? i = some e' ∧
      (e = e' ∨ (i ∈ order ∧ e' = e.seal)) := by
    intro i e he
    rw [entry?_foldl_seal, he]
    split
    · exact ⟨e.seal, rfl, .inr ⟨‹_›, rfl⟩⟩
    · exact ⟨e, rfl, .inl rfl⟩
  -- a function of the set has code, so it is sealed afterwards
  have hsealed : ∀ {x}, x ∈ order → ∃ e', r'.entry? x = some e' ∧ e'.state = .sealed := by
    intro x hx
    obtain ⟨e, he, hs⟩ := hcompiled x hx
    have hcode := (hc.code_iff x e he).2 hs
    exact ⟨e.seal, by rw [entry?_foldl_seal, if_pos hx, he]; rfl,
      Entry.seal_state_of_code hcode⟩
  refine ⟨⟨?_, ?_, ?_, ?_, ?_, ?_, ?_⟩, ⟨?_, ?_⟩⟩
  · intro i e' he'
    rw [hg]
    obtain ⟨e, he, rfl | ⟨-, rfl⟩⟩ := hback he'
    · exact hc.global i e he
    · obtain ⟨hn, hs, -⟩ := e.seal_agrees
      rw [hn, hs]
      exact hc.global i e he
  · intro n f hf hb
    rw [hg] at hf
    obtain ⟨e, he, hn⟩ := hc.registered n f hf hb
    obtain ⟨e', he', rfl | ⟨-, rfl⟩⟩ := hfwd he
    · exact ⟨e, he', hn⟩
    · exact ⟨e.seal, he', e.seal_agrees.1.trans hn⟩
  · intro i e' he'
    obtain ⟨e, he, rfl | ⟨-, rfl⟩⟩ := hback he'
    · exact hc.code_iff i e he
    · obtain ⟨-, -, hcode, -, -, -, hstate⟩ := e.seal_agrees
      rw [hcode]
      rcases hstate with hstate | ⟨hstate, hsome⟩
      · rw [hstate]
        exact hc.code_iff i e he
      · simp [hstate, hsome]
  · intro i e' he' hs
    obtain ⟨e, he, rfl | ⟨-, rfl⟩⟩ := hback he'
    · exact hc.body i e he hs
    · obtain ⟨-, -, -, -, -, hbody, hstate⟩ := e.seal_agrees
      rw [hbody]
      -- sealing happens only to a function with code, which is past `declared`
      rcases hstate with hstate | ⟨-, hsome⟩
      · exact hc.body i e he (hstate ▸ hs)
      · exact hc.body i e he ((hc.code_iff i e he).1 hsome)
  · intro i e' he' hb
    obtain ⟨e, he, rfl | ⟨-, rfl⟩⟩ := hback he'
    · exact hc.bound i e he hb
    · rw [e.seal_agrees.2.2.2.2.1] at hb
      rw [Entry.seal_of_sealed (hc.bound i e he hb)]
      exact hc.bound i e he hb
  · intro i e' he' hs j hj
    obtain ⟨e, he, rfl | ⟨hi, rfl⟩⟩ := hback he'
    · -- sealed before: its callees were sealed, and sealing keeps them so
      obtain ⟨t, ht, hts⟩ := hc.sealed i e he hs j hj
      obtain ⟨t', ht', rfl | ⟨-, rfl⟩⟩ := hfwd ht
      · exact ⟨t, ht', hts⟩
      · exact ⟨t.seal, ht', by rw [Entry.seal_of_sealed hts]; exact hts⟩
    · -- sealed now: its callees are in the set, which is closed under callees
      rw [e.seal_agrees.2.2.2.1] at hj
      exact hsealed (hclosed i hi j ⟨e, he, hj⟩)
  · intro i e' he' j hj
    obtain ⟨e, he, he'e⟩ := hback he'
    have hcallees : e'.callees = e.callees ∧ e'.code = e.code := by
      rcases he'e with rfl | ⟨-, rfl⟩
      · exact ⟨rfl, rfl⟩
      · exact ⟨e.seal_agrees.2.2.2.1, e.seal_agrees.2.2.1⟩
    rw [hcallees.1] at hj
    obtain ⟨t, ht, hcalls⟩ := hc.callees i e he j hj
    obtain ⟨t', ht', ht'e⟩ := hfwd ht
    have hns : t'.name = t.name ∧ t'.sig = t.sig := by
      rcases ht'e with rfl | ⟨-, rfl⟩
      · exact ⟨rfl, rfl⟩
      · exact ⟨t.seal_agrees.1, t.seal_agrees.2.1⟩
    refine ⟨t', ht', fun c hc' => ?_⟩
    rw [hns.1, hns.2]
    rw [hcallees.2] at hc'
    exact hcalls c hc'
  · exact fun n s hs => hg ▸ hs
  · intro i e he
    obtain ⟨e', he', rfl | ⟨-, rfl⟩⟩ := hfwd he
    · exact ⟨e, he', rfl, rfl, Nat.le_refl _⟩
    · obtain ⟨hn, hs, -, -, -, -, hstate⟩ := e.seal_agrees
      refine ⟨e.seal, he', hn, hs, ?_⟩
      rcases hstate with hstate | ⟨hstate, -⟩
      · exact Nat.le_of_eq (by rw [hstate])
      · rw [hstate]
        cases e.state <;> simp [FunctionState.rank]

/-- Giving a sealed function its native entry point leads on. -/
theorem leads_markBound {id : Nat} {e : Entry} (he : r.entry? id = some e)
    (hs : e.state = .sealed) : r.Leads (r.modifyEntry id fun e => { e with bound := true }) := by
  intro hc
  set r' := r.modifyEntry id fun e => { e with bound := true }
  -- every entry keeps all the invariant reads but its mark
  have hkeep : ∀ {j u}, r.entry? j = some u → ∃ u', r'.entry? j = some u' ∧ u'.name = u.name ∧
      u'.sig = u.sig ∧ u'.state = u.state ∧ u'.code = u.code ∧ u'.callees = u.callees := by
    intro j u hu
    rw [entry?_modifyEntry_some hu]
    exact ⟨_, rfl, by split <;> exact ⟨rfl, rfl, rfl, rfl, rfl⟩⟩
  refine ⟨⟨?_, ?_, ?_, ?_, ?_, ?_, ?_⟩, ⟨?_, ?_⟩⟩
  · intro i e' he'
    rcases entry?_modifyEntry_cases he' with ⟨rfl, e₀, he₀, rfl⟩ | ⟨-, he₀⟩
    · exact hc.global i e₀ he₀
    · exact hc.global i e' he₀
  · intro n f hf hb
    obtain ⟨e₀, he₀, hn⟩ := hc.registered n f hf hb
    obtain ⟨e₁, he₁, hn₁, -⟩ := hkeep he₀
    exact ⟨e₁, he₁, hn₁.trans hn⟩
  · intro i e' he'
    rcases entry?_modifyEntry_cases he' with ⟨rfl, e₀, he₀, rfl⟩ | ⟨-, he₀⟩
    · exact hc.code_iff i e₀ he₀
    · exact hc.code_iff i e' he₀
  · intro i e' he'
    rcases entry?_modifyEntry_cases he' with ⟨rfl, e₀, he₀, rfl⟩ | ⟨-, he₀⟩
    · exact hc.body i e₀ he₀
    · exact hc.body i e' he₀
  · intro i e' he' hb
    rcases entry?_modifyEntry_cases he' with ⟨rfl, e₀, he₀, rfl⟩ | ⟨-, he₀⟩
    · rw [he] at he₀
      cases he₀
      exact hs
    · exact hc.bound i e' he₀ hb
  · intro i e' he' hs' j hj
    have hsealed : ∀ {u}, r.entry? i = some u → u.state = .sealed → j ∈ u.callees →
        ∃ t, r'.entry? j = some t ∧ t.state = .sealed := by
      intro u hu hus hj
      obtain ⟨t, ht, hts⟩ := hc.sealed i u hu hus j hj
      obtain ⟨t', ht', -, -, hst, -⟩ := hkeep ht
      exact ⟨t', ht', hst.trans hts⟩
    rcases entry?_modifyEntry_cases he' with ⟨rfl, e₀, he₀, rfl⟩ | ⟨-, he₀⟩
    · exact hsealed he₀ hs' hj
    · exact hsealed he₀ hs' hj
  · intro i e' he' j hj
    have hcallees : ∀ {u}, r.entry? i = some u → j ∈ u.callees → ∃ t, r'.entry? j = some t ∧
        ∀ c, u.code = some c → ∀ d sig args, Inst.call d (dialectSymbol t.name) sig args ∈ c.insts →
          machineSignature sig = machineSignature t.sig := by
      intro u hu hj
      obtain ⟨t, ht, hcalls⟩ := hc.callees i u hu j hj
      obtain ⟨t', ht', hn, hsg, -⟩ := hkeep ht
      exact ⟨t', ht', by rw [hn, hsg]; exact hcalls⟩
    rcases entry?_modifyEntry_cases he' with ⟨rfl, e₀, he₀, rfl⟩ | ⟨-, he₀⟩
    · have h := hcallees he₀ hj
      exact h
    · exact hcallees he₀ hj
  · exact fun n s hs => hs
  · intro i u hu
    obtain ⟨u', hu', hn, hsg, hst, -⟩ := hkeep hu
    exact ⟨u', hu', hn, hsg, Nat.le_of_eq (by rw [hst])⟩

end Changes

end Registry

end TypedJit
