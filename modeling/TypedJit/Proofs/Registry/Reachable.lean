import Mathlib.Data.List.Nodup
import Mathlib.Data.List.Perm.Subperm
import Mathlib.Logic.Relation
import Mathlib.Tactic.Tauto
import TypedJit.Registry.Lifecycle
import TypedJit.Proofs.Except

/-!
The functions a call can reach.
-/

namespace TypedJit

namespace Registry

variable (r : Registry)

/-- `i` calls `j`: `j` is among the callees recorded for function `i`. -/
def Calls (i j : Nat) : Prop := ∃ e, r.entry? i = some e ∧ j ∈ e.callees

/-- A known function past `declared`: a callee the search accepts. -/
def Resolved (x : Nat) : Prop := ∃ t, r.entry? x = some t ∧ t.state ≠ .declared

/-- A function the search may enter: the root, or a known compiled function. -/
def Enterable (root x : Nat) : Prop :=
  x = root ∨ ∃ e, r.entry? x = some e ∧ e.state ≠ .declared

/-- The failure of a search from `root`: it names a function reachable from `root` and a
declared function among its callees. -/
def Unresolved (root : Nat) (err : JitError) : Prop :=
  ∃ x y ex ey, Relation.ReflTransGen r.Calls root x ∧ r.entry? x = some ex ∧ y ∈ ex.callees ∧
    r.entry? y = some ey ∧ ey.state = .declared ∧ err = .unresolvedCallee ex.name ey.name

/-- What the breadth-first search keeps: `done` are the functions whose callees have been
visited, `queue` those still to visit, and each function met enters the two once. -/
structure Search (root : Nat) (done queue : List Nat) (fuel : Nat) : Prop where
  nodup : (done ++ queue).Nodup
  valid : ∀ x ∈ done ++ queue, x < r.size
  closed : ∀ x ∈ done, ∀ y, r.Calls x y → y ∈ done ++ queue
  resolved : ∀ x ∈ done, ∀ y, r.Calls x y → r.Resolved y
  reach : ∀ x ∈ done ++ queue, Relation.ReflTransGen r.Calls root x
  budget : done.length + fuel = r.size + 1

variable {r}

theorem lt_size_of_entry_some {i : Nat} {e : Entry} (h : r.entry? i = some e) : i < r.size := by
  unfold entry? at h
  obtain ⟨hi, -⟩ := Array.getElem?_eq_some_iff.1 h
  exact hi

theorem entryOrFail_eq_ok {i : Nat} {e : Entry} : r.entryOrFail i = .ok e ↔ r.entry? i = some e := by
  unfold entryOrFail
  split <;> simp_all

theorem exists_entry_of_lt {i : Nat} (hi : i < r.size) : ∃ e, r.entry? i = some e :=
  ⟨_, Array.getElem?_eq_getElem hi⟩

section Visit

variable {order : List Nat} {caller : Entry}

/-- A callee is accepted when it is compiled, and joins the new functions when it is new. -/
theorem visit_eq_ok {fresh fresh' : List Nat} {k : Nat} :
    reachable.visit r order caller fresh k = .ok fresh' ↔
      r.Resolved k ∧ fresh' = if k ∈ order ∨ k ∈ fresh then fresh else fresh ++ [k] := by
  unfold reachable.visit Resolved
  cases ht : r.entry? k with
  | none => exact ⟨fun h => (nomatch h), fun ⟨⟨_, h, _⟩, _⟩ => (nomatch h)⟩
  | some t =>
    by_cases hs : t.state = .declared
    · refine ⟨fun h => ?_, ?_⟩
      · simp only [hs, if_true] at h
        exact nomatch h
      · rintro ⟨⟨t', ht', hs'⟩, -⟩
        cases ht'
        exact absurd hs hs'
    · refine ⟨fun h => ?_, ?_⟩
      · simp only [hs, if_false] at h
        exact ⟨⟨t, rfl, hs⟩, (Except.ok.inj h).symm⟩
      · rintro ⟨-, rfl⟩
        simp only [hs, if_false]
        rfl

/-- A callee is refused when it is unknown, or declared: the caller then has it unresolved. -/
theorem visit_eq_error {fresh : List Nat} {k : Nat} {err : JitError}
    (h : reachable.visit r order caller fresh k = .error err) :
    r.entry? k = none ∨
      ∃ t, r.entry? k = some t ∧ t.state = .declared ∧ err = .unresolvedCallee caller.name t.name := by
  unfold reachable.visit at h
  cases ht : r.entry? k with
  | none => exact .inl rfl
  | some t =>
    rw [ht] at h
    by_cases hs : t.state = .declared
    · simp only [hs, if_true] at h
      exact .inr ⟨t, rfl, hs, (Except.error.inj h).symm⟩
    · simp only [hs, if_false] at h
      exact nomatch h

/-- Visiting callees one by one adds, in order, those not met yet, and accepts each only when
it is compiled. -/
theorem foldlM_visit : ∀ {cs acc fresh : List Nat},
    cs.foldlM (reachable.visit r order caller) acc = .ok fresh → (order ++ acc).Nodup →
      (order ++ fresh).Nodup ∧ (∀ k ∈ acc, k ∈ fresh) ∧
        (∀ k ∈ cs, r.Resolved k ∧ (k ∈ order ∨ k ∈ fresh)) ∧ ∀ k ∈ fresh, k ∈ acc ∨ k ∈ cs
  | [], acc, fresh, h, hnd => by
    cases h
    exact ⟨hnd, fun k hk => hk, by simp, fun k hk => .inl hk⟩
  | c :: cs, acc, fresh, h, hnd => by
    rw [List.foldlM_cons, Except.bind_eq_ok] at h
    obtain ⟨acc₁, hc, hrest⟩ := h
    obtain ⟨hres, rfl⟩ := visit_eq_ok.1 hc
    -- the callee is added exactly when it is new, so the order stays free of repeats
    have hnd₁ : (order ++ if c ∈ order ∨ c ∈ acc then acc else acc ++ [c]).Nodup := by
      split
      · exact hnd
      · rename_i hnew
        rw [← List.append_assoc, List.nodup_append]
        refine ⟨hnd, List.nodup_singleton c, ?_⟩
        intro a ha b hb
        rw [List.mem_singleton] at hb
        subst hb
        rintro rfl
        simp only [List.mem_append] at ha
        exact hnew ha
    have hacc : ∀ k ∈ acc, k ∈ (if c ∈ order ∨ c ∈ acc then acc else acc ++ [c]) := by
      intro k hk
      split
      · exact hk
      · exact List.mem_append_left _ hk
    obtain ⟨hnd', hkeep, hcover, hnew⟩ := foldlM_visit hrest hnd₁
    refine ⟨hnd', fun k hk => hkeep k (hacc k hk), ?_, ?_⟩
    · intro k hk
      rcases List.mem_cons.1 hk with rfl | hk
      · refine ⟨hres, ?_⟩
        by_cases hold : k ∈ order
        · exact .inl hold
        · refine .inr (hkeep k ?_)
          split
          · rename_i hin
            exact hin.resolve_left hold
          · exact List.mem_append_right _ (List.mem_singleton_self k)
      · exact hcover k hk
    · intro k hk
      rcases hnew k hk with hk | hk
      · split at hk
        · exact .inl hk
        · rcases List.mem_append.1 hk with hk | hk
          · exact .inl hk
          · rw [List.mem_singleton] at hk
            exact .inr (by simp [hk])
      · exact .inr (List.mem_cons_of_mem c hk)

end Visit

section Search

variable {root : Nat}

theorem Search.start (hroot : root < r.size) : r.Search root [] [root] (r.size + 1) :=
  ⟨List.nodup_singleton root, by simpa using hroot, by simp, by simp,
    fun x hx => by simp only [List.nil_append, List.mem_singleton] at hx; exact hx ▸ .refl, by simp⟩

/-- The functions met are distinct and known, so there are no more of them than functions. -/
theorem Search.length_le {fuel : Nat} {done queue : List Nat}
    (h : r.Search root done queue fuel) : (done ++ queue).length ≤ r.size := by
  have hsub : (done ++ queue).Subperm (List.range r.size) :=
    h.nodup.subperm fun x hx => List.mem_range.2 (h.valid x hx)
  simpa using hsub.length_le

/-- Visiting the callees of the next function in the queue keeps the search's invariant. -/
theorem Search.visit {caller fuel : Nat} {done rest fresh : List Nat} {e : Entry}
    (h : r.Search root done (caller :: rest) (fuel + 1)) (he : r.entry? caller = some e)
    (hfold : e.callees.foldlM (reachable.visit r (done ++ caller :: rest) e) [] = .ok fresh) :
    r.Search root (done ++ [caller]) (rest ++ fresh) fuel := by
  obtain ⟨hnd, -, hcover, hnew⟩ := foldlM_visit hfold (by simpa using h.nodup)
  have hcallee : ∀ k ∈ fresh, k ∈ e.callees := fun k hk => (hnew k hk).resolve_left (by simp)
  have heq : (done ++ [caller]) ++ (rest ++ fresh) = (done ++ caller :: rest) ++ fresh := by simp
  -- a function visited now is `caller`, whose callees are exactly what the visit looked at
  have hcaller : ∀ x ∈ done ++ [caller], x ∈ done ∨ x = caller := by simp
  have hcalls : ∀ y, r.Calls caller y → y ∈ e.callees := by
    rintro y ⟨e', he', hy⟩
    rw [he] at he'
    cases he'
    exact hy
  refine ⟨heq ▸ hnd, ?_, ?_, ?_, ?_, ?_⟩
  · intro x hx
    rw [heq, List.mem_append] at hx
    rcases hx with hx | hx
    · exact h.valid x hx
    · obtain ⟨t, ht, -⟩ := (hcover x (hcallee x hx)).1
      exact lt_size_of_entry_some ht
  · intro x hx y hxy
    rw [heq]
    rcases hcaller x hx with hx | rfl
    · exact List.mem_append_left _ (h.closed x hx y hxy)
    · rcases (hcover y (hcalls y hxy)).2 with hy | hy
      · exact List.mem_append_left _ hy
      · exact List.mem_append_right _ hy
  · intro x hx y hxy
    rcases hcaller x hx with hx | rfl
    · exact h.resolved x hx y hxy
    · exact (hcover y (hcalls y hxy)).1
  · intro x hx
    rw [heq, List.mem_append] at hx
    rcases hx with hx | hx
    · exact h.reach x hx
    · exact (h.reach caller (by simp)).tail ⟨e, he, hcallee x hx⟩
  · have hb := h.budget
    simp only [List.length_append, List.length_singleton] at hb ⊢
    omega

/-- A finished search holds everything reachable from the root. -/
theorem Search.mem_of_reach {fuel : Nat} {order : List Nat} (h : r.Search root order [] fuel)
    (hroot : root ∈ order) {y : Nat} (hy : Relation.ReflTransGen r.Calls root y) : y ∈ order := by
  induction hy with
  | refl => exact hroot
  | tail _ hxy ih => simpa using h.closed _ ih _ hxy

/-- In a finished search every function reached through at least one call is compiled. -/
theorem Search.resolved_of_transGen {fuel : Nat} {order : List Nat}
    (h : r.Search root order [] fuel) (hroot : root ∈ order) {y : Nat}
    (hy : Relation.TransGen r.Calls root y) : r.Resolved y := by
  obtain ⟨x, hx, hxy⟩ := Relation.TransGen.tail'_iff.1 hy
  exact h.resolved x (h.mem_of_reach hroot hx) y hxy

/-- A search run from an invariant state that succeeds ends in a finished search: the queue is
empty and the answer extends what had been met. -/
theorem go_ok : ∀ {fuel : Nat} {done queue order : List Nat},
    r.Search root done queue fuel → reachable.go r fuel queue (done ++ queue) = .ok order →
    (∃ fuel', r.Search root order [] fuel') ∧ done ++ queue <+: order
  | 0, done, queue, _, h, _ => by
    -- one round per function met: the fuel cannot have run out
    have hlen := h.length_le
    have hb := h.budget
    simp only [List.length_append] at hlen
    omega
  | fuel + 1, done, [], order, h, hgo => by
    simp only [reachable.go, List.append_nil, Except.ok.injEq] at hgo
    subst hgo
    exact ⟨⟨fuel + 1, by simpa using h⟩, by simp⟩
  | fuel + 1, done, caller :: rest, order, h, hgo => by
    simp only [reachable.go] at hgo
    rw [Except.bind_eq_ok] at hgo
    obtain ⟨e, he, hgo⟩ := hgo
    rw [Except.bind_eq_ok] at hgo
    obtain ⟨fresh, hfold, hgo⟩ := hgo
    have hnext := h.visit (entryOrFail_eq_ok.1 he) hfold
    rw [show (done ++ caller :: rest) ++ fresh = (done ++ [caller]) ++ (rest ++ fresh) by simp]
      at hgo
    obtain ⟨hfin, hpre⟩ := go_ok hnext hgo
    refine ⟨hfin, List.IsPrefix.trans ?_ hpre⟩
    rw [show (done ++ [caller]) ++ (rest ++ fresh) = (done ++ caller :: rest) ++ fresh by simp]
    exact List.prefix_append _ _

/-- A search run from an invariant state fails only at a declared callee of a function reached
from the root, when every recorded callee is a known function. -/
theorem go_error (hknown : ∀ x e, r.entry? x = some e → ∀ y ∈ e.callees, y < r.size) :
    ∀ {fuel : Nat} {done queue : List Nat} {err : JitError},
    r.Search root done queue fuel → reachable.go r fuel queue (done ++ queue) = .error err →
    r.Unresolved root err
  | 0, _, _, _, _, hgo => by simp [reachable.go] at hgo
  | fuel + 1, done, [], _, _, hgo => by simp [reachable.go] at hgo
  | fuel + 1, done, caller :: rest, err, h, hgo => by
    simp only [reachable.go] at hgo
    rcases Except.bind_eq_error.1 hgo with hentry | ⟨e, he, hgo⟩
    · -- the function taken from the queue is known
      obtain ⟨e, he⟩ := exists_entry_of_lt (h.valid caller (by simp))
      rw [entryOrFail_eq_ok.2 he] at hentry
      exact nomatch hentry
    have he' := entryOrFail_eq_ok.1 he
    rcases Except.bind_eq_error.1 hgo with hfold | ⟨fresh, hfold, hgo⟩
    · -- a callee of `caller` was refused
      obtain ⟨k, hk, acc, hv⟩ := foldlM_eq_error hfold
      rcases visit_eq_error hv with hnone | ⟨t, ht, hs, rfl⟩
      · obtain ⟨t, ht⟩ := exists_entry_of_lt (hknown caller e he' k hk)
        rw [hnone] at ht
        exact nomatch ht
      · exact ⟨caller, k, e, t, h.reach caller (by simp), he', hk, ht, hs, rfl⟩
    · have hnext := h.visit he' hfold
      rw [show (done ++ caller :: rest) ++ fresh = (done ++ [caller]) ++ (rest ++ fresh) by simp]
        at hgo
      exact go_error hknown hnext hgo

/-- The search from a known function is complete: its answer holds the root, the callees of
each member, and otherwise only known compiled functions. -/
theorem reachable_closed {order : List Nat} (hroot : root < r.size)
    (h : r.reachable root = .ok order) :
    root ∈ order ∧ (∀ x ∈ order, ∀ y, r.Calls x y → y ∈ order) ∧
      ∀ x ∈ order, x < r.size ∧ r.Enterable root x := by
  obtain ⟨⟨fuel, hfin⟩, hpre⟩ := go_ok (Search.start hroot) h
  have hmem : root ∈ order := hpre.subset (by simp)
  refine ⟨hmem, fun x hx y hxy => by simpa using hfin.closed x hx y hxy, fun x hx => ?_⟩
  refine ⟨hfin.valid x (by simpa using hx), ?_⟩
  rcases Relation.ReflTransGen.cases_tail (hfin.reach x (by simpa using hx)) with rfl | ⟨z, hz, hzx⟩
  · exact .inl rfl
  · exact .inr (hfin.resolved_of_transGen hmem (Relation.TransGen.tail' hz hzx))

end Search

/-- The search for the functions a call reaches is exact. On any registry whose recorded callees
are known functions (as the registry invariant keeps them), from any known root and on any call
graph: it succeeds exactly when no function reached through at least one call is declared; its
answer then starts with the root and lists every function reachable from it, each once; and a
failure reports a declared function reached from the root together with a reached caller of it. -/
theorem reachable_exact (hknown : ∀ x e, r.entry? x = some e → ∀ y ∈ e.callees, y < r.size)
    {root : Nat} (hroot : root < r.size) :
    ((∃ order, r.reachable root = .ok order) ↔
      ∀ y t, Relation.TransGen r.Calls root y → r.entry? y = some t → t.state ≠ .declared) ∧
    (∀ order, r.reachable root = .ok order → order.head? = some root ∧ order.Nodup ∧
      ∀ y, y ∈ order ↔ Relation.ReflTransGen r.Calls root y) ∧
    ∀ err, r.reachable root = .error err → r.Unresolved root err := by
  have herr : ∀ err, r.reachable root = .error err → r.Unresolved root err :=
    fun err h => go_error hknown (Search.start hroot) h
  refine ⟨⟨?_, ?_⟩, ?_, herr⟩
  · rintro ⟨order, h⟩ y t hy ht
    obtain ⟨⟨fuel, hfin⟩, hpre⟩ := go_ok (Search.start hroot) h
    obtain ⟨t', ht', hs⟩ := hfin.resolved_of_transGen (hpre.subset (by simp)) hy
    rw [ht] at ht'
    cases ht'
    exact hs
  · intro hall
    cases h : r.reachable root with
    | ok order => exact ⟨order, rfl⟩
    | error err =>
      obtain ⟨x, y, ex, ey, hx, hex, hy, hey, hs, -⟩ := herr err h
      exact absurd hs (hall y ey (Relation.TransGen.tail' hx ⟨ex, hex, hy⟩) hey)
  · intro order h
    obtain ⟨⟨fuel, hfin⟩, hpre⟩ := go_ok (Search.start hroot) h
    have hmem : root ∈ order := hpre.subset (by simp)
    refine ⟨?_, by simpa using hfin.nodup, fun y => ⟨fun hy => ?_, hfin.mem_of_reach hmem⟩⟩
    · obtain ⟨rest, rfl⟩ := hpre
      rfl
    · exact hfin.reach y (by simpa using hy)

/-- Two compiled functions that call each other. -/
theorem reachable_exact_mutual :
    let pair : Registry := { entries := #[
      { name := "even", sig := ⟨.int32, [.int32]⟩, state := .compiled, callees := [1] },
      { name := "odd", sig := ⟨.int32, [.int32]⟩, state := .compiled, callees := [0] }] }
    (∀ x e, pair.entry? x = some e → ∀ y ∈ e.callees, y < pair.size) ∧ 0 < pair.size ∧
      (((∃ order, pair.reachable 0 = .ok order) ↔
        ∀ y t, Relation.TransGen pair.Calls 0 y → pair.entry? y = some t → t.state ≠ .declared) ∧
      (∀ order, pair.reachable 0 = .ok order → order.head? = some 0 ∧ order.Nodup ∧
        ∀ y, y ∈ order ↔ Relation.ReflTransGen pair.Calls 0 y) ∧
      ∀ err, pair.reachable 0 = .error err → pair.Unresolved 0 err) := by
  intro pair
  have hknown : ∀ x e, pair.entry? x = some e → ∀ y ∈ e.callees, y < pair.size := by
    intro x e he y hy
    -- the callees are `1` and `0`, both functions of the registry
    have : y < 2 := by
      rcases x with _ | _ | x <;> simp [pair, Registry.entry?] at he <;> subst he <;> simp at hy <;> omega
    exact this
  exact ⟨hknown, by decide, reachable_exact hknown (by decide)⟩

end Registry

end TypedJit
