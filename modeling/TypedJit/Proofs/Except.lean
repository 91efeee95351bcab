/-!
Computations that may fail.

The operations of the registry, the resolution of types and the code generator's helpers run in
`Except`. A bind is taken apart by these lemmas: it succeeds when both steps succeed and fails
when one of them fails, and a fold fails only where one of its steps fails.
-/

namespace TypedJit

@[simp] theorem Except.throw_eq {ε α : Type} (e : ε) : (throw e : Except ε α) = .error e := rfl

@[simp] theorem Except.pure_eq {ε α : Type} (a : α) : (pure a : Except ε α) = .ok a := rfl

@[simp] theorem Except.ok_bind {ε α β : Type} (a : α) (f : α → Except ε β) :
    (Except.ok a >>= f) = f a := rfl

@[simp] theorem Except.error_bind {ε α β : Type} (e : ε) (f : α → Except ε β) :
    (Except.error e >>= f) = .error e := rfl

/-- A successful map in `Except` maps a success. -/
theorem Except.map_eq_ok {ε α β : Type} {f : α → β} {x : Except ε α} {b : β} :
    (f <$> x) = .ok b ↔ ∃ a, x = .ok a ∧ f a = b := by
  cases x with
  | error e => exact ⟨fun h => (nomatch h), fun ⟨_, ha, _⟩ => (nomatch ha)⟩
  | ok a => exact ⟨fun h => ⟨a, rfl, by cases h; rfl⟩, fun ⟨_, ha, h⟩ => by cases ha; cases h; rfl⟩

/-- A successful bind in `Except` is a successful first step and a successful rest. -/
theorem Except.bind_eq_ok {ε α β : Type} {x : Except ε α} {f : α → Except ε β} {b : β} :
    (x >>= f) = .ok b ↔ ∃ a, x = .ok a ∧ f a = .ok b := by
  cases x with
  | error e => exact ⟨fun h => (nomatch h), fun ⟨_, ha, _⟩ => (nomatch ha)⟩
  | ok a => exact ⟨fun h => ⟨a, rfl, h⟩, fun ⟨_, ha, h⟩ => by cases ha; exact h⟩

/-- A failed bind in `Except` failed at its first step or in the rest. -/
theorem Except.bind_eq_error {ε α β : Type} {x : Except ε α} {f : α → Except ε β} {e : ε} :
    (x >>= f) = .error e ↔ x = .error e ∨ ∃ a, x = .ok a ∧ f a = .error e := by
  cases x with
  | error e' => simp
  | ok a => exact ⟨fun h => .inr ⟨a, rfl, h⟩, fun h => h.elim (fun h => nomatch h)
      fun ⟨_, ha, h⟩ => by cases ha; exact h⟩

/-- A fold in `Except` fails only with the failure of one of its steps. -/
theorem foldlM_eq_error {α β ε : Type} {f : β → α → Except ε β} {e : ε} :
    ∀ {xs : List α} {acc : β}, xs.foldlM f acc = .error e → ∃ x ∈ xs, ∃ a, f a x = .error e
  | [], _, h => nomatch h
  | x :: xs, acc, h => by
    rw [List.foldlM_cons, Except.bind_eq_error] at h
    rcases h with h | ⟨a, -, h⟩
    · exact ⟨x, by simp, acc, h⟩
    · obtain ⟨y, hy, b, hb⟩ := foldlM_eq_error h
      exact ⟨y, List.mem_cons_of_mem x hy, b, hb⟩

/-- Every result of a successful `mapM` in `Except` is the result of one of its steps. -/
theorem mapM_eq_ok {α β ε : Type} {f : α → Except ε β} :
    ∀ {xs : List α} {ys : List β}, xs.mapM f = .ok ys → ∀ y ∈ ys, ∃ x ∈ xs, f x = .ok y
  | [], ys, h => by
    cases h
    simp
  | x :: xs, ys, h => by
    rw [List.mapM_cons, Except.bind_eq_ok] at h
    obtain ⟨y₀, hy₀, h⟩ := h
    rw [Except.bind_eq_ok] at h
    obtain ⟨ys', hys', h⟩ := h
    cases h
    intro y hy
    rcases List.mem_cons.1 hy with rfl | hy
    · exact ⟨x, List.mem_cons_self .., hy₀⟩
    · obtain ⟨x', hx', hf⟩ := mapM_eq_ok hys' y hy
      exact ⟨x', List.mem_cons_of_mem x hx', hf⟩

end TypedJit
