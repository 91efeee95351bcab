import TypedJit.Globals
import TypedJit.Proofs.Except

/-!
Type expressions.
-/

namespace TypedJit

theorem checkedCount_eq_ok {n : Int} {m : Nat} :
    checkedCount n = .ok m ↔ 0 < n ∧ n < Int.pow 2 32 ∧ m = n.toNat := by
  unfold checkedCount
  by_cases h0 : n ≤ 0
  · simp only [h0, if_true]
    exact ⟨fun h => (nomatch h), fun ⟨h, _⟩ => absurd h (by omega)⟩
  · by_cases h1 : n ≥ Int.pow 2 32
    · simp only [h0, h1, if_true, if_false]
      exact ⟨fun h => (nomatch h), fun ⟨_, h, _⟩ => absurd h (by omega)⟩
    · simp only [h0, h1, if_false]
      exact ⟨fun h => ⟨by omega, by omega, (Except.ok.inj h).symm⟩, fun ⟨_, _, h⟩ => h ▸ rfl⟩

namespace TypeConstructor

/-- Without a count only arrays and slices can be built. -/
theorem build_none_eq_ok {k : TypeConstructor} {s : ScalarType} {t : Ty} :
    k.build s none = .ok t ↔ (k = .array ∧ t = .unbounded s) ∨ (k = .slice ∧ t = .slice s) := by
  cases k with
  | vector =>
    simp only [build, Option.getD_none, Ty.vector?, checkedCount]
    exact ⟨fun h => (nomatch h), fun h => by simp at h⟩
  | array => exact ⟨fun h => .inl ⟨rfl, (Except.ok.inj h).symm⟩, fun h => by simp_all [build]⟩
  | slice => exact ⟨fun h => .inr ⟨rfl, (Except.ok.inj h).symm⟩, fun h => by simp_all [build]⟩

/-- With a count, a vector or a bounded array needs it in `[1, 2^32)`; a slice ignores it. -/
theorem build_some_eq_ok {k : TypeConstructor} {s : ScalarType} {n : Int} {t : Ty} :
    k.build s (some n) = .ok t ↔ (k = .slice ∧ t = .slice s) ∨
      (0 < n ∧ n < Int.pow 2 32 ∧
        ((k = .vector ∧ t = .vector s n.toNat) ∨ (k = .array ∧ t = .array s n.toNat))) := by
  have hmap : ∀ (f : Nat → Ty), f.Injective →
      ((checkedCount n).map f = .ok t ↔ 0 < n ∧ n < Int.pow 2 32 ∧ t = f n.toNat) := by
    intro f _
    cases h : checkedCount n with
    | error e =>
      refine ⟨fun h' => (nomatch h'), fun ⟨h0, h1, _⟩ => ?_⟩
      have := checkedCount_eq_ok.2 ⟨h0, h1, rfl⟩
      rw [h] at this
      exact nomatch this
    | ok m =>
      obtain ⟨h0, h1, rfl⟩ := checkedCount_eq_ok.1 h
      exact ⟨fun h' => ⟨h0, h1, (Except.ok.inj h').symm⟩, fun ⟨_, _, ht⟩ => ht ▸ rfl⟩
  cases k with
  | vector =>
    rw [build, Option.getD_some, Ty.vector?, hmap _ fun _ _ h => by cases h; rfl]
    simp
  | array =>
    rw [build, Ty.array?, hmap _ fun _ _ h => by cases h; rfl]
    simp
  | slice => exact ⟨fun h => .inl ⟨rfl, (Except.ok.inj h).symm⟩, fun h => by simp_all [build]⟩

end TypeConstructor

namespace Globals

variable (g : Globals)

/-- An element count and its value: an integer literal, the negation of a literal other than the
least 64-bit integer, or a name bound to a constant of an integer type. -/
inductive CountExpr : Expr → Int → Prop where
  | literal {n : Int64} {span : Span} : CountExpr (.const (.int n) span) n.toInt
  | negated {n : Int64} {lit op : Span} : n.toInt ≠ -Int.pow 2 63 →
      CountExpr (.unary .neg (.const (.int n) lit) op) (-n.toInt)
  | constant {name : String} {span : Span} {c : Scalar} : g.find? name = some (.constant c) →
      c.ty.isInteger = true → CountExpr (.name name span) c.toInt

/-- A type expression and the type it denotes. -/
inductive Denotes : Expr → Ty → Prop where
  | name {n : String} {span : Span} {t : Ty} : g.find? n = some (.type t) →
      Denotes (.name n span) t
  | vector {c : String} {callee span : Span} {elem count : Expr} {s : ScalarType} {n : Int} :
      g.find? c = some (.ctor .vector) → Denotes elem (.scalar s) → CountExpr g count n →
      0 < n → n < Int.pow 2 32 →
      Denotes (.call (.name c callee) [elem, count] [] span) (.vector s n.toNat)
  | array {c : String} {callee span : Span} {elem count : Expr} {s : ScalarType} {n : Int} :
      g.find? c = some (.ctor .array) → Denotes elem (.scalar s) → CountExpr g count n →
      0 < n → n < Int.pow 2 32 →
      Denotes (.call (.name c callee) [elem, count] [] span) (.array s n.toNat)
  | unbounded {c : String} {callee span : Span} {elem : Expr} {s : ScalarType} :
      g.find? c = some (.ctor .array) → Denotes elem (.scalar s) →
      Denotes (.call (.name c callee) [elem] [] span) (.unbounded s)
  | slice {c : String} {callee span : Span} {elem : Expr} {s : ScalarType} :
      g.find? c = some (.ctor .slice) → Denotes elem (.scalar s) →
      Denotes (.call (.name c callee) [elem] [] span) (.slice s)

/-- The first check to fail in resolving the expression is the lookup of the unbound name `n` at
`pos`: the expression itself, or the element type of a constructor call that passes the checks
made before it (the constructor, the keywords, the number of arguments). -/
inductive UnboundAt : Expr → String → Span → Prop where
  | name {n : String} {pos : Span} : g.find? n = none → UnboundAt (.name n pos) n pos
  | element {c : String} {callee span : Span} {k : TypeConstructor} {elem : Expr}
      {rest : List Expr} {n : String} {pos : Span} :
      g.find? c = some (.ctor k) → k.takes (elem :: rest).length = true → UnboundAt elem n pos →
      UnboundAt (.call (.name c callee) (elem :: rest) [] span) n pos

variable {g}

theorem constCount_eq_ok {e : Expr} {n : Int} : g.constCount e = .ok n ↔ g.CountExpr e n := by
  constructor
  · intro h
    unfold constCount at h
    dsimp only at h
    split at h
    · rename_i _ m hm
      cases h
      -- the count's value comes from one of its three forms
      split at hm
      · cases hm
        exact .literal
      · split at hm
        · exact nomatch hm
        · cases hm
          exact .negated ‹_›
      · split at hm
        · split at hm
          · cases hm
            exact .constant ‹_› ‹_›
          · exact nomatch hm
        · exact nomatch hm
      · exact nomatch hm
    · exact nomatch h
  · intro h
    cases h with
    | literal => rfl
    | negated hn =>
      unfold constCount
      simp only [if_neg hn]
    | constant hc hi => simp [constCount, hc, hi]

/-- An element count has one value. -/
theorem CountExpr.unique {e : Expr} {n n' : Int} (h : g.CountExpr e n) (h' : g.CountExpr e n') :
    n = n' := by
  have := (constCount_eq_ok.2 h).symm.trans (constCount_eq_ok.2 h')
  exact Except.ok.inj this

theorem constCount_kind {e : Expr} {err : CompileError} (h : g.constCount e = .error err) :
    err.kind = .invalidUseOfConstruct := by
  unfold constCount at h
  dsimp only at h
  split at h
  · exact nomatch h
  · cases h
    rfl

/-- With the empty name not a constructor, a constructor is only found under a callee's name. -/
theorem callee_of_ctor (hg : ∀ k, g.find? "" ≠ some (.ctor k)) {func : Expr} {k : TypeConstructor}
    (h : g.find? (func.asName?.getD "") = some (.ctor k)) :
    ∃ c callee, func = .name c callee ∧ g.find? c = some (.ctor k) := by
  cases func with
  | name c callee => exact ⟨c, callee, rfl, h⟩
  | _ => exact absurd h (hg k)

/-- A call resolves through its constructor, found without keywords. -/
theorem resolveType_call_eq_ok {func : Expr} {args : List Expr} {kws : List Keyword} {span : Span}
    {t : Ty} : g.resolveType (.call func args kws span) = .ok t ↔
      ∃ k, g.find? (func.asName?.getD "") = some (.ctor k) ∧ kws = [] ∧
        g.constructType k (func.asName?.getD "") args span = .ok t := by
  rw [resolveType]
  split
  · rename_i k hk
    cases kws with
    | nil => simp [hk]
    | cons kw kws =>
      refine ⟨fun h => (nomatch h), fun ⟨_, _, h, _⟩ => (nomatch h)⟩
  · rename_i hk
    refine ⟨fun h => (nomatch h), fun ⟨k, h, _⟩ => absurd h (hk k)⟩

/-- A call fails at its constructor or keywords with an invalid use of a construct, or else where
its constructor fails. -/
theorem resolveType_call_eq_error {func : Expr} {args : List Expr} {kws : List Keyword}
    {span : Span} {err : CompileError} (h : g.resolveType (.call func args kws span) = .error err) :
    err.kind = .invalidUseOfConstruct ∨ ∃ k, g.find? (func.asName?.getD "") = some (.ctor k) ∧
      kws = [] ∧ g.constructType k (func.asName?.getD "") args span = .error err := by
  rw [resolveType] at h
  split at h
  · rename_i k hk
    cases kws with
    | nil => exact .inr ⟨k, hk, rfl, h⟩
    | cons kw kws =>
      cases h
      exact .inl rfl
  · cases h
    exact .inl rfl

/-- A constructor fails on no arguments. -/
theorem constructType_nil {k : TypeConstructor} {name : String} {span : Span} :
    g.constructType k name [] span =
      .error (.invalidConstruct s!"wrong number of arguments to `{name}`" span) := rfl

/-- A constructor succeeds on the right number of arguments when the first resolves to a scalar
type and the second, if any, is a count it can build with. -/
theorem constructType_cons_eq_ok {k : TypeConstructor} {name : String} {elem : Expr}
    {rest : List Expr} {span : Span} {t : Ty} :
    g.constructType k name (elem :: rest) span = .ok t ↔
      k.takes (elem :: rest).length = true ∧ ∃ s, g.resolveType elem = .ok (.scalar s) ∧
        ((rest = [] ∧ k.build s none = .ok t) ∨
          ∃ c n, rest = [c] ∧ g.CountExpr c n ∧ k.build s (some n) = .ok t) := by
  rw [constructType]
  by_cases htakes : k.takes (elem :: rest).length = true
  · simp only [htakes, Bool.not_true, Bool.false_eq_true, if_false, true_and]
    -- the element type must resolve to a scalar type
    cases hr : g.resolveType elem with
    | error e => simp
    | ok ty =>
      cases ty with
      | scalar s =>
        simp only [Except.pure_eq, Except.ok_bind, Except.ok.injEq, Ty.scalar.injEq,
          exists_eq_left']
        cases rest with
        | nil => cases k.build s none <;> simp
        | cons c tail =>
          -- a second argument leaves no room for a third
          have htail : tail = [] := by
            cases k <;> cases tail <;> simp_all [TypeConstructor.takes]
          subst htail
          simp only [map_eq_pure_bind, bind_assoc, List.cons_ne_nil, false_and, false_or,
            List.cons.injEq, and_true, exists_and_left, exists_eq_left']
          -- the count must be one of the three forms
          cases hc : g.constCount c with
          | error e =>
            simp only [Except.error_bind]
            refine ⟨fun h => (nomatch h), fun ⟨n, hn, _⟩ => ?_⟩
            rw [constCount_eq_ok.2 hn] at hc
            exact nomatch hc
          | ok n =>
            have hn := constCount_eq_ok.1 hc
            simp only [Except.ok_bind, Except.pure_eq]
            constructor
            · intro h
              refine ⟨n, hn, ?_⟩
              revert h
              cases k.build s (some n) <;> simp
            · rintro ⟨n', hn', hb⟩
              rw [hn'.unique hn] at hb
              simp [hb]
      | _ => simp
  · have hfalse : k.takes (elem :: rest).length = false := by simpa using htakes
    simp only [hfalse, Bool.not_false, if_true, Except.throw_eq, Except.error_bind]
    exact ⟨fun h => (nomatch h), fun ⟨h, _⟩ => (nomatch h)⟩

/-- A constructor fails with an invalid use of a construct, or with the failure of its element
type once the number of arguments has passed. -/
theorem constructType_eq_error {k : TypeConstructor} {name : String} {args : List Expr}
    {span : Span} {err : CompileError} (h : g.constructType k name args span = .error err) :
    err.kind = .invalidUseOfConstruct ∨
      ∃ elem rest, args = elem :: rest ∧ k.takes args.length = true ∧
        g.resolveType elem = .error err := by
  cases args with
  | nil =>
    cases h
    exact .inl rfl
  | cons elem rest =>
    rw [constructType] at h
    by_cases htakes : k.takes (elem :: rest).length = true
    · simp only [htakes, Bool.not_true, Bool.false_eq_true, if_false] at h
      cases hr : g.resolveType elem with
      | error e =>
        rw [hr] at h
        cases h
        exact .inr ⟨elem, rest, rfl, htakes, hr⟩
      | ok ty =>
        rw [hr] at h
        refine .inl ?_
        cases ty with
        | scalar s =>
          simp only [Except.pure_eq, Except.ok_bind] at h
          -- what is left fails at the count or at building the type
          cases rest with
          | nil =>
            revert h
            cases k.build s none with
            | ok t => simp
            | error e =>
              rintro ⟨⟩
              rfl
          | cons c tail =>
            simp only [map_eq_pure_bind, bind_assoc] at h
            cases hc : g.constCount c with
            | error e =>
              rw [hc, Except.error_bind] at h
              cases h
              exact constCount_kind hc
            | ok n =>
              rw [hc] at h
              revert h
              simp only [Except.ok_bind, Except.pure_eq]
              cases k.build s (some n) with
              | ok t => simp
              | error e =>
                rintro ⟨⟩
                rfl
        | _ =>
          cases h
          rfl
    · have hfalse : k.takes (elem :: rest).length = false := by simpa using htakes
      simp only [hfalse, Bool.not_false, if_true, Except.throw_eq, Except.error_bind] at h
      cases h
      exact .inl rfl

/-- A call whose callee names a constructor, without keywords, is that constructor's work. -/
theorem resolveType_call_of_ctor {c : String} {callee span : Span} {k : TypeConstructor}
    {args : List Expr} (hk : g.find? c = some (.ctor k)) :
    g.resolveType (.call (.name c callee) args [] span) = g.constructType k c args span := by
  simp [resolveType, Expr.asName?, hk]

/-- Resolution gives the type the grammar gives. -/
theorem resolveType_of_denotes {e : Expr} {t : Ty} (h : g.Denotes e t) :
    g.resolveType e = .ok t := by
  induction h with
  | name hn => simp [resolveType, hn]
  | vector hk _ hn h0 h1 ih =>
    rw [resolveType_call_of_ctor hk, constructType_cons_eq_ok]
    exact ⟨rfl, _, ih, .inr ⟨_, _, rfl, hn,
      TypeConstructor.build_some_eq_ok.2 (.inr ⟨h0, h1, .inl ⟨rfl, rfl⟩⟩)⟩⟩
  | array hk _ hn h0 h1 ih =>
    rw [resolveType_call_of_ctor hk, constructType_cons_eq_ok]
    exact ⟨rfl, _, ih, .inr ⟨_, _, rfl, hn,
      TypeConstructor.build_some_eq_ok.2 (.inr ⟨h0, h1, .inr ⟨rfl, rfl⟩⟩)⟩⟩
  | unbounded hk _ ih =>
    rw [resolveType_call_of_ctor hk, constructType_cons_eq_ok]
    exact ⟨rfl, _, ih, .inl ⟨rfl, TypeConstructor.build_none_eq_ok.2 (.inl ⟨rfl, rfl⟩)⟩⟩
  | slice hk _ ih =>
    rw [resolveType_call_of_ctor hk, constructType_cons_eq_ok]
    exact ⟨rfl, _, ih, .inl ⟨rfl, TypeConstructor.build_none_eq_ok.2 (.inr ⟨rfl, rfl⟩)⟩⟩

/-- An unbound name in a type position, met first, is reported by name. -/
theorem resolveType_of_unboundAt {e : Expr} {n : String} {pos : Span} (h : g.UnboundAt e n pos) :
    g.resolveType e = .error (.undefinedSymbol n pos) := by
  induction h with
  | name hn => simp [resolveType, hn]
  | element hk htakes _ ih =>
    rw [resolveType_call_of_ctor hk, constructType]
    simp only [htakes, Bool.not_true, Bool.false_eq_true, if_false, ih]
    rfl

variable (hg : ∀ k, g.find? "" ≠ some (.ctor k))
include hg

/-- What resolves is in the grammar. -/
theorem denotes_of_resolveType : ∀ {e : Expr} {t : Ty}, g.resolveType e = .ok t → g.Denotes e t
  | .name n span, t, h => by
    simp only [resolveType] at h
    split at h
    · cases h
      exact .name ‹_›
    · exact nomatch h
    · exact nomatch h
  | .call func [] kws span, t, h => by
    obtain ⟨k, -, -, hc⟩ := resolveType_call_eq_ok.1 h
    rw [constructType_nil] at hc
    exact nomatch hc
  | .call func (elem :: rest) kws span, t, h => by
    obtain ⟨k, hk, rfl, hc⟩ := resolveType_call_eq_ok.1 h
    obtain ⟨c, callee, rfl, hk⟩ := callee_of_ctor hg hk
    obtain ⟨htakes, s, hs, hcount⟩ := constructType_cons_eq_ok.1 hc
    have ih := denotes_of_resolveType hs
    -- the constructor and the count fix the rule of the grammar
    rcases hcount with ⟨rfl, hb⟩ | ⟨count, n, rfl, hn, hb⟩
    · rcases TypeConstructor.build_none_eq_ok.1 hb with ⟨rfl, rfl⟩ | ⟨rfl, rfl⟩
      · exact .unbounded hk ih
      · exact .slice hk ih
    · rcases TypeConstructor.build_some_eq_ok.1 hb with ⟨rfl, rfl⟩ | ⟨h0, h1, ⟨rfl, rfl⟩ | ⟨rfl, rfl⟩⟩
      · simp [TypeConstructor.takes] at htakes
      · exact .vector hk ih hn h0 h1
      · exact .array hk ih hn h0 h1
  | .const .., _, h | .binary .., _, h | .unary .., _, h | .compare .., _, h | .logic .., _, h
  | .index .., _, h | .slice .., _, h | .unsupported .., _, h => nomatch h

/-- A resolution that fails with no unbound name in a type position met first fails with an
invalid use of a construct. -/
theorem kind_of_resolveType_error : ∀ {e : Expr} {err : CompileError},
    g.resolveType e = .error err → (∀ n pos, ¬ g.UnboundAt e n pos) →
    err.kind = .invalidUseOfConstruct
  | .name n span, err, h, hnot => by
    simp only [resolveType] at h
    split at h
    · exact nomatch h
    · cases h
      rfl
    · exact absurd (.name ‹_›) (hnot n span)
  | .call func [] kws span, err, h, _ => by
    rcases resolveType_call_eq_error h with hk | ⟨k, -, -, hc⟩
    · exact hk
    · rw [constructType_nil] at hc
      cases hc
      rfl
  | .call func (elem :: rest) kws span, err, h, hnot => by
    rcases resolveType_call_eq_error h with hk | ⟨k, hk, rfl, hc⟩
    · exact hk
    obtain ⟨c, callee, rfl, hk⟩ := callee_of_ctor hg hk
    rcases constructType_eq_error hc with hkind | ⟨elem', rest', heq, htakes, helem⟩
    · exact hkind
    · cases heq
      -- the element failed: an unbound name there would be the call's
      exact kind_of_resolveType_error helem fun n pos hu => hnot n pos (.element hk htakes hu)
  | .const .., _, h, _ | .binary .., _, h, _ | .unary .., _, h, _ | .compare .., _, h, _
  | .logic .., _, h, _ | .index .., _, h, _ | .slice .., _, h, _ | .unsupported .., _, h, _ => by
    cases h
    rfl

omit hg in
/-- The prelude binds no constructor under the empty name. -/
theorem prelude_find_empty : Globals.prelude.find? "" = none := by
  decide

end Globals

/-- Resolution accepts exactly the grammar of type expressions, in any namespace that binds no
constructor under the empty name. A failure reports an unbound name in a type position, met
first, as an undefined symbol naming it, and everything else as an invalid use of a construct. -/
theorem Globals.resolveType_accepts_grammar {g : Globals} (hg : ∀ k, g.find? "" ≠ some (.ctor k))
    (e : Expr) :
    (∀ t, g.resolveType e = .ok t ↔ g.Denotes e t) ∧
    ∀ err, g.resolveType e = .error err →
      (∀ n pos, g.UnboundAt e n pos → err = .undefinedSymbol n pos) ∧
      ((∀ n pos, ¬ g.UnboundAt e n pos) → err.kind = .invalidUseOfConstruct) := by
  refine ⟨fun t => ⟨Globals.denotes_of_resolveType hg, Globals.resolveType_of_denotes⟩,
    fun err h => ⟨fun n pos hu => ?_, Globals.kind_of_resolveType_error hg h⟩⟩
  have := (Globals.resolveType_of_unboundAt hu).symm.trans h
  exact (Except.error.inj this).symm

/-- `Vector(Int, 4)` in the prelude. -/
theorem Globals.prelude_accepts_vector :
    (∀ k, Globals.prelude.find? "" ≠ some (.ctor k)) ∧
    let e : Expr := .call (.name "Vector" ⟨1, 4⟩)
      [.name "Int" ⟨1, 11⟩, .const (.int 4) ⟨1, 16⟩] [] ⟨1, 4⟩
    (∀ t, Globals.prelude.resolveType e = .ok t ↔ Globals.prelude.Denotes e t) ∧
    ∀ err, Globals.prelude.resolveType e = .error err →
      (∀ n pos, Globals.prelude.UnboundAt e n pos → err = .undefinedSymbol n pos) ∧
      ((∀ n pos, ¬ Globals.prelude.UnboundAt e n pos) → err.kind = .invalidUseOfConstruct) := by
  have hg : ∀ k, Globals.prelude.find? "" ≠ some (.ctor k) := by
    intro k
    rw [Globals.prelude_find_empty]
    simp
  exact ⟨hg, Globals.resolveType_accepts_grammar hg _⟩


end TypedJit
