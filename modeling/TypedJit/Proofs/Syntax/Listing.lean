import Mathlib.Data.List.Forall2
import TypedJit.Syntax.Lines

/-!
Where numbering puts things: the listing of a definition.
-/

namespace TypedJit

namespace Span

variable {s p : Span}

@[simp] theorem orElse_of_isKnown (h : s.isKnown = true) : s.orElse p = s := by
  simp [orElse, h]

@[simp] theorem orElse_of_not_isKnown (h : s.isKnown = false) : s.orElse p = p := by
  simp [orElse, h]

@[simp] theorem orElse_self (p : Span) : p.orElse p = p := by
  simp [orElse]

theorem orElse_orElse_self (s p : Span) : (s.orElse p).orElse p = s.orElse p := by
  cases h : s.isKnown <;> simp [h]

/-- The first known span of a chain of enclosing nodes, nearest first, else `p`. -/
def nearest (p : Span) (chain : List Span) : Span := (chain.find? Span.isKnown).getD p

@[simp] theorem nearest_nil (p : Span) : nearest p [] = p := rfl

@[simp] theorem nearest_cons (p s : Span) (chain : List Span) :
    nearest p (s :: chain) = s.orElse (nearest p chain) := by
  cases h : s.isKnown <;> simp [nearest, h]

end Span

/-- The span of a mark, whatever it marks. -/
def Mark.span : Mark → Span
  | .node s | .keyword s | .target s => s

/-- Where a mark ends up in a statement standing at `sp`, given the spans of its enclosing nodes:
a node or keyword at the nearest known span among itself and those, else at `sp`; a loop target
without a known span four columns right of its statement. -/
def Mark.resolve (sp : Span) : Mark × List Span → Mark
  | (.node s, anc) => .node (Span.nearest sp (s :: anc))
  | (.keyword s, anc) => .keyword (Span.nearest sp (s :: anc))
  | (.target s, _) => .target (s.orElse ⟨sp.line, sp.col + 4⟩)

mutual

/-- Every node of an expression in pre-order with the spans of its enclosing nodes, nearest
first, `anc` being those of the expression itself. -/
def Expr.lineage (anc : List Span) : Expr → List (Mark × List Span)
  | .const _ s | .name _ s | .unsupported _ s => [(.node s, anc)]
  | .binary _ l r s | .compare _ l r s | .logic _ l r s =>
    (.node s, anc) :: (l.lineage (s :: anc) ++ r.lineage (s :: anc))
  | .unary _ e s => (.node s, anc) :: e.lineage (s :: anc)
  | .call f args kws s =>
    (.node s, anc) :: (f.lineage (s :: anc) ++ Expr.lineageList (s :: anc) args ++
      Keyword.lineageList (s :: anc) kws)
  | .index v i s => (.node s, anc) :: (v.lineage (s :: anc) ++ i.lineage (s :: anc))
  | .slice v lo hi s =>
    (.node s, anc) :: (v.lineage (s :: anc) ++ Expr.lineageOption (s :: anc) lo ++
      Expr.lineageOption (s :: anc) hi)

def Expr.lineageList (anc : List Span) : List Expr → List (Mark × List Span)
  | [] => []
  | e :: es => e.lineage anc ++ Expr.lineageList anc es

def Expr.lineageOption (anc : List Span) : Option Expr → List (Mark × List Span)
  | none => []
  | some e => e.lineage anc

def Keyword.lineageList (anc : List Span) : List Keyword → List (Mark × List Span)
  | [] => []
  | .mk _ v s :: rest => (.keyword s, anc) :: (v.lineage anc ++ Keyword.lineageList anc rest)

end

/-- The lineage of a statement's own expressions, in the order of `Stmt.marks`; its loop target
has no enclosing node. -/
def Stmt.lineage : Stmt → List (Mark × List Span)
  | .assign t v _ | .augAssign t _ v _ => t.lineage [] ++ v.lineage []
  | .eval e _ | .branch e _ _ _ | .whileLoop e _ _ | .ret (some e) _ => e.lineage []
  | .forLoop _ ts iter _ _ => (.target ts, []) :: iter.lineage []
  | .ret none _ | .pass _ | .unsupported _ _ => []

mutual

/-- The lineage lists the marks of an expression, each with its enclosing spans. -/
theorem Expr.lineage_fst (anc : List Span) : ∀ e : Expr, (e.lineage anc).map Prod.fst = e.marks
  | .const _ _ | .name _ _ | .unsupported _ _ => rfl
  | .binary _ l r s | .compare _ l r s | .logic _ l r s => by
    simp [Expr.lineage, Expr.marks, Expr.lineage_fst (s :: anc) l, Expr.lineage_fst (s :: anc) r]
  | .unary _ e s => by simp [Expr.lineage, Expr.marks, Expr.lineage_fst (s :: anc) e]
  | .call f args kws s => by
    simp [Expr.lineage, Expr.marks, Expr.lineage_fst (s :: anc) f,
      Expr.lineageList_fst (s :: anc) args, Keyword.lineageList_fst (s :: anc) kws]
  | .index v i s => by
    simp [Expr.lineage, Expr.marks, Expr.lineage_fst (s :: anc) v, Expr.lineage_fst (s :: anc) i]
  | .slice v lo hi s => by
    simp [Expr.lineage, Expr.marks, Expr.lineage_fst (s :: anc) v,
      Expr.lineageOption_fst (s :: anc) lo, Expr.lineageOption_fst (s :: anc) hi]

theorem Expr.lineageList_fst (anc : List Span) : ∀ es : List Expr,
    (Expr.lineageList anc es).map Prod.fst = Expr.marksList es
  | [] => rfl
  | e :: es => by
    simp [Expr.lineageList, Expr.marksList, Expr.lineage_fst anc e, Expr.lineageList_fst anc es]

theorem Expr.lineageOption_fst (anc : List Span) : ∀ o : Option Expr,
    (Expr.lineageOption anc o).map Prod.fst = Expr.marksOption o
  | none => rfl
  | some e => Expr.lineage_fst anc e

theorem Keyword.lineageList_fst (anc : List Span) : ∀ ks : List Keyword,
    (Keyword.lineageList anc ks).map Prod.fst = Keyword.marksList ks
  | [] => rfl
  | .mk _ v _ :: rest => by
    simp [Keyword.lineageList, Keyword.marksList, Expr.lineage_fst anc v,
      Keyword.lineageList_fst anc rest]

end

theorem Stmt.lineage_fst (s : Stmt) : s.lineage.map Prod.fst = s.marks := by
  cases s with
  | ret value _ => cases value <;> simp [Stmt.lineage, Stmt.marks, Expr.lineage_fst]
  | _ => simp [Stmt.lineage, Stmt.marks, Expr.lineage_fst]

/-- A mark with a known span resolves to itself. -/
theorem Mark.resolve_of_isKnown {m : Mark} (h : m.span.isKnown = true) (sp : Span)
    (anc : List Span) : Mark.resolve sp (m, anc) = m := by
  cases m <;> simp_all [Mark.resolve, Mark.span]

section Fill

variable (p : Span)

mutual

/-- Filling from the nearest known span of the enclosing nodes puts every node at the nearest
known span among itself and its enclosing nodes. -/
theorem Expr.marks_fill (anc : List Span) : ∀ e : Expr,
    (e.fill (Span.nearest p anc)).marks = (e.lineage anc).map (Mark.resolve p)
  | .const _ s | .name _ s | .unsupported _ s => by
    simp [Expr.fill, Expr.marks, Expr.lineage, Mark.resolve]
  | .binary _ l r s | .compare _ l r s | .logic _ l r s => by
    have hl := Expr.marks_fill (s :: anc) l
    have hr := Expr.marks_fill (s :: anc) r
    simp only [Span.nearest_cons] at hl hr
    simp [Expr.fill, Expr.marks, Expr.lineage, Mark.resolve, hl, hr]
  | .unary _ e s => by
    have he := Expr.marks_fill (s :: anc) e
    simp only [Span.nearest_cons] at he
    simp [Expr.fill, Expr.marks, Expr.lineage, Mark.resolve, he]
  | .call f args kws s => by
    have hf := Expr.marks_fill (s :: anc) f
    have ha := Expr.marksList_fillList (s :: anc) args
    have hk := Keyword.marksList_fillList (s :: anc) kws
    simp only [Span.nearest_cons] at hf ha hk
    simp [Expr.fill, Expr.marks, Expr.lineage, Mark.resolve, hf, ha, hk]
  | .index v i s => by
    have hv := Expr.marks_fill (s :: anc) v
    have hi := Expr.marks_fill (s :: anc) i
    simp only [Span.nearest_cons] at hv hi
    simp [Expr.fill, Expr.marks, Expr.lineage, Mark.resolve, hv, hi]
  | .slice v lo hi s => by
    have hv := Expr.marks_fill (s :: anc) v
    have hlo := Expr.marksOption_fillOption (s :: anc) lo
    have hhi := Expr.marksOption_fillOption (s :: anc) hi
    simp only [Span.nearest_cons] at hv hlo hhi
    simp [Expr.fill, Expr.marks, Expr.lineage, Mark.resolve, hv, hlo, hhi]

theorem Expr.marksList_fillList (anc : List Span) : ∀ es : List Expr,
    Expr.marksList (Expr.fillList (Span.nearest p anc) es) =
      (Expr.lineageList anc es).map (Mark.resolve p)
  | [] => by simp [Expr.fillList, Expr.marksList, Expr.lineageList]
  | e :: es => by
    simp [Expr.fillList, Expr.marksList, Expr.lineageList, Expr.marks_fill anc e,
      Expr.marksList_fillList anc es]

theorem Expr.marksOption_fillOption (anc : List Span) : ∀ o : Option Expr,
    Expr.marksOption (Expr.fillOption (Span.nearest p anc) o) =
      (Expr.lineageOption anc o).map (Mark.resolve p)
  | none => by simp [Expr.fillOption, Expr.marksOption, Expr.lineageOption]
  | some e => by simp [Expr.fillOption, Expr.marksOption, Expr.lineageOption, Expr.marks_fill anc e]

theorem Keyword.marksList_fillList (anc : List Span) : ∀ ks : List Keyword,
    Keyword.marksList (Keyword.fillList (Span.nearest p anc) ks) =
      (Keyword.lineageList anc ks).map (Mark.resolve p)
  | [] => by simp [Keyword.fillList, Keyword.marksList, Keyword.lineageList]
  | .mk _ v s :: rest => by
    simp [Keyword.fillList, Keyword.marksList, Keyword.lineageList, Mark.resolve,
      Expr.marks_fill anc v, Keyword.marksList_fillList anc rest]

end

/-- A statement's own expressions, filled from its span `sp`. -/
theorem Expr.marks_fill_self (e : Expr) : (e.fill p).marks = (e.lineage []).map (Mark.resolve p) :=
  Expr.marks_fill p [] e

end Fill

/-- A line of a definition's listing below its `def` line. -/
inductive Row where
  /-- A statement at its nesting depth, the statements of a block one deeper than its head. -/
  | stmt (s : Stmt) (depth : Nat)
  /-- The `else:` line before a non-empty else-list. -/
  | orelse

mutual

/-- The rows of a statement at depth `d`: its own, then those of its nested blocks. -/
def Stmt.rows (d : Nat) : Stmt → List Row
  | .branch test body orelse sp =>
    .stmt (.branch test body orelse sp) d :: (Stmt.rowsList (d + 1) body ++
      match orelse with
      | [] => []
      | _ :: _ => .orelse :: Stmt.rowsList (d + 1) orelse)
  | .forLoop t ts iter body sp =>
    .stmt (.forLoop t ts iter body sp) d :: Stmt.rowsList (d + 1) body
  | .whileLoop test body sp => .stmt (.whileLoop test body sp) d :: Stmt.rowsList (d + 1) body
  | s => [.stmt s d]

def Stmt.rowsList (d : Nat) : List Stmt → List Row
  | [] => []
  | s :: rest => s.rows d ++ Stmt.rowsList d rest

end

/-- The rows of a definition's listing below its `def` line, row `k` being line `k + 2`. -/
def FunctionDef.listing (f : FunctionDef) : List Row := Stmt.rowsList 1 f.body

/-- Row `r'` of a numbered listing against row `r` of the original, both at `line`: the same
kind of row at the same depth, the statement at its known span or else at `line` and column four
times its depth, and its expressions resolved against the span it stands at. -/
def Row.Numbered (line : Nat) : Row → Row → Prop
  | .stmt s d, .stmt s' d' =>
    d' = d ∧ s'.span = s.span.orElse ⟨UInt32.ofNat line, UInt32.ofNat (4 * d)⟩ ∧
      s'.marks = s.lineage.map (Mark.resolve s'.span)
  | .orelse, .orelse => True
  | _, _ => False

/-- Listing `rs'` numbers `rs` row by row, the first row standing at `line`. -/
def Row.ListedFrom : Nat → List Row → List Row → Prop
  | _, [], [] => True
  | line, r :: rs, r' :: rs' => r.Numbered line r' ∧ Row.ListedFrom (line + 1) rs rs'
  | _, _, _ => False

namespace Row

@[simp] theorem listedFrom_nil (line : Nat) : ListedFrom line [] [] := trivial

@[simp] theorem listedFrom_cons {line : Nat} {r r' : Row} {rs rs' : List Row} :
    ListedFrom line (r :: rs) (r' :: rs') ↔ r.Numbered line r' ∧ ListedFrom (line + 1) rs rs' :=
  Iff.rfl

theorem ListedFrom.length_eq : ∀ {line : Nat} {rs rs' : List Row},
    ListedFrom line rs rs' → rs'.length = rs.length
  | _, [], [], _ => rfl
  | _, _ :: _, _ :: _, h => by simp [h.2.length_eq]

theorem ListedFrom.append {a a' b b' : List Row} {line line' : Nat} :
    ListedFrom line a a' → ListedFrom line' b b' → line' = line + a.length →
      ListedFrom line (a ++ b) (a' ++ b') := by
  induction a generalizing a' line with
  | nil =>
    intro ha hb h
    cases a' with
    | nil => simpa [h] using hb
    | cons => exact ha.elim
  | cons r rs ih =>
    intro ha hb h
    cases a' with
    | nil => exact ha.elim
    | cons r' rs' => exact ⟨ha.1, ih ha.2 hb (by simp [h]; omega)⟩

end Row

theorem uint32_ofNat_succ (n : Nat) : UInt32.ofNat n + 1 = UInt32.ofNat (n + 1) := by
  simp

theorem Stmt.numberList_cons (d : Nat) (line : UInt32) (s : Stmt) (rest : List Stmt) :
    Stmt.numberList d line (s :: rest) =
      ((s.number d line).1 :: (Stmt.numberList d (s.number d line).2 rest).1,
        (Stmt.numberList d (s.number d line).2 rest).2) := rfl

theorem Stmt.length_numberList (d : Nat) (line : UInt32) (ss : List Stmt) :
    (Stmt.numberList d line ss).1.length = ss.length := by
  induction ss generalizing line with
  | nil => rfl
  | cons s rest ih => simp [Stmt.numberList_cons, ih]

section Numbering

mutual

/-- Numbering a statement after line `n` puts its rows at the lines that follow and leaves the
count at its last row. -/
theorem Stmt.number_listed (d n : Nat) : ∀ s : Stmt,
    (s.number d (UInt32.ofNat n)).2 = UInt32.ofNat (n + (s.rows d).length) ∧
      Row.ListedFrom (n + 1) (s.rows d) ((s.number d (UInt32.ofNat n)).1.rows d)
  | .assign _ _ _ | .augAssign _ _ _ _ | .eval _ _ | .ret none _ | .ret (some _) _ | .pass _
  | .unsupported _ _ => by
    simp [Stmt.number, Stmt.rows, Row.Numbered, Stmt.span, Stmt.marks, Stmt.lineage,
      Expr.marks_fill_self]
  | .forLoop t ts iter body s => by
    obtain ⟨hl, hb⟩ := Stmt.numberList_listed (d + 1) (n + 1) body
    rcases hnb : Stmt.numberList (d + 1) (UInt32.ofNat (n + 1)) body with ⟨body', l1⟩
    rw [hnb] at hl hb
    simp only [Stmt.number, uint32_ofNat_succ, hnb]
    simp only at hl hb ⊢
    refine ⟨hl.trans (congrArg UInt32.ofNat ?_), ?_⟩
    · simp [Stmt.rows]
      omega
    · simp [Stmt.rows, Row.Numbered, Stmt.span, Stmt.marks, Stmt.lineage,
        Expr.marks_fill_self, Mark.resolve, hb]
  | .whileLoop test body s => by
    obtain ⟨hl, hb⟩ := Stmt.numberList_listed (d + 1) (n + 1) body
    rcases hnb : Stmt.numberList (d + 1) (UInt32.ofNat (n + 1)) body with ⟨body', l1⟩
    rw [hnb] at hl hb
    simp only [Stmt.number, uint32_ofNat_succ, hnb]
    simp only at hl hb ⊢
    refine ⟨hl.trans (congrArg UInt32.ofNat ?_), ?_⟩
    · simp [Stmt.rows]
      omega
    · simp [Stmt.rows, Row.Numbered, Stmt.span, Stmt.marks, Stmt.lineage,
        Expr.marks_fill_self, hb]
  | .branch test body [] s => by
    obtain ⟨hl, hb⟩ := Stmt.numberList_listed (d + 1) (n + 1) body
    rcases hnb : Stmt.numberList (d + 1) (UInt32.ofNat (n + 1)) body with ⟨body', l1⟩
    rw [hnb] at hl hb
    simp only [Stmt.number, uint32_ofNat_succ, hnb]
    simp only at hl hb ⊢
    refine ⟨hl.trans (congrArg UInt32.ofNat ?_), ?_⟩
    · simp [Stmt.rows]
      omega
    · simp [Stmt.rows, Row.Numbered, Stmt.span, Stmt.marks, Stmt.lineage,
        Expr.marks_fill_self, hb]
  | .branch test body (o :: os) s => by
    obtain ⟨hl, hb⟩ := Stmt.numberList_listed (d + 1) (n + 1) body
    obtain ⟨hl', he⟩ := Stmt.numberList_listed (d + 1)
      (n + 1 + (Stmt.rowsList (d + 1) body).length + 1) (o :: os)
    rcases hnb : Stmt.numberList (d + 1) (UInt32.ofNat (n + 1)) body with ⟨body', l1⟩
    rw [hnb] at hl hb
    simp only at hl hb
    subst hl
    rcases hne : Stmt.numberList (d + 1)
      (UInt32.ofNat (n + 1 + (Stmt.rowsList (d + 1) body).length + 1)) (o :: os) with
      ⟨orelse', l2⟩
    have hlen := Stmt.length_numberList (d + 1)
      (UInt32.ofNat (n + 1 + (Stmt.rowsList (d + 1) body).length + 1)) (o :: os)
    rw [hne] at hl' he hlen
    simp only at hl' he hlen
    obtain ⟨o', os', rfl⟩ := List.exists_cons_of_length_eq_add_one hlen
    simp only [Stmt.number, uint32_ofNat_succ, hnb, hne]
    refine ⟨hl'.trans (congrArg UInt32.ofNat ?_), ?_⟩
    · simp [Stmt.rows]
      omega
    · simp only [Stmt.rows, Row.listedFrom_cons]
      refine ⟨by simp [Row.Numbered, Stmt.span, Stmt.marks, Stmt.lineage, Expr.marks_fill_self],
        hb.append ⟨trivial, ?_⟩ rfl⟩
      rwa [show n + 1 + 1 + (Stmt.rowsList (d + 1) body).length + 1 =
        n + 1 + (Stmt.rowsList (d + 1) body).length + 1 + 1 by omega]

theorem Stmt.numberList_listed (d n : Nat) : ∀ ss : List Stmt,
    (Stmt.numberList d (UInt32.ofNat n) ss).2 = UInt32.ofNat (n + (Stmt.rowsList d ss).length) ∧
      Row.ListedFrom (n + 1) (Stmt.rowsList d ss)
        (Stmt.rowsList d (Stmt.numberList d (UInt32.ofNat n) ss).1)
  | [] => by simp [Stmt.numberList, Stmt.rowsList]
  | s :: rest => by
    obtain ⟨hs, hrows⟩ := Stmt.number_listed d n s
    obtain ⟨hrest, hrows'⟩ := Stmt.numberList_listed d (n + (s.rows d).length) rest
    rw [Stmt.numberList_cons, hs, hrest]
    refine ⟨by simp [Stmt.rowsList, Nat.add_assoc], ?_⟩
    exact hrows.append hrows' (by omega)

end

end Numbering

section Idempotent

mutual

theorem Expr.fill_fill (p : Span) : ∀ e : Expr, (e.fill p).fill p = e.fill p
  | .const _ _ | .name _ _ | .unsupported _ _ => by simp [Expr.fill, Span.orElse_orElse_self]
  | .binary _ l r s | .compare _ l r s | .logic _ l r s => by
    simp [Expr.fill, Span.orElse_orElse_self, Expr.fill_fill (s.orElse p) l,
      Expr.fill_fill (s.orElse p) r]
  | .unary _ e s => by simp [Expr.fill, Span.orElse_orElse_self, Expr.fill_fill (s.orElse p) e]
  | .call f args kws s => by
    simp [Expr.fill, Span.orElse_orElse_self, Expr.fill_fill (s.orElse p) f,
      Expr.fillList_fillList (s.orElse p) args, Keyword.fillList_fillList (s.orElse p) kws]
  | .index v i s => by
    simp [Expr.fill, Span.orElse_orElse_self, Expr.fill_fill (s.orElse p) v,
      Expr.fill_fill (s.orElse p) i]
  | .slice v lo hi s => by
    simp [Expr.fill, Span.orElse_orElse_self, Expr.fill_fill (s.orElse p) v,
      Expr.fillOption_fillOption (s.orElse p) lo, Expr.fillOption_fillOption (s.orElse p) hi]

theorem Expr.fillList_fillList (p : Span) : ∀ es : List Expr,
    Expr.fillList p (Expr.fillList p es) = Expr.fillList p es
  | [] => rfl
  | e :: es => by simp [Expr.fillList, Expr.fill_fill p e, Expr.fillList_fillList p es]

theorem Expr.fillOption_fillOption (p : Span) : ∀ o : Option Expr,
    Expr.fillOption p (Expr.fillOption p o) = Expr.fillOption p o
  | none => rfl
  | some e => by simp [Expr.fillOption, Expr.fill_fill p e]

theorem Keyword.fillList_fillList (p : Span) : ∀ ks : List Keyword,
    Keyword.fillList p (Keyword.fillList p ks) = Keyword.fillList p ks
  | [] => rfl
  | .mk _ v _ :: rest => by
    simp [Keyword.fillList, Span.orElse_orElse_self, Expr.fill_fill p v,
      Keyword.fillList_fillList p rest]

end

mutual

theorem Stmt.number_number (d : Nat) (line : UInt32) : ∀ s : Stmt,
    (s.number d line).1.number d line = s.number d line
  | .assign _ _ _ | .augAssign _ _ _ _ | .eval _ _ | .ret none _ | .ret (some _) _ | .pass _
  | .unsupported _ _ => by
    simp [Stmt.number, Span.orElse_orElse_self, Expr.fill_fill]
  | .forLoop t ts iter body s => by
    have ih := Stmt.numberList_numberList (d + 1) (line + 1) body
    rcases hb : Stmt.numberList (d + 1) (line + 1) body with ⟨body', l1⟩
    rw [hb] at ih
    simp [Stmt.number, hb, ih, Span.orElse_orElse_self, Expr.fill_fill]
  | .whileLoop test body s => by
    have ih := Stmt.numberList_numberList (d + 1) (line + 1) body
    rcases hb : Stmt.numberList (d + 1) (line + 1) body with ⟨body', l1⟩
    rw [hb] at ih
    simp [Stmt.number, hb, ih, Span.orElse_orElse_self, Expr.fill_fill]
  | .branch test body [] s => by
    have ih := Stmt.numberList_numberList (d + 1) (line + 1) body
    rcases hb : Stmt.numberList (d + 1) (line + 1) body with ⟨body', l1⟩
    rw [hb] at ih
    simp [Stmt.number, hb, ih, Span.orElse_orElse_self, Expr.fill_fill]
  | .branch test body (o :: os) s => by
    have ih := Stmt.numberList_numberList (d + 1) (line + 1) body
    rcases hb : Stmt.numberList (d + 1) (line + 1) body with ⟨body', l1⟩
    rw [hb] at ih
    have ih' := Stmt.numberList_numberList (d + 1) (l1 + 1) (o :: os)
    have hlen := Stmt.length_numberList (d + 1) (l1 + 1) (o :: os)
    rcases he : Stmt.numberList (d + 1) (l1 + 1) (o :: os) with ⟨orelse', l2⟩
    rw [he] at ih' hlen
    simp only at hlen
    obtain ⟨o', os', rfl⟩ := List.exists_cons_of_length_eq_add_one hlen
    simp [Stmt.number, hb, ih, he, ih', Span.orElse_orElse_self, Expr.fill_fill]

theorem Stmt.numberList_numberList (d : Nat) (line : UInt32) : ∀ ss : List Stmt,
    Stmt.numberList d line (Stmt.numberList d line ss).1 = Stmt.numberList d line ss
  | [] => rfl
  | s :: rest => by
    rw [Stmt.numberList_cons, Stmt.numberList_cons, Stmt.number_number d line s,
      Stmt.numberList_numberList d (s.number d line).2 rest]

end

/-- Numbering a numbered definition changes nothing. -/
theorem FunctionDef.numberLines_numberLines (f : FunctionDef) :
    f.numberLines.numberLines = f.numberLines := by
  simp [FunctionDef.numberLines, Stmt.numberList_numberList]

end Idempotent

section Known

/-- Row `r'` keeps every known span of row `r`: the statement's and its own expressions'. -/
def Row.KeepsKnown : Row → Row → Prop
  | .stmt s _, .stmt s' _ =>
    (s.span.isKnown = true → s'.span = s.span) ∧
      List.Forall₂ (fun m m' => m.span.isKnown = true → m' = m) s.marks s'.marks
  | .orelse, .orelse => True
  | _, _ => False

theorem Row.Numbered.keepsKnown {line : Nat} :
    ∀ {r r' : Row}, r.Numbered line r' → r.KeepsKnown r'
  | .stmt s _, .stmt s' _, ⟨_, hspan, hmarks⟩ => by
    refine ⟨fun h => by rw [hspan, Span.orElse_of_isKnown h], ?_⟩
    rw [hmarks, ← Stmt.lineage_fst, List.forall₂_map_left_iff, List.forall₂_map_right_iff]
    exact List.forall₂_same.2 fun x _ h => Mark.resolve_of_isKnown h _ _
  | .orelse, .orelse, _ => trivial
  | .stmt _ _, .orelse, h => h.elim
  | .orelse, .stmt _ _, h => h.elim

theorem Row.ListedFrom.keepsKnown :
    ∀ {line : Nat} {rs rs' : List Row},
      ListedFrom line rs rs' → List.Forall₂ KeepsKnown rs rs'
  | _, [], [], _ => .nil
  | _, _ :: _, _ :: _, h => .cons h.1.keepsKnown h.2.keepsKnown
  | _, [], _ :: _, h => h.elim
  | _, _ :: _, [], h => h.elim

end Known

section Depth

/-- The depth of a row; an `else:` line counts as depth 0. -/
def Row.depth : Row → Nat
  | .stmt _ d => d
  | .orelse => 0

/-- No row of `rs` is deeper than `d` plus its index. -/
def Row.Shallow (d : Nat) (rs : List Row) : Prop := ∀ k r, rs[k]? = some r → r.depth ≤ d + k

namespace Row

theorem shallow_nil (d : Nat) : Shallow d [] := by
  simp [Shallow]

theorem shallow_cons {d : Nat} {r : Row} {rs : List Row} (hr : r.depth ≤ d)
    (hrs : Shallow (d + 1) rs) : Shallow d (r :: rs) := by
  rintro (_ | k) r' h
  · simp only [List.getElem?_cons_zero, Option.some.injEq] at h
    subst h
    omega
  · have := hrs k r' (by simpa using h)
    omega

theorem Shallow.mono {d e : Nat} {rs : List Row} (h : Shallow d rs) (hde : d ≤ e) :
    Shallow e rs :=
  fun k r hk => Nat.le_trans (h k r hk) (by omega)

theorem Shallow.append {d e : Nat} {a b : List Row} (ha : Shallow d a) (hb : Shallow e b)
    (he : e ≤ d + a.length) : Shallow d (a ++ b) := by
  intro k r hk
  rcases Nat.lt_or_ge k a.length with hlt | hge
  · rw [List.getElem?_append_left hlt] at hk
    exact ha k r hk
  · rw [List.getElem?_append_right hge] at hk
    have := hb (k - a.length) r hk
    omega

end Row

mutual

/-- A statement's rows go at most one level deeper per row. -/
theorem Stmt.rows_shallow (d : Nat) : ∀ s : Stmt, Row.Shallow d (s.rows d)
  | .assign _ _ _ | .augAssign _ _ _ _ | .eval _ _ | .ret _ _ | .pass _ | .unsupported _ _ =>
    Row.shallow_cons (by simp [Row.depth]) (Row.shallow_nil _)
  | .forLoop _ _ _ body _ | .whileLoop _ body _ =>
    Row.shallow_cons (by simp [Row.depth]) (Stmt.rowsList_shallow (d + 1) body)
  | .branch _ body [] _ => by
    simpa [Stmt.rows] using
      Row.shallow_cons (by simp [Row.depth]) (Stmt.rowsList_shallow (d + 1) body)
  | .branch _ body (o :: os) _ => by
    have helse : Row.Shallow (d + 1 + (Stmt.rowsList (d + 1) body).length)
        (.orelse :: Stmt.rowsList (d + 1) (o :: os)) :=
      Row.shallow_cons (by simp [Row.depth])
        ((Stmt.rowsList_shallow (d + 1) (o :: os)).mono (by omega))
    exact Row.shallow_cons (by simp [Row.depth])
      ((Stmt.rowsList_shallow (d + 1) body).append helse (Nat.le_refl _))

theorem Stmt.rowsList_shallow (d : Nat) : ∀ ss : List Stmt, Row.Shallow d (Stmt.rowsList d ss)
  | [] => Row.shallow_nil d
  | s :: rest =>
    (Stmt.rows_shallow d s).append (Stmt.rowsList_shallow d rest) (by omega)

end

end Depth

section Fits

/-- A `for` statement standing at `sp` leaves room for its target, four columns to the right. -/
def Stmt.targetFits (sp : Span) : Stmt → Prop
  | .forLoop _ _ _ _ _ => sp.col.toNat + 4 < UInt32.size
  | _ => True

theorem Stmt.targetFits_of_col {sp : Span} (h : sp.col.toNat + 4 < UInt32.size) (s : Stmt) :
    s.targetFits sp := by
  cases s <;> simp [Stmt.targetFits, h]

/-- Numbering row `r` at `line` wraps no word: the line fits, a statement's column, four times
its depth, too, and a `for` statement at the span it is given leaves room for its target. -/
def Row.Fits (line : Nat) : Row → Prop
  | .stmt s d => line < UInt32.size ∧ 4 * d < UInt32.size ∧
      s.targetFits (s.span.orElse ⟨UInt32.ofNat line, UInt32.ofNat (4 * d)⟩)
  | .orelse => line < UInt32.size

/-- On a listing of fewer than `2 ^ 30` lines (four times their number fits in a word) whose
explicit `for` columns leave room for their targets, numbering wraps no word: a row's depth is
at most its line, so four times it fits. -/
theorem FunctionDef.listing_fits (f : FunctionDef)
    (hfor : ∀ s d, Row.stmt s d ∈ f.listing → s.span.isKnown = true → s.targetFits s.span)
    (hlen : 4 * (f.listing.length + 1) < UInt32.size) {k : Nat} {r : Row}
    (hk : f.listing[k]? = some r) :
    r.Fits (k + 2) := by
  have hlt : k < f.listing.length := (List.getElem?_eq_some_iff.1 hk).1
  have hdepth : r.depth ≤ 1 + k := Stmt.rowsList_shallow 1 f.body k r hk
  have hsize : UInt32.size = 4294967296 := rfl
  cases r with
  | orelse =>
    simp only [Row.Fits]
    omega
  | stmt s d =>
    simp only [Row.depth] at hdepth
    have hd : 4 * d < UInt32.size := by omega
    refine ⟨by omega, hd, ?_⟩
    cases hs : s.span.isKnown
    · rw [Span.orElse_of_not_isKnown hs]
      apply Stmt.targetFits_of_col
      simp only [UInt32.toNat_ofNat_of_lt' hd]
      omega
    · rw [Span.orElse_of_isKnown hs]
      exact hfor s d (List.mem_of_getElem? hk) hs

end Fits

/-- What numbering does to definition `f`, read off its listing, `g` being `f` numbered. -/
structure NumberedListing (f g : FunctionDef) : Prop where
  /-- Row by row from line 2, below the `def`: the same rows; each statement at its known span,
  else at its row's line and four times its depth; each expression at the nearest known span
  among itself and its enclosing nodes, else at its statement's; a loop target without a known
  span four columns right of its statement. -/
  listed : Row.ListedFrom 2 f.listing g.listing
  /-- No known span changes. -/
  keeps : List.Forall₂ Row.KeepsKnown f.listing g.listing
  /-- Numbering again changes nothing. -/
  idem : g.numberLines = g
  /-- If every explicit `for` column leaves room for its target and the listing has fewer than
  `2 ^ 30` lines, four times their number fitting in a word, no word of the numbering wraps. -/
  fits : (∀ s d, Row.stmt s d ∈ f.listing → s.span.isKnown = true → s.targetFits s.span) →
    4 * (f.listing.length + 1) < UInt32.size →
      ∀ k (r : Row), f.listing[k]? = some r → r.Fits (k + 2)

/-- Numbering a definition whose `def` is line 1 gives it the positions of its listing. -/
theorem numberLines_listing (f : FunctionDef) (hf : f.span.line = 1) :
    NumberedListing f f.numberLines := by
  have hstart : max f.span.line 1 = UInt32.ofNat 1 := by rw [hf]; rfl
  have hlisted := (Stmt.numberList_listed 1 1 f.body).2
  rw [← hstart] at hlisted
  have listed : Row.ListedFrom 2 f.listing f.numberLines.listing := hlisted
  exact ⟨listed, listed.keepsKnown, f.numberLines_numberLines,
    fun hfor hlen _ _ hk => f.listing_fits hfor hlen hk⟩

theorem numberLines_listing_branch :
    (⟨"f", [], [.branch (.name "n" .unknown) [.pass .unknown] [.ret none .unknown] .unknown],
      ⟨1, 0⟩, none⟩ : FunctionDef).span.line = 1 ∧
    NumberedListing
      ⟨"f", [], [.branch (.name "n" .unknown) [.pass .unknown] [.ret none .unknown] .unknown],
        ⟨1, 0⟩, none⟩
      (FunctionDef.numberLines
        ⟨"f", [], [.branch (.name "n" .unknown) [.pass .unknown] [.ret none .unknown] .unknown],
          ⟨1, 0⟩, none⟩) :=
  ⟨rfl, numberLines_listing _ rfl⟩

/-- The `else:` line takes line 5, so the else-list starts on line 6. -/
example :
    ((FunctionDef.build "f" ["n"]
      [.assign (.name "x" .unknown) (.const (.int 0) .unknown) .unknown,
        .branch (.compare .lt (.name "n" .unknown) (.const (.int 1) .unknown) .unknown)
          [.ret (some (.const (.int 1) .unknown)) .unknown]
          [.ret (some (.name "x" .unknown)) .unknown] .unknown]).body.map
      fun s => (s.span, s.blocks.map (List.map Stmt.span))) =
      [(⟨2, 4⟩, []), (⟨3, 4⟩, [[⟨4, 8⟩], [⟨6, 8⟩]])] := by
  decide

end TypedJit
