import TypedJit.Syntax.Tree

/-!
Positions for hand-built trees.
-/

namespace TypedJit

/-- `s` if it is known, else `fallback`. -/
def Span.orElse (s fallback : Span) : Span := if s.isKnown then s else fallback

mutual

/-- Give every expression without a known span the span of its nearest positioned
ancestor, `p` being the span of the enclosing node. -/
def Expr.fill (p : Span) : Expr → Expr
  | .const l s => .const l (s.orElse p)
  | .name n s => .name n (s.orElse p)
  | .binary op l r s => .binary op (l.fill (s.orElse p)) (r.fill (s.orElse p)) (s.orElse p)
  | .unary op e s => .unary op (e.fill (s.orElse p)) (s.orElse p)
  | .compare op l r s => .compare op (l.fill (s.orElse p)) (r.fill (s.orElse p)) (s.orElse p)
  | .logic op l r s => .logic op (l.fill (s.orElse p)) (r.fill (s.orElse p)) (s.orElse p)
  | .call f args kws s =>
    .call (f.fill (s.orElse p)) (Expr.fillList (s.orElse p) args)
      (Keyword.fillList (s.orElse p) kws) (s.orElse p)
  | .index v i s => .index (v.fill (s.orElse p)) (i.fill (s.orElse p)) (s.orElse p)
  | .slice v lo hi s =>
    .slice (v.fill (s.orElse p)) (Expr.fillOption (s.orElse p) lo)
      (Expr.fillOption (s.orElse p) hi) (s.orElse p)
  | .unsupported c s => .unsupported c (s.orElse p)

def Expr.fillList (p : Span) : List Expr → List Expr
  | [] => []
  | e :: es => e.fill p :: Expr.fillList p es

def Expr.fillOption (p : Span) : Option Expr → Option Expr
  | none => none
  | some e => some (e.fill p)

/-- Keywords without a span take the call's; their values are filled from the call's span. -/
def Keyword.fillList (p : Span) : List Keyword → List Keyword
  | [] => []
  | .mk n v s :: rest => .mk n (v.fill p) (s.orElse p) :: Keyword.fillList p rest

end

mutual

/-- Number one statement at depth `d`; `line` is the last line used before it. Returns the
statement and the last line it uses. -/
def Stmt.number (d : Nat) (line : UInt32) : Stmt → Stmt × UInt32
  | .assign t v s =>
    let sp := s.orElse ⟨line + 1, UInt32.ofNat (4 * d)⟩
    (.assign (t.fill sp) (v.fill sp) sp, line + 1)
  | .augAssign t op v s =>
    let sp := s.orElse ⟨line + 1, UInt32.ofNat (4 * d)⟩
    (.augAssign (t.fill sp) op (v.fill sp) sp, line + 1)
  | .eval e s =>
    let sp := s.orElse ⟨line + 1, UInt32.ofNat (4 * d)⟩
    (.eval (e.fill sp) sp, line + 1)
  | .branch test body orelse s =>
    let sp := s.orElse ⟨line + 1, UInt32.ofNat (4 * d)⟩
    let (body', l1) := Stmt.numberList (d + 1) (line + 1) body
    match orelse with
    | [] => (.branch (test.fill sp) body' [] sp, l1)
    | o :: os =>
      let (orelse', l2) := Stmt.numberList (d + 1) (l1 + 1) (o :: os)
      (.branch (test.fill sp) body' orelse' sp, l2)
  | .forLoop target ts iter body s =>
    let sp := s.orElse ⟨line + 1, UInt32.ofNat (4 * d)⟩
    let (body', l1) := Stmt.numberList (d + 1) (line + 1) body
    (.forLoop target (ts.orElse ⟨sp.line, sp.col + 4⟩) (iter.fill sp) body' sp, l1)
  | .whileLoop test body s =>
    let sp := s.orElse ⟨line + 1, UInt32.ofNat (4 * d)⟩
    let (body', l1) := Stmt.numberList (d + 1) (line + 1) body
    (.whileLoop (test.fill sp) body' sp, l1)
  | .ret none s => (.ret none (s.orElse ⟨line + 1, UInt32.ofNat (4 * d)⟩), line + 1)
  | .ret (some e) s =>
    let sp := s.orElse ⟨line + 1, UInt32.ofNat (4 * d)⟩
    (.ret (some (e.fill sp)) sp, line + 1)
  | .pass s => (.pass (s.orElse ⟨line + 1, UInt32.ofNat (4 * d)⟩), line + 1)
  | .unsupported c s => (.unsupported c (s.orElse ⟨line + 1, UInt32.ofNat (4 * d)⟩), line + 1)

def Stmt.numberList (d : Nat) (line : UInt32) : List Stmt → List Stmt × UInt32
  | [] => ([], line)
  | s :: rest =>
    let (s', l1) := s.number d line
    let (rest', l2) := Stmt.numberList d l1 rest
    (s' :: rest', l2)

end

/-- Number the statements of a definition, starting below its `def` line. -/
def FunctionDef.numberLines (f : FunctionDef) : FunctionDef :=
  { f with body := (Stmt.numberList 1 (max f.span.line 1) f.body).1 }

/-- A definition as a front end would hand it over: parameters on the `def` line and every
node numbered. -/
def FunctionDef.build (name : String) (params : List String) (body : List Stmt) : FunctionDef :=
  FunctionDef.numberLines
    { name, params := params.map fun p => ⟨p, ⟨1, 0⟩⟩, body }

/-- A position met when walking a statement's expressions in pre-order: an expression's span, a
keyword's span just before its value, or a loop target's span. -/
inductive Mark where
  | node (span : Span)
  | keyword (span : Span)
  | target (span : Span)
  deriving DecidableEq, Repr

mutual

/-- The spans of an expression and its parts in pre-order. -/
def Expr.marks : Expr → List Mark
  | .const _ s | .name _ s | .unsupported _ s => [.node s]
  | .binary _ l r s | .compare _ l r s | .logic _ l r s => .node s :: (l.marks ++ r.marks)
  | .unary _ e s => .node s :: e.marks
  | .call f args kws s => .node s :: (f.marks ++ Expr.marksList args ++ Keyword.marksList kws)
  | .index v i s => .node s :: (v.marks ++ i.marks)
  | .slice v lo hi s => .node s :: (v.marks ++ Expr.marksOption lo ++ Expr.marksOption hi)

def Expr.marksList : List Expr → List Mark
  | [] => []
  | e :: es => e.marks ++ Expr.marksList es

def Expr.marksOption : Option Expr → List Mark
  | none => []
  | some e => e.marks

def Keyword.marksList : List Keyword → List Mark
  | [] => []
  | .mk _ v s :: rest => .keyword s :: (v.marks ++ Keyword.marksList rest)

end

/-- The positions of a statement's own expressions, its nested blocks excluded. -/
def Stmt.marks : Stmt → List Mark
  | .assign t v _ | .augAssign t _ v _ => t.marks ++ v.marks
  | .eval e _ | .branch e _ _ _ | .whileLoop e _ _ | .ret (some e) _ => e.marks
  | .forLoop _ ts iter _ _ => .target ts :: iter.marks
  | .ret none _ | .pass _ | .unsupported _ _ => []

/-- The statement lists nested in a statement: then and else of a branch, a loop's body. -/
def Stmt.blocks : Stmt → List (List Stmt)
  | .branch _ body orelse _ => [body, orelse]
  | .forLoop _ _ _ body _ | .whileLoop _ body _ => [body]
  | _ => []

end TypedJit
