import TypedJit.Syntax.Tree

/-!
Compile errors.
-/

namespace TypedJit

/-- Why a compilation failed, whatever the wrapping. -/
inductive ErrorKind where
  | variableRedeclaration
  | undefinedSymbol
  | missingReturn
  | invalidReturn
  | invalidCast
  | invalidSubscript
  | invalidUseOfConstruct
  | functionDeclaration
  | invalidCall
  | invalidOperation
  | internal
  deriving DecidableEq, Repr, Inhabited

namespace ErrorKind

def all : List ErrorKind :=
  [.variableRedeclaration, .undefinedSymbol, .missingReturn, .invalidReturn, .invalidCast,
   .invalidSubscript, .invalidUseOfConstruct, .functionDeclaration, .invalidCall,
   .invalidOperation, .internal]

def name : ErrorKind → String
  | .variableRedeclaration => "VariableRedeclaration"
  | .undefinedSymbol => "UndefinedSymbol"
  | .missingReturn => "MissingReturn"
  | .invalidReturn => "InvalidReturn"
  | .invalidCast => "InvalidCast"
  | .invalidSubscript => "InvalidSubscript"
  | .invalidUseOfConstruct => "InvalidUseOfConstruct"
  | .functionDeclaration => "FunctionDeclaration"
  | .invalidCall => "InvalidCall"
  | .invalidOperation => "InvalidOperation"
  | .internal => "Internal"

/-- The words that open an error of this kind. -/
def headline : ErrorKind → String
  | .variableRedeclaration => "variable redeclaration"
  | .undefinedSymbol => "undefined symbol"
  | .missingReturn => "missing return"
  | .invalidReturn => "invalid return"
  | .invalidCast => "invalid cast"
  | .invalidSubscript => "invalid subscript"
  | .invalidUseOfConstruct => "invalid use of construct"
  | .functionDeclaration => "function declaration failed"
  | .invalidCall => "invalid call"
  | .invalidOperation => "invalid operation"
  | .internal => "internal error"

def ofName? (s : String) : Option ErrorKind := all.find? (·.name == s)

end ErrorKind

/-- Where a compile error happened, with the source lines around it. -/
structure ErrorContext where
  function : String
  file : Option String
  /-- The absolute line in `file`, when known. -/
  line : Option UInt32
  col : UInt32
  /-- Absolute line number and text of the previous, failing and next line. -/
  excerpt : List (UInt32 × String)
  /-- Index into `excerpt` of the failing line. -/
  current : Option Nat
  deriving DecidableEq, Repr, Inhabited

/-- A line that a line feed ended, without a carriage return before the feed. -/
def dropReturn (l : String) : String :=
  if l.endsWith "\r" then String.ofList (l.toList.dropLast) else l

/-- The lines of a text: split at line feeds, a carriage return right before a feed dropped (a
carriage return ending the text stays), and no empty last line after a final feed. -/
def textLines (text : String) : List String :=
  match (text.splitOn "\n").reverse with
  | [] => []
  | "" :: ended => (ended.map dropReturn).reverse
  | last :: ended => (ended.map dropReturn).reverse ++ [last]

namespace ErrorContext

/-- The context of a failure at `span` inside `def`. -/
def capture (f : FunctionDef) (span : Span) : ErrorContext :=
  let base : ErrorContext :=
    { function := f.name, file := none, line := none, col := span.col, excerpt := [],
      current := none }
  match f.source with
  | none => base
  | some src =>
    let base := { base with file := some src.file }
    if !span.isKnown then base
    else
      let abs := fun (rel : UInt32) => src.firstLine + rel - 1
      let lines := textLines src.text
      let idx := (span.line - 1).toNat
      let first := idx - 1
      let last := min (idx + 1) (lines.length - 1)
      let picked := ((List.range (last + 1 - first)).map (· + first)).filterMap fun i =>
        (lines[i]?).map fun t => (i, t)
      { base with
        line := some (abs span.line)
        excerpt := picked.map fun (i, t) => (abs (UInt32.ofNat i + 1), t)
        current := picked.findIdx? (·.1 == idx) }

def padLeft (s : String) (width : Nat) : String :=
  String.ofList (List.replicate (width - s.length) ' ') ++ s

/-- The context lines that follow an error's first line. -/
def render (c : ErrorContext) : String :=
  let head := s!"  in function `{c.function}`"
  let place := match c.file, c.line with
    | some file, some line => s!" (in {file}:{line}:{c.col + 1})"
    | some file, none => s!" (in {file})"
    | none, _ => ""
  let width := (c.excerpt.map fun (n, _) => (toString n).length).foldl max 0
  let blank := padLeft "" width
  let rows := c.excerpt.zipIdx.map fun ((n, text), i) =>
    let number := padLeft (toString n) width
    let caret :=
      if c.current == some i then s!"\n  {blank} | " ++ String.ofList (List.replicate c.col.toNat '-') ++ "^"
      else ""
    s!"\n  {number} | {text}" ++ caret
  head ++ place ++ String.join rows

end ErrorContext

/-- A compile error: kind, message, the span of the failing node, and the context of the
function it happened in once it has been wrapped. -/
structure CompileError where
  kind : ErrorKind
  message : String
  span : Span
  context : Option ErrorContext := none
  deriving DecidableEq, Repr, Inhabited

namespace CompileError

def redeclaration (name : String) (span : Span) : CompileError :=
  ⟨.variableRedeclaration, s!"`{name}` is already declared", span, none⟩

def undefinedSymbol (name : String) (span : Span) : CompileError :=
  ⟨.undefinedSymbol, s!"`{name}`", span, none⟩

def invalidCast (src dst : String) (span : Span) : CompileError :=
  ⟨.invalidCast, s!"cannot cast {src} to {dst}", span, none⟩

def invalidConstruct (message : String) (span : Span) : CompileError :=
  ⟨.invalidUseOfConstruct, message, span, none⟩

def internal (message : String) (span : Span) : CompileError :=
  ⟨.internal, message, span, none⟩

/-- The error without its function context. -/
def innermost (e : CompileError) : CompileError := { e with context := none }

/-- The first line: the kind's headline and the message. -/
def headlineText (e : CompileError) : String := s!"{e.kind.headline}: {e.message}"

def render (e : CompileError) : String :=
  match e.context with
  | none => e.headlineText
  | some c => e.headlineText ++ "\n" ++ c.render

/-- Give a position to an error raised without one; a wrapped error keeps its own. -/
def atIfUnknown (e : CompileError) (span : Span) : CompileError :=
  if e.context.isSome || e.span.isKnown then e else { e with span }

/-- Wrap with the context of the function `f`; an error is wrapped at most once. -/
def inFunction (e : CompileError) (f : FunctionDef) : CompileError :=
  if e.context.isSome then e else { e with context := some (ErrorContext.capture f e.span) }

end CompileError

end TypedJit
