import TypedJit.Ieee.Decimal

/-!
JSON text as the host writes it, read into values.
-/

namespace TypedJit

/-- A number as read: an unsigned word, a negative word, or a double given by its bits. -/
inductive JsonNum where
  | pos (n : Nat)
  | neg (n : Int)
  | real (bits : UInt64)
  deriving DecidableEq, Repr, Inhabited

/-- A JSON value as read. -/
inductive JsonValue where
  | null
  | bool (b : Bool)
  | num (n : JsonNum)
  | str (s : String)
  | arr (xs : List JsonValue)
  | obj (kvs : List (String × JsonValue))
  deriving Repr, Inhabited

/-! ## Writing values back -/

def JsonNum.text : JsonNum → String
  | .pos n => toString n
  | .neg n => toString n
  | .real w => Ieee.binary64.shortText w.toNat

/-- A string's JSON escapes: the quote, the backslash and the control characters. -/
def jsonEscape (s : String) : String :=
  let hex := "0123456789abcdef".toList
  let one (c : Char) : String :=
    match c with
    | '"' => "\\\""
    | '\\' => "\\\\"
    | '\n' => "\\n"
    | '\r' => "\\r"
    | '\t' => "\\t"
    | '\x08' => "\\b"
    | '\x0c' => "\\f"
    | c =>
      if c.toNat < 0x20 then
        "\\u00" ++ String.ofList [hex.getD (c.toNat / 16) '0', hex.getD (c.toNat % 16) '0']
      else c.toString
  String.join (s.toList.map one)

def jsonQuote (s : String) : String := "\"" ++ jsonEscape s ++ "\""

mutual

/-- The compact JSON text of a value. -/
def JsonValue.text : JsonValue → String
  | .null => "null"
  | .bool b => toString b
  | .num n => n.text
  | .str s => jsonQuote s
  | .arr xs => "[" ++ JsonValue.itemsText xs ++ "]"
  | .obj kvs => "\x7b" ++ JsonValue.membersText kvs ++ "\x7d"

def JsonValue.itemsText : List JsonValue → String
  | [] => ""
  | [x] => x.text
  | x :: xs => x.text ++ "," ++ JsonValue.itemsText xs

def JsonValue.membersText : List (String × JsonValue) → String
  | [] => ""
  | [(k, v)] => jsonQuote k ++ ":" ++ v.text
  | (k, v) :: kvs => jsonQuote k ++ ":" ++ v.text ++ "," ++ JsonValue.membersText kvs

end

/-- Insert a key, keeping the keys sorted; a key already there takes the new value. -/
def insertMember (k : String) (v : JsonValue) : List (String × JsonValue) → List (String × JsonValue)
  | [] => [(k, v)]
  | (k', v') :: rest =>
    if k == k' then (k, v) :: rest
    else if k < k' then (k, v) :: (k', v') :: rest
    else (k', v') :: insertMember k v rest

/-! ## Reading -/

namespace JsonRead

def isDigit (c : UInt8) : Bool := 48 ≤ c && c ≤ 57

def isBlank (c : UInt8) : Bool := c == 32 || c == 10 || c == 9 || c == 13

/-- Whether `a * 10 + d` exceeds `m`. -/
def overflows (m a d : Nat) : Bool := a ≥ m / 10 && (a > m / 10 || d > m % 10)

def wordMax : Nat := Nat.pow 2 64 - 1
def expMax : Nat := Nat.pow 2 31 - 1

/-- Clamp to the range of a signed 32-bit word. -/
def clampExp (n : Int) : Int := max (-Int.pow 2 31) (min (Int.pow 2 31 - 1) n)

/-- The integer of leading digits while it stays at most `m`, and how many digits it took. -/
def accumulate (m : Nat) : Nat → List Nat → Nat × Nat
  | sig, [] => (sig, 0)
  | sig, d :: ds =>
    if overflows m sig d then (sig, 0)
    else
      let (s, k) := accumulate m (10 * sig + d) ds
      (s, k + 1)

def powerOfTen (k : Nat) : Float := Float.ofBits (UInt64.ofNat (Ieee.binary64.ofDecimal false 1 k))

/-- `f` scaled by `10 ^ e`: one multiplication or division, after divisions by `10 ^ 308`
while the exponent is below that; `none` when the product is infinite. -/
def scaleTen (f : Float) (e : Int) : Option Float :=
  if e.natAbs ≤ 308 then
    if e ≥ 0 then
      let g := f * powerOfTen e.natAbs
      if g.isInf then none else some g
    else some (f / powerOfTen e.natAbs)
  else if f == 0 then some f
  else if e ≥ 0 then none
  else scaleTen (f / powerOfTen 308) (e + 308)
termination_by (-e).toNat

section Bytes

variable (b : ByteArray)

/-- A fault at byte `i`, with its line and column. -/
def faultAt (i : Nat) (what : String) : String :=
  let feeds := ((b.extract 0 i).toList.zipIdx.filter (·.1 == 10)).map (·.2)
  let start := match feeds.getLast? with
    | some k => k + 1
    | none => 0
  s!"{what} at line {1 + feeds.length} column {i - start}"

/-- A fault seen at the byte after `i`. -/
def faultNext (i : Nat) (what : String) : String := faultAt b (min b.size (i + 1)) what

def skipBlank (i : Nat) : Nat :=
  if h : i < b.size then
    if isBlank b[i] then skipBlank (i + 1) else i
  else i
termination_by b.size - i

/-- The digits from `i` on, as values. -/
def digitsFrom (i : Nat) : List Nat :=
  if h : i < b.size then
    if isDigit b[i] then (b[i] - 48).toNat :: digitsFrom (i + 1) else []
  else []
termination_by b.size - i

/-- The end of the run of bytes from `i` that a string holds as they are. -/
def plainEnd (i : Nat) : Nat :=
  if h : i < b.size then
    let c := b[i]
    if c == 34 || c == 92 || c < 32 then i else plainEnd (i + 1)
  else i
termination_by b.size - i

/-- The double `±sig * 10 ^ exp` ending at `i`. -/
def real (positive : Bool) (sig : Nat) (exp : Int) (i : Nat) : Except String (JsonNum × Nat) :=
  match scaleTen (UInt64.ofNat sig).toFloat exp with
  | some f => .ok (.real (if positive then f else -f).toBits, i)
  | none => .error (faultAt b i "number out of range")

/-- An exponent: `i` is just after the `e`. -/
def exponent (positive : Bool) (sig : Nat) (start : Int) (i : Nat) : Except String (JsonNum × Nat) :=
  let (up, i) := match b[i]? with
    | some 43 => (true, i + 1)
    | some 45 => (false, i + 1)
    | _ => (true, i)
  match b[i]? with
  | none => .error (faultAt b i "EOF while parsing a value")
  | some c =>
    if !isDigit c then .error (faultAt b (i + 1) "invalid number")
    else
      let ds := digitsFrom b i
      let (e, taken) := accumulate expMax 0 ds
      let after := i + ds.length
      if taken < ds.length then
        if sig != 0 && up then .error (faultAt b (i + taken + 1) "number out of range")
        else .ok (.real (if positive then (0 : Float) else -0.0).toBits, after)
      else real b positive sig (clampExp (if up then start + e else start - e)) after

/-- What follows the digits of a number at `i`: a fraction, an exponent, or nothing. -/
def fraction (positive : Bool) (sig : Nat) (exp : Int) (i : Nat) : Except String (JsonNum × Nat) :=
  let tail (sig : Nat) (exp : Int) (i : Nat) : Except String (JsonNum × Nat) :=
    match b[i]? with
    | some 101 | some 69 => exponent b positive sig exp (i + 1)
    | _ => real b positive sig exp i
  match b[i]? with
  | some 46 =>
    let fs := digitsFrom b (i + 1)
    let (sig', taken) := accumulate wordMax sig fs
    let after := i + 1 + fs.length
    if taken < fs.length then tail sig' (exp - taken) after
    else if fs.isEmpty then
      .error (faultNext b (i + 1) (if b[i + 1]?.isSome then "invalid number" else "EOF while parsing a value"))
    else tail sig' (exp - taken) after
  | some 101 | some 69 => exponent b positive sig exp (i + 1)
  | _ => real b positive sig exp i

/-- A number whose first digit is at `i`. -/
def number (positive : Bool) (i : Nat) : Except String (JsonNum × Nat) :=
  match b[i]? with
  | none => .error (faultAt b i "EOF while parsing a value")
  | some c =>
    if !isDigit c then .error (faultAt b (i + 1) "invalid number")
    else
      let ds := if c == 48 then [0] else digitsFrom b i
      if c == 48 && (b[i + 1]?.map isDigit).getD false then .error (faultNext b (i + 1) "invalid number")
      else
        let (sig, taken) := accumulate wordMax 0 ds
        let after := i + ds.length
        if taken < ds.length then fraction b positive sig (ds.length - taken) after
        else
          match b[after]? with
          | some 46 | some 101 | some 69 => fraction b positive sig 0 after
          | _ =>
            if positive then .ok (.pos sig, after)
            else if sig == 0 || sig > Nat.pow 2 63 then .ok (.real (-(UInt64.ofNat sig).toFloat).toBits, after)
            else .ok (.neg (-(sig : Int)), after)

def hexDigit (c : UInt8) : Option Nat :=
  if 48 ≤ c && c ≤ 57 then some (c - 48).toNat
  else if 97 ≤ c && c ≤ 102 then some (c - 87).toNat
  else if 65 ≤ c && c ≤ 70 then some (c - 55).toNat
  else none

/-- Four hexadecimal digits at `i`. -/
def hex4 (i : Nat) : Except String (Nat × Nat) :=
  if i + 4 > b.size then .error (faultAt b b.size "EOF while parsing a string")
  else
    match [b[i]!, b[i + 1]!, b[i + 2]!, b[i + 3]!].mapM hexDigit with
    | some ds => .ok (ds.foldl (fun n d => 16 * n + d) 0, i + 4)
    | none => .error (faultAt b (i + 4) "invalid escape")

/-- A `\u` escape after its `u`; a leading surrogate must be followed by a trailing one. -/
def unicode (i : Nat) : Except String (Char × Nat) := do
  let (n, i) ← hex4 b i
  if 0xDC00 ≤ n && n ≤ 0xDFFF then throw (faultAt b i "lone leading surrogate in hex escape")
  if n < 0xD800 || n > 0xDBFF then return (Char.ofNat n, i)
  let expect (c : UInt8) (i : Nat) : Except String Nat :=
    match b[i]? with
    | some d => if d == c then .ok (i + 1) else .error (faultAt b (i + 1) "unexpected end of hex escape")
    | none => .error (faultAt b i "EOF while parsing a string")
  let i ← expect 92 i
  let i ← expect 117 i
  let (n2, i) ← hex4 b i
  if n2 < 0xDC00 || n2 > 0xDFFF then throw (faultAt b i "lone leading surrogate in hex escape")
  pure (Char.ofNat ((((n - 0xD800) <<< 10) ||| (n2 - 0xDC00)) + 0x10000), i)

/-- An escape after its backslash. -/
def escape (i : Nat) : Except String (String × Nat) :=
  match b[i]? with
  | none => .error (faultAt b i "EOF while parsing a string")
  | some 34 => .ok ("\"", i + 1)
  | some 92 => .ok ("\\", i + 1)
  | some 47 => .ok ("/", i + 1)
  | some 98 => .ok ("\x08", i + 1)
  | some 102 => .ok ("\x0c", i + 1)
  | some 110 => .ok ("\n", i + 1)
  | some 114 => .ok ("\r", i + 1)
  | some 116 => .ok ("\t", i + 1)
  | some 117 => (fun (c, j) => (c.toString, j)) <$> unicode b (i + 1)
  | some _ => .error (faultAt b (i + 1) "invalid escape")

/-- The rest of a string from `i`, after its opening quote. -/
def string : Nat → String → Nat → Except String (String × Nat)
  | 0, _, i => .error (faultAt b i "EOF while parsing a string")
  | fuel + 1, acc, i =>
    let j := plainEnd b i
    let chunk := (String.fromUTF8? (b.extract i j)).getD ""
    match b[j]? with
    | none => .error (faultAt b b.size "EOF while parsing a string")
    | some 34 => .ok (acc ++ chunk, j + 1)
    | some 92 => do
      let (e, k) ← escape b (j + 1)
      string fuel (acc ++ chunk ++ e) k
    | some _ => .error (faultAt b (j + 1) "control character (\\u0000-\\u001F) found while parsing a string")

/-- The bytes `rest` of a word whose first byte is before `i`. -/
def word (rest : List UInt8) (i : Nat) : Except String Nat :=
  rest.zipIdx.foldlM (fun _ (e, k) =>
    match b[i + k]? with
    | none => .error (faultAt b (i + k) "EOF while parsing a value")
    | some c => if c == e then .ok (i + k + 1) else .error (faultAt b (i + k + 1) "expected ident")) i

mutual

/-- A value from `i`. -/
def value : Nat → Nat → Except String (JsonValue × Nat)
  | 0, i => .error (faultAt b i "EOF while parsing a value")
  | fuel + 1, i =>
    let i := skipBlank b i
    match b[i]? with
    | none => .error (faultNext b i "EOF while parsing a value")
    | some 110 => (fun j => (.null, j)) <$> word b [117, 108, 108] (i + 1)
    | some 116 => (fun j => (.bool true, j)) <$> word b [114, 117, 101] (i + 1)
    | some 102 => (fun j => (.bool false, j)) <$> word b [97, 108, 115, 101] (i + 1)
    | some 45 => (fun (n, j) => (.num n, j)) <$> number b false (i + 1)
    | some 34 => (fun (s, j) => (.str s, j)) <$> string b (b.size + 1) "" (i + 1)
    | some 91 => (fun (xs, j) => (.arr xs, j + 1)) <$> items fuel [] true (i + 1)
    | some 123 => (fun (kvs, j) => (.obj kvs, j + 1)) <$> members fuel [] true (i + 1)
    | some c =>
      if isDigit c then (fun (n, j) => (.num n, j)) <$> number b true i
      else .error (faultNext b i "expected value")

/-- The items of an array from `i` up to its closing bracket, whose position is returned. -/
def items : Nat → List JsonValue → Bool → Nat → Except String ((List JsonValue) × Nat)
  | 0, _, _, i => .error (faultAt b i "EOF while parsing a list")
  | fuel + 1, acc, first, i =>
    let i := skipBlank b i
    match b[i]? with
    | none => .error (faultNext b i "EOF while parsing a list")
    | some 93 => .ok (acc.reverse, i)
    | some c => do
      let k ← if first then pure i
        else if c != 44 then throw (faultNext b i "expected `,` or `]`")
        else
          let k := skipBlank b (i + 1)
          match b[k]? with
          | some 93 => throw (faultNext b k "trailing comma")
          | some _ => pure k
          | none => throw (faultNext b k "EOF while parsing a value")
      let (v, j) ← value fuel k
      items fuel (v :: acc) false j

/-- The members of an object from `i` up to its closing brace, whose position is returned. -/
def members : Nat → List (String × JsonValue) → Bool → Nat → Except String ((List (String × JsonValue)) × Nat)
  | 0, _, _, i => .error (faultAt b i "EOF while parsing an object")
  | fuel + 1, acc, first, i => do
    let i := skipBlank b i
    let k ← match b[i]? with
      | some 125 => return (acc, i)
      | some 44 =>
        if first then throw (faultNext b i "key must be a string") else pure (skipBlank b (i + 1))
      | some _ => if first then pure i else throw (faultNext b i "expected `,` or `\x7d`")
      | none => throw (faultNext b i "EOF while parsing an object")
    match b[k]? with
    | some 34 => pure ()
    | some 125 => throw (faultNext b k "trailing comma")
    | some _ => throw (faultNext b k "key must be a string")
    | none => throw (faultNext b k "EOF while parsing a value")
    let (key, j) ← string b (b.size + 1) "" (k + 1)
    let j := skipBlank b j
    match b[j]? with
    | some 58 => pure ()
    | some _ => throw (faultNext b j "expected `:`")
    | none => throw (faultNext b j "EOF while parsing an object")
    let (v, j) ← value fuel (j + 1)
    members fuel (insertMember key v acc) false j

end

end Bytes

end JsonRead

/-- Read a whole text as one JSON value, blanks around it allowed. -/
def JsonValue.read (text : String) : Except String JsonValue := do
  let b := text.toUTF8
  let (v, i) ← JsonRead.value b (2 * b.size + 2) 0
  let j := JsonRead.skipBlank b i
  if j < b.size then throw (JsonRead.faultNext b j "trailing characters") else pure v

namespace JsonValue

/-- The value under a key; a null value counts as absent. -/
def get? (j : JsonValue) (k : String) : Option JsonValue :=
  match j with
  | .obj kvs => match kvs.lookup k with
    | some .null => none
    | v => v
  | _ => none

/-- Whether the key is present, even with a null value. -/
def has (j : JsonValue) (k : String) : Bool :=
  match j with
  | .obj kvs => (kvs.lookup k).isSome
  | _ => false

end JsonValue

end TypedJit
