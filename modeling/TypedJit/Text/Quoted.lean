import TypedJit.Text.Printable
import TypedJit.Text.GraphemeExtend

/-!
Quoted text: a string between double quotes, written so that every character can be seen.
-/

namespace TypedJit.Text

/-- Whether a character is written as its code point. -/
def showsCodePoint (c : Char) : Bool := isGraphemeExtend c || !isPrintable c

/-- How one character is written between quotes. -/
def escapeChar (c : Char) : String :=
  match c with
  | '"' => "\\\""
  | '\\' => "\\\\"
  | '\x00' => "\\0"
  | '\t' => "\\t"
  | '\r' => "\\r"
  | '\n' => "\\n"
  | c =>
    if showsCodePoint c then "\\u\x7b" ++ String.ofList (Nat.toDigits 16 c.toNat) ++ "\x7d"
    else c.toString

/-- The string between double quotes, each character written as `escapeChar` says. -/
def quoted (s : String) : String := "\"" ++ String.join (s.toList.map escapeChar) ++ "\""

theorem escapeChar_of_plain (c : Char) (hq : c ≠ '"') (hb : c ≠ '\\') (h : showsCodePoint c = false) :
    escapeChar c = c.toString := by
  unfold escapeChar
  split <;> first | contradiction | (exact absurd h (by decide)) | simp [h]

end TypedJit.Text
