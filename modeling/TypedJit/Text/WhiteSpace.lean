import TypedJit.Text.CodeRanges

/-!
White space: the characters of the Unicode property `White_Space`.
-/

namespace TypedJit.Text

/-- The code points of `White_Space`: tab to carriage return, space, next line, no-break space,
ogham space mark, en quad to hair space, the line and paragraph separators, narrow no-break
space, medium mathematical space and ideographic space. -/
def whiteSpace : CodeRanges :=
  [(0x9, 0xD), (0x20, 0x20), (0x85, 0x85), (0xA0, 0xA0), (0x1680, 0x1680), (0x2000, 0x200A),
   (0x2028, 0x2029), (0x202F, 0x202F), (0x205F, 0x205F), (0x3000, 0x3000)]

def isWhiteSpace (c : Char) : Bool := whiteSpace.contains c.toNat

/-- Every blank of core's `Char.isWhitespace` is white space. -/
theorem isWhiteSpace_of_isWhitespace {c : Char} (h : c.isWhitespace = true) :
    isWhiteSpace c = true := by
  simp only [Char.isWhitespace, Bool.or_eq_true, decide_eq_true_eq] at h
  rcases h with ((h | h) | h) | h <;> subst h <;> decide

end TypedJit.Text
