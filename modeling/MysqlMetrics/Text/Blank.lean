import MysqlMetrics.Text.Ranges

/-!
# Blank characters

The characters with the Unicode property `White_Space`, and the two ways the library removes them:
from the front of a text and from both of its ends.

* `trimStart_eq_self`: a text that does not begin with a blank is left alone.
-/

namespace MysqlMetrics.Text

/-- The 25 characters with the property `White_Space`. -/
def blankRanges : List (Nat × Nat) :=
  [(0x9, 0xD), (0x20, 0x20), (0x85, 0x85), (0xA0, 0xA0), (0x1680, 0x1680), (0x2000, 0x200A),
   (0x2028, 0x2029), (0x202F, 0x202F), (0x205F, 0x205F), (0x3000, 0x3000)]

/-- The character is white space. -/
def isBlank (c : Char) : Bool := inRanges blankRanges c

/-- The text without the blanks at its front. -/
def trimStart (text : List Char) : List Char := text.dropWhile isBlank

/-- The text without the blanks at its end. -/
def trimEnd (text : List Char) : List Char := (text.reverse.dropWhile isBlank).reverse

/-- The text without the blanks at both ends; blanks inside stay. -/
def trim (text : List Char) : List Char := trimEnd (trimStart text)

theorem trimStart_eq_self {c : Char} {rest : List Char} (h : isBlank c = false) :
    trimStart (c :: rest) = c :: rest := by
  simp [trimStart, h]

end MysqlMetrics.Text
