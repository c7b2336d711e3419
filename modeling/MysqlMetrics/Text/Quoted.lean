import MysqlMetrics.Text.Invisible

/-!
# Quoted text

Text in double quotes for a message: the quote, the backslash and four control characters behind a
backslash, every other character that does not show as `\u` and its code point in braces.
-/

namespace MysqlMetrics.Text

/-- A character inside double quotes. -/
def escape (c : Char) : List Char :=
  match c with
  | '"' => ['\\', '"']
  | '\\' => ['\\', '\\']
  | '\n' => ['\\', 'n']
  | '\r' => ['\\', 'r']
  | '\t' => ['\\', 't']
  | '\x00' => ['\\', '0']
  | c => if shows c then [c] else ['\\', 'u', '\x7b'] ++ Nat.toDigits 16 c.toNat ++ ['\x7d']

/-- The text between double quotes. -/
def quoted (text : List Char) : String := String.ofList ('"' :: text.flatMap escape ++ ['"'])

/-- Texts in double quotes, separated by commas, between brackets. -/
def quotedList (texts : List String) : String :=
  "[" ++ ", ".intercalate (texts.map fun t => quoted t.toList) ++ "]"

end MysqlMetrics.Text
