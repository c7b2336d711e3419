import MysqlMetrics.Text.Digit

/-!
# Percent-encoded text

In a locator `%` and two digits of base sixteen stand for a byte, every other character for its
bytes in UTF-8. A `%` without two such digits stands for itself.

* `percentDecode?_of_not_mem`: a text without `%` stands for itself.
-/

namespace MysqlMetrics.Text

/-- The bytes that a percent-encoded text stands for. -/
def percentBytes : List Char → List UInt8
  | '%' :: x :: y :: rest =>
    match hexValue? x, hexValue? y with
    | some high, some low => UInt8.ofNat (16 * high + low) :: percentBytes rest
    | _, _ => String.utf8EncodeChar '%' ++ percentBytes (x :: y :: rest)
  | c :: rest => String.utf8EncodeChar c ++ percentBytes rest
  | [] => []

/-- The text that a percent-encoded text stands for, if its bytes are UTF-8. -/
def percentDecode? (text : List Char) : Option String :=
  String.fromUTF8? (percentBytes text).toByteArray

/-- The text of a part of a query, in which `+` stands for a space. -/
def formDecode? (text : List Char) : Option String :=
  percentDecode? (text.map fun c => if c = '+' then ' ' else c)

theorem percentBytes_of_not_mem {text : List Char} (h : '%' ∉ text) :
    percentBytes text = text.flatMap String.utf8EncodeChar := by
  induction text with
  | nil => rfl
  | cons c rest ih =>
    simp only [List.mem_cons, not_or] at h
    rw [percentBytes, ih h.2, List.flatMap_cons]
    rintro x y tail rfl
    exact absurd rfl h.1

theorem percentDecode?_of_not_mem {text : List Char} (h : '%' ∉ text) :
    percentDecode? text = some (String.ofList text) := by
  have bytes : (text.flatMap String.utf8EncodeChar).toByteArray =
      (String.ofList text).toByteArray := by
    rw [String.toByteArray_ofList, List.utf8Encode]
  rw [percentDecode?, percentBytes_of_not_mem h, bytes, String.fromUTF8?,
    dif_pos (String.ofList text).isValidUTF8]
  rfl

end MysqlMetrics.Text
