import MysqlMetrics.Text.Digit
import MysqlMetrics.Text.Pieces

/-!
# Internet addresses

An address of version 4 is four numbers between dots; an address of version 6 is eight groups of
digits of base sixteen between colons, where `::` stands for one or more groups of zero and the last
two groups may be written as an address of version 4.

* `Address.read?` reads either.
* `Address.length_ipv6Groups?`: an address of version 6 has eight groups.
-/

namespace MysqlMetrics

open MysqlMetrics.Text

/-- An address of the Internet protocol. -/
inductive Address where
  | v4 (a b c d : Nat)
  | v6 (groups : List Nat)
  deriving DecidableEq, Repr

namespace Address

/-- A number from 0 to 255 in at most three digits, without a zero in front. -/
def octet? (text : List Char) : Option Nat :=
  if text ≠ [] ∧ text.length ≤ 3 ∧ text.all Char.isDigit ∧ (text.head? = some '0' → text = ['0']) ∧
      digitsValue text ≤ 255 then
    some (digitsValue text)
  else none

/-- An address of version 4. -/
def ipv4? (text : List Char) : Option Address :=
  match pieces '.' text with
  | [a, b, c, d] => do return .v4 (← octet? a) (← octet? b) (← octet? c) (← octet? d)
  | _ => none

/-- The number that digits of base sixteen write onto `n`. -/
def hexOnto? (n : Nat) : List Char → Option Nat
  | [] => some n
  | c :: rest =>
    match hexValue? c with
    | some v => hexOnto? (16 * n + v) rest
    | none => none

/-- A group of one to four digits of base sixteen. -/
def group? (text : List Char) : Option Nat :=
  if text ≠ [] ∧ text.length ≤ 4 then hexOnto? 0 text else none

/-- The last groups of an address: one group, or two written as an address of version 4. -/
def lastGroups? (text : List Char) : Option (List Nat) :=
  match ipv4? text with
  | some (.v4 a b c d) => some [256 * a + b, 256 * c + d]
  | _ => (group? text).map ([·])

/-- Groups up to the end of an address. -/
def closingGroups? : List (List Char) → Option (List Nat)
  | [] => some []
  | [piece] => lastGroups? piece
  | piece :: rest => do return (← group? piece) :: (← closingGroups? rest)

/-- Groups in front of `::`. -/
def openingGroups? : List (List Char) → Option (List Nat)
  | [] => some []
  | piece :: rest => do return (← group? piece) :: (← openingGroups? rest)

/-- The pieces between colons; an empty text has none. -/
def between (text : List Char) : List (List Char) := if text = [] then [] else pieces ':' text

/-- The parts before and after the first `::`. -/
def cutGap? : List Char → Option (List Char × List Char)
  | ':' :: ':' :: rest => some ([], rest)
  | c :: rest => (cutGap? rest).map fun (before, after) => (c :: before, after)
  | [] => none

/-- The groups of an address of version 6. -/
def ipv6Groups? (text : List Char) : Option (List Nat) :=
  match cutGap? text with
  | none => (closingGroups? (between text)).filter (·.length = 8)
  | some (before, after) => do
    let opening ← openingGroups? (between before)
    let closing ← closingGroups? (between after)
    if opening.length + closing.length < 8 then
      some (opening ++ List.replicate (8 - opening.length - closing.length) 0 ++ closing)
    else none

/-- An address of version 6. -/
def ipv6? (text : List Char) : Option Address := (ipv6Groups? text).map v6

/-- An address of either version. -/
def read? (text : List Char) : Option Address := ipv4? text <|> ipv6? text

theorem length_ipv6Groups? {text : List Char} {groups : List Nat}
    (h : ipv6Groups? text = some groups) : groups.length = 8 := by
  unfold ipv6Groups? at h
  split at h
  · simp only [Option.filter_eq_some_iff, decide_eq_true_eq] at h
    exact h.2
  · simp only [Option.bind_eq_bind, Option.bind_eq_some_iff] at h
    obtain ⟨opening, _, closing, _, h⟩ := h
    split at h
    · cases h
      simp only [List.length_append, List.length_replicate]
      omega
    · cases h

end Address

end MysqlMetrics
