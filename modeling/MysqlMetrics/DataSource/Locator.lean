import MysqlMetrics.Address
import MysqlMetrics.Text.Digit
import MysqlMetrics.Text.Pieces

/-!
# Locators

What stands behind `mysql://`: user and password before the last `@`, host and port, a path and a
query. Tabs and line ends do not count anywhere, nor do blanks and control characters at the end. In
the path `.` names the place itself and `..` the place above.

* `Locator.read?` takes a text apart, or fails if a part can not be one.
-/

namespace MysqlMetrics

open MysqlMetrics.Text

/-- The machine that a locator names; a name is not decoded. -/
inductive Host where
  | named (name : String)
  | numbered (address : Address)
  deriving DecidableEq, Repr

/-- The parts of a locator; user, password, path and query are still percent-encoded. -/
structure Locator where
  user : List Char
  password : List Char
  host : Option Host
  port : Option Nat
  path : List Char
  query : List Char
  deriving DecidableEq, Repr

namespace Locator

/-- A tab or a line end. -/
def isIgnored (c : Char) : Bool := c = '\t' ∨ c = '\n' ∨ c = '\r'

/-- The text without what does not count. -/
def clean (text : List Char) : List Char :=
  (text.reverse.dropWhile fun c => c.toNat ≤ 0x20).reverse.filter (!isIgnored ·)

/-- A character that ends the authority: user, password, host and port. -/
def endsAuthority (c : Char) : Bool := c = '/' ∨ c = '?' ∨ c = '#'

/-- A character that the name of a host may not have. -/
def isForbidden (c : Char) : Bool :=
  c ∈ ['\x00', '\t', '\n', '\r', ' ', '#', '/', ':', '<', '>', '?', '@', '[', '\\', ']', '^', '|']

/-- A host, which is an address between brackets or a name; `some none` is no host at all. -/
def host? (text : List Char) : Option (Option Host) :=
  match text with
  | [] => some none
  | '[' :: rest =>
    if rest.getLast? = some ']' then
      (Address.ipv6? rest.dropLast).map fun address => some (.numbered address)
    else none
  | name => if name.any isForbidden then none else some (some (.named (String.ofList name)))

/-- The host and, from its colon on, the port; a colon between brackets is part of the host. -/
def cutPort (isBracketed : Bool) : List Char → List Char × List Char
  | [] => ([], [])
  | c :: rest =>
    if c = ':' ∧ isBracketed = false then ([], c :: rest)
    else
      let (host, port) := cutPort (c = '[' || (isBracketed && c ≠ ']')) rest
      (c :: host, port)

/-- The digits of a port and what follows them, which is nothing or a path from a backslash on. -/
def port? (text : List Char) : Option (Option Nat × List Char) :=
  let (number, rest) := digits text
  if 65535 < digitsValue number then none
  else if rest = [] ∨ rest.head? = some '\\' then
    some (if number = [] then none else some (digitsValue number), rest)
  else none

/-- The segment stands for the place itself. -/
def isHere (segment : List Char) : Bool :=
  segment.map Char.toLower ∈ [".", "%2e"].map String.toList

/-- The segment stands for the place above. -/
def isAbove (segment : List Char) : Bool :=
  segment.map Char.toLower ∈ ["..", ".%2e", "%2e.", "%2e%2e"].map String.toList

/-- The segment names a drive, and nothing is above it. -/
def isDrive : List Char → Bool
  | c :: mark :: rest =>
    c.isAlpha && (mark = ':' || mark = '|') && (rest = [] || rest.head? = some '\\')
  | _ => false

/-- The place above a path, whose segments are in reverse order. -/
def above : List (List Char) → List (List Char)
  | [] => []
  | segment :: rest => if isDrive segment then segment :: rest else rest

/-- A path followed by further segments. -/
def walk (path : List (List Char)) : List (List Char) → List (List Char)
  | [] => path
  | [segment] =>
    if isAbove segment then [] :: above path
    else if isHere segment then [] :: path
    else segment :: path
  | segment :: rest =>
    if isAbove segment then walk (above path) rest
    else if isHere segment then walk path rest
    else walk (segment :: path) rest

/-- The path that a text leads to from the top, without the slashes at its front. -/
def pathOf (text : List Char) : List Char :=
  let behindSlash := if text.head? = some '/' then text.drop 1 else text
  let segments := (walk [] (pieces '/' behindSlash)).reverse
  (segments.flatMap ('/' :: ·)).dropWhile (· = '/')

/-- User and password, and the host and port behind them. -/
def cutUser (authority : List Char) : List Char × List Char × List Char :=
  match cutLast? '@' authority with
  | none => ([], [], authority)
  | some (login, place) => (login.takeWhile (· ≠ ':'), (login.dropWhile (· ≠ ':')).drop 1, place)

/-- The parts of a locator. -/
def read? (text : List Char) : Option Locator := do
  let text := clean text
  let authority := text.takeWhile (!endsAuthority ·)
  let rest := text.dropWhile (!endsAuthority ·)
  let (user, password, place) := cutUser authority
  if authority = ['@'] ∧ rest ≠ [] then none
  let (hostText, portText) := cutPort false place
  let host ← host? hostText
  if host = none ∧ (portText ≠ [] ∨ user ≠ [] ∨ password ≠ []) then none
  let (port, stray) ← port? (portText.drop 1)
  let path := (stray ++ rest).takeWhile fun c => c ≠ '?' ∧ c ≠ '#'
  let query := ((stray ++ rest).dropWhile fun c => c ≠ '?' ∧ c ≠ '#').takeWhile (· ≠ '#')
  return { user, password, host, port, path := pathOf path, query := query.drop 1 }

end Locator

end MysqlMetrics
