/-!
# Targets of requests

The target of a request is a path, or an absolute locator with a scheme, a host and a path. A query
may follow the path behind a question mark, and a fragment behind a number sign. Other targets, such
as a bare host or an asterisk, have no path.

* `Target.path?` is the path of a target; `path?_absolute`: a scheme and a host are passed over.
-/

namespace MysqlMetrics.Target

/-- The character may stand in the name of a scheme. -/
def isSchemeChar (c : Char) : Bool :=
  c.isAlphanum || c = '+' || c = '-' || c = '.' || c = '~'

/-- The character ends a path: a query or a fragment follows. -/
def endsPath (c : Char) : Bool := c = '?' || c = '#'

/-- What follows a scheme and the marks behind it. -/
def afterScheme? (target : List Char) : Option (List Char) :=
  match target.dropWhile isSchemeChar with
  | ':' :: '/' :: '/' :: rest => some rest
  | _ => none

/-- What follows a host. -/
def afterHost (text : List Char) : List Char := text.dropWhile fun c => c ≠ '/' && !endsPath c

/-- The text up to a query or a fragment. -/
def beforeQuery (text : List Char) : List Char := text.takeWhile fun c => !endsPath c

/-- The path behind a host; an empty one is the root. -/
def pathBehindHost (text : List Char) : List Char :=
  match beforeQuery (afterHost text) with
  | [] => ['/']
  | path => path

/-- The path of a target, if it has one. -/
def path? (target : List Char) : Option (List Char) :=
  match target with
  | '/' :: _ => some (beforeQuery target)
  | _ => (afterScheme? target).map pathBehindHost

theorem path?_absolute {scheme : List Char} (h : ∀ c ∈ scheme, isSchemeChar c = true)
    (rest : List Char) :
    path? (scheme ++ ':' :: '/' :: '/' :: rest) = some (pathBehindHost rest) := by
  have hs : afterScheme? (scheme ++ ':' :: '/' :: '/' :: rest) = some rest := by
    unfold afterScheme?
    rw [List.dropWhile_append_of_pos h]
    rfl
  cases scheme with
  | nil => exact congrArg (Option.map pathBehindHost) hs
  | cons c cs =>
    have hc : c ≠ '/' := fun e => by
      have := h c List.mem_cons_self
      rw [e] at this
      exact absurd this (by decide)
    unfold path?
    split
    · rename_i _ heq
      exact absurd (List.cons.inj heq).1 hc
    · rw [hs]
      rfl

end MysqlMetrics.Target
