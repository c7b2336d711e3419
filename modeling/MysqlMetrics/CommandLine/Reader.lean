import MysqlMetrics.CommandLine.Invocation

/-!
# Reading a command line

Arguments are read from the left. A value stands behind its option, in the same argument
(`--port=80`, `-p80`) or in the next one, and then it must not begin with a dash. Short flags may
share one argument. A value in an argument of its own is checked only when the next option or the
end is reached, so an argument that is no option at all is reported before it.

* `Reader.read` reads the arguments and fills in the environment.
-/

namespace MysqlMetrics.CommandLine

/-- The state of reading: what was given, the setting whose value is awaited or not yet entered, and
whether only plain arguments may follow. -/
structure Reader where
  given : Given := {}
  pending : Option (Setting × Option String) := none
  plainOnly : Bool := false

namespace Reader

/-- An argument that the command line has no place for. -/
def unknown {α : Type} (argument : List Char) : Except Stop α :=
  .error (.fault (.unknown (String.ofList argument)))

/-- Enters the value that is still to be entered. -/
def settle (r : Reader) : Except Stop Reader :=
  match r.pending with
  | none => .ok r
  | some (s, none) => .error (.fault (.noValue s))
  | some (s, some text) =>
    (r.given.enter s text).map fun g => { r with given := g, pending := none }

/-- A setting with its value in the same argument. -/
def attached (r : Reader) (s : Setting) (text : List Char) : Except Stop Reader := do
  let r ← r.settle
  let g ← r.given.enter s (String.ofList text)
  return { r with given := g }

/-- A setting whose value is to follow. -/
def awaiting (r : Reader) (s : Setting) : Except Stop Reader := do
  let r ← r.settle
  return { r with pending := some (s, none) }

/-- A flag. -/
def flag (r : Reader) (f : Flag) : Except Stop Reader := do
  let r ← r.settle
  let g ← r.given.press f
  return { r with given := g }

/-- An argument that is no option: the awaited value, if there is one. -/
def plain (r : Reader) (text : List Char) : Except Stop Reader :=
  match r.pending with
  | some (s, none) => .ok { r with pending := some (s, some (String.ofList text)) }
  | _ => unknown text

/-- A long option, without its dashes. -/
def long (r : Reader) (text : List Char) : Except Stop Reader :=
  let name := text.takeWhile (· ≠ '=')
  match Choice.long? (String.ofList name), text.dropWhile (· ≠ '=') with
  | none, _ => unknown ('-' :: '-' :: name)
  | some (.setting s), _ :: value => r.attached s value
  | some (.setting s), [] => r.awaiting s
  | some (.flag f), _ :: _ => .error (.fault (.unwantedValue f))
  | some (.flag f), [] => r.flag f

/-- Short options that share an argument, without their dash. -/
def short (r : Reader) : List Char → Except Stop Reader
  | [] => .ok r
  | c :: rest =>
    match Choice.short? c with
    | none => unknown ['-', c]
    | some (.flag f) =>
      match r.flag f with
      | .error stop => .error stop
      | .ok r => short r rest
    | some (.setting s) =>
      match rest with
      | [] => r.awaiting s
      | '=' :: value => r.attached s value
      | value => r.attached s value

/-- One argument. Two dashes alone end the options; one dash alone is a plain argument. -/
def argument (r : Reader) (text : List Char) : Except Stop Reader :=
  if r.plainOnly then unknown text
  else
    match text with
    | ['-', '-'] => .ok { r with plainOnly := true }
    | '-' :: '-' :: name => r.long name
    | '-' :: c :: rest => r.short (c :: rest)
    | text => r.plain text

/-- Arguments one after another. -/
def arguments (r : Reader) : List String → Except Stop Reader
  | [] => .ok r
  | a :: rest =>
    match r.argument a.toList with
    | .error stop => .error stop
    | .ok r => arguments r rest

/-- What the arguments and the environment ask for. -/
def read (environment : String → Option String) (args : List String) : Except Stop Invocation := do
  let r ← arguments {} args
  let r ← r.settle
  let g ← r.given.fill environment Setting.all
  return g.invocation

end Reader

end MysqlMetrics.CommandLine
