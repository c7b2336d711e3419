import MysqlMetrics.CommandLine.Options
import MysqlMetrics.Decimal.Reader
import MysqlMetrics.Text.Numeral
import MysqlMetrics.Text.Quoted
import MysqlMetrics.Time.Duration

/-!
# What a command line asks for

Either an invocation of the exporter with all its settings, or the help or the version to be
printed, or a fault. A setting may be given once, and its value is checked as it is entered; a
switch may be given again only if the opposite one came in between.

* `Given` is what was given so far; `Given.enter` and `Given.press` add to it.
* `Given.invocation` fills in the defaults; `Given.set_default`: each of them suits its setting.
-/

namespace MysqlMetrics.CommandLine

open MysqlMetrics.Text

/-- Why a value does not suit its setting. -/
inductive ValueError where
  | numeral (cause : NumeralError)
  | portRange (port : Int)
  | noNumber (text : String) (cause : Decimal.ReadError)
  | noDuration (text : String)
  deriving DecidableEq, Repr

/-- The wording of an unsuitable value. -/
def ValueError.message : ValueError → String
  | .numeral cause => cause.message
  | .portRange n => toString n ++ " is not in 0..=65535"
  | .noNumber text cause => "invalid offset " ++ quoted text.toList ++ ": " ++ cause.message
  | .noDuration text => "offset must be a non-negative number of seconds, got " ++ text

/-- What is wrong with a command line. -/
inductive UsageError where
  | unknown (argument : String)
  | noValue (setting : Setting)
  | repeated (choice : Choice)
  | unwantedValue (flag : Flag)
  | badValue (setting : Setting) (cause : ValueError)
  deriving DecidableEq, Repr

namespace UsageError

/-- The argument at fault, as it is shown. -/
def argument : UsageError → String
  | unknown argument => argument
  | noValue s => (Choice.setting s).shown
  | repeated c => c.shown
  | unwantedValue f => (Choice.flag f).shown
  | badValue s _ => (Choice.setting s).shown

/-- What is said of an unsuitable value. -/
def detail? : UsageError → Option String
  | badValue _ cause => some cause.message
  | _ => none

/-- The wording of a fault. -/
def message (e : UsageError) : String :=
  match e with
  | unknown _ => "unexpected argument '" ++ e.argument ++ "' found"
  | noValue _ => "a value is required for '" ++ e.argument ++ "' but none was supplied"
  | repeated _ => "the argument '" ++ e.argument ++ "' cannot be used multiple times"
  | unwantedValue _ => "unexpected value for '" ++ e.argument ++ "' found; no more were expected"
  | badValue _ cause => "invalid value for '" ++ e.argument ++ "': " ++ cause.message

end UsageError

/-- Why a command line starts nothing. -/
inductive Stop where
  | help
  | version
  | fault (error : UsageError)
  deriving DecidableEq, Repr

/-- An invocation of the exporter. -/
structure Invocation where
  port : Nat
  listen : Option String
  dsn : String
  collectors : List Collector
  offset : Duration
  verbosity : Nat
  deriving DecidableEq, Repr

/-- How much is logged. -/
inductive LogLevel where
  | warn
  | info
  | debug
  | trace
  deriving DecidableEq, Repr

/-- The word for a level. -/
def LogLevel.word : LogLevel → String
  | warn => "warn"
  | info => "info"
  | debug => "debug"
  | trace => "trace"

/-- The level for a number of verbose flags. -/
def LogLevel.ofVerbosity : Nat → LogLevel
  | 0 => warn
  | 1 => info
  | 2 => debug
  | _ => trace

/-- The most verbose flags that count. -/
def maxVerbosity : Nat := 255

/-- A port, a number of 16 bits. -/
def readPort (text : String) : Except ValueError Nat :=
  match Integer.read maxInteger64 text.toList with
  | .error cause => .error (.numeral cause)
  | .ok n => if 0 ≤ n ∧ n ≤ 65535 then .ok n.toNat else .error (.portRange n)

/-- A span of time in seconds. -/
def readOffset (text : String) : Except ValueError Duration :=
  match Decimal.read text.toList with
  | .error cause => .error (.noNumber text cause)
  | .ok x =>
    match Duration.ofSeconds? x with
    | some d => .ok d
    | none => .error (.noDuration text)

/-- What was given so far: the values, the switches in force, newest first, and the verbosity. -/
structure Given where
  port : Option Nat := none
  listen : Option String := none
  dsn : Option String := none
  offset : Option Duration := none
  switches : List Switch := []
  verbosity : Nat := 0
  deriving DecidableEq, Repr

namespace Given

/-- The setting has a value. -/
def has (g : Given) : Setting → Bool
  | .port => g.port.isSome
  | .listen => g.listen.isSome
  | .dsn => g.dsn.isSome
  | .timeoutOffset => g.offset.isSome

/-- Gives a setting its value. -/
def set (g : Given) (s : Setting) (text : String) : Except ValueError Given :=
  match s with
  | .port => (readPort text).map fun n => { g with port := some n }
  | .listen => .ok { g with listen := some text }
  | .dsn => .ok { g with dsn := some text }
  | .timeoutOffset => (readOffset text).map fun d => { g with offset := some d }

/-- Gives a setting its value on the command line, where it may be given once. -/
def enter (g : Given) (s : Setting) (text : String) : Except Stop Given :=
  if g.has s then .error (.fault (.repeated (.setting s)))
  else (g.set s text).mapError fun cause => .fault (.badValue s cause)

/-- Puts a switch in force, and its opposite out of force. -/
def throwSwitch (g : Given) (s : Switch) : Except Stop Given :=
  if s ∈ g.switches then .error (.fault (.repeated (.flag (.switch s))))
  else .ok { g with switches := s :: g.switches.filter (· ≠ s.opposite) }

/-- Gives a flag on the command line. -/
def press (g : Given) : Flag → Except Stop Given
  | .verbose => .ok { g with verbosity := min maxVerbosity (g.verbosity + 1) }
  | .switch s => g.throwSwitch s
  | .help => .error .help
  | .version => .error .version

/-- Gives the settings that have no value yet those of the environment. -/
def fill (environment : String → Option String) (g : Given) : List Setting → Except Stop Given
  | [] => .ok g
  | s :: rest =>
    match environment s.variableName with
    | some text =>
      if g.has s then fill environment g rest
      else
        match g.set s text with
        | .error cause => .error (.fault (.badValue s cause))
        | .ok g => fill environment g rest
    | none => fill environment g rest

/-- The collector runs: it is not switched off, and it is switched on or runs by default. -/
def runs (g : Given) (c : Collector) : Bool :=
  if ⟨c, false⟩ ∈ g.switches then false
  else if ⟨c, true⟩ ∈ g.switches then true
  else c.isDefault

/-- The collectors that run, in their order. -/
def collectors (g : Given) : List Collector := Collector.all.filter g.runs

/-- The port unless one is given. -/
def defaultPort : Nat := 9104

/-- The offset unless one is given. -/
def defaultOffset : Duration := .ofMilliseconds 250

/-- The invocation, with defaults for what is not given. -/
def invocation (g : Given) : Invocation where
  port := g.port.getD defaultPort
  listen := g.listen
  dsn := g.dsn.getD (Setting.dsn.default?.getD "")
  collectors := g.collectors
  offset := g.offset.getD defaultOffset
  verbosity := g.verbosity

/-- **Defaults suit their settings.** A setting that has no value yet accepts its default, and what
is invoked is the same as without it. -/
theorem set_default {g : Given} {s : Setting} {text : String} (htext : s.default? = some text)
    (hfree : g.has s = false) :
    ∃ g', g.set s text = .ok g' ∧ g'.has s = true ∧ g'.invocation = g.invocation := by
  cases s with
  | port =>
    cases htext
    have hport : g.port = none := Option.isNone_iff_eq_none.mp (Option.isSome_eq_false_iff.mp hfree)
    have hread : readPort "9104" = .ok defaultPort := rfl
    refine ⟨{ g with port := some defaultPort }, ?_, rfl, ?_⟩
    · rw [set, hread]
      rfl
    · rw [invocation, invocation, hport]
      rfl
  | listen => cases htext
  | dsn =>
    cases htext
    have hdsn : g.dsn = none := Option.isNone_iff_eq_none.mp (Option.isSome_eq_false_iff.mp hfree)
    refine ⟨_, rfl, rfl, ?_⟩
    rw [invocation, invocation, hdsn]
    rfl
  | timeoutOffset =>
    cases htext
    have hoffset : g.offset = none :=
      Option.isNone_iff_eq_none.mp (Option.isSome_eq_false_iff.mp hfree)
    have hnumber : Decimal.read? "0.25".toList = some 0.25 := by decide +kernel
    have hspan : Duration.ofSeconds? 0.25 = some defaultOffset := by decide +kernel
    have hread : readOffset "0.25" = .ok defaultOffset := by
      simp only [readOffset, Decimal.read, hnumber, hspan]
    refine ⟨{ g with offset := some defaultOffset }, ?_, rfl, ?_⟩
    · rw [set, hread]
      rfl
    · rw [invocation, invocation, hoffset]
      rfl

end Given

end MysqlMetrics.CommandLine
