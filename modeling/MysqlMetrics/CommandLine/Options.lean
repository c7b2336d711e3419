import MysqlMetrics.Collector.Basic

/-!
# Options of the command line

Two kinds of options: those that take a value, which may also come from the environment or have a
default, and flags. For each collector there are two flags, one to switch it on and one to switch it
off, and each of the two undoes the other.

* `Setting` and `Flag` are the two kinds; `Choice.long?` and `Choice.short?` look them up.
-/

namespace MysqlMetrics.CommandLine

/-- An option that takes a value. -/
inductive Setting where
  | port
  | listen
  | dsn
  | timeoutOffset
  deriving DecidableEq, Repr

/-- A flag for a collector: switch it on, or switch it off. -/
structure Switch where
  collector : Collector
  on : Bool
  deriving DecidableEq, Repr

/-- An option without a value. -/
inductive Flag where
  | verbose
  | switch (s : Switch)
  | help
  | version
  deriving DecidableEq, Repr

/-- An option of the command line. -/
inductive Choice where
  | setting (s : Setting)
  | flag (f : Flag)
  deriving DecidableEq, Repr

namespace Setting

/-- All settings, in the order in which they are shown and looked up in the environment. -/
def all : List Setting := [port, listen, dsn, timeoutOffset]

/-- The long name. -/
def name : Setting → String
  | port => "port"
  | listen => "listen"
  | dsn => "dsn"
  | timeoutOffset => "timeout-offset"

/-- The short name. -/
def letter? : Setting → Option Char
  | port => some 'p'
  | listen => some 'l'
  | _ => none

/-- The variable of the environment that gives the value if the command line does not. -/
def variableName : Setting → String
  | port => "MYSQLD_EXPORTER_PORT"
  | listen => "MYSQLD_EXPORTER_LISTEN"
  | dsn => "MYSQLD_EXPORTER_DSN"
  | timeoutOffset => "MYSQLD_EXPORTER_TIMEOUT_OFFSET"

/-- The value of the variable may be shown; that of the data source holds a password. -/
def showsVariable : Setting → Bool
  | dsn => false
  | _ => true

/-- The value if nothing gives one. -/
def default? : Setting → Option String
  | port => some "9104"
  | listen => none
  | dsn => some "mysql:///mysql?socket=/var/run/mysqld/mysqld.sock"
  | timeoutOffset => some "0.25"

/-- What the setting is. -/
def help : Setting → String
  | port => "Port to listen on"
  | listen => "Address to listen on, defaults to [::] with a fallback to 0.0.0.0"
  | dsn => "Data source name"
  | timeoutOffset => "Seconds subtracted from the Prometheus scrape timeout"

end Setting

namespace Switch

/-- The flag that undoes this one. -/
def opposite (s : Switch) : Switch := ⟨s.collector, !s.on⟩

/-- Both switches of every collector. -/
def all : List Switch := Collector.all.flatMap fun c => [⟨c, true⟩, ⟨c, false⟩]

/-- The long name. -/
def name (s : Switch) : String :=
  (if s.on then "collector." else "no-collector.") ++ s.collector.name

/-- What the flag does. -/
def help (s : Switch) : String :=
  if s.on then
    "Enable the " ++ s.collector.name ++ " collector (" ++ s.collector.help ++ ") [default: " ++
      (if s.collector.isDefault then "enabled" else "disabled") ++ "]"
  else "Disable the " ++ s.collector.name ++ " collector"

end Switch

namespace Flag

/-- All flags, in the order in which they are shown. -/
def all : List Flag := verbose :: Switch.all.map switch ++ [help, version]

/-- The long name. -/
def name : Flag → String
  | verbose => "verbose"
  | switch s => s.name
  | help => "help"
  | version => "version"

/-- The short name. -/
def letter? : Flag → Option Char
  | verbose => some 'v'
  | switch _ => none
  | help => some 'h'
  | version => some 'V'

/-- What the flag does. -/
def purpose : Flag → String
  | verbose => "Increase verbosity, -vv for debug"
  | switch s => s.help
  | help => "Print help"
  | version => "Print version"

end Flag

namespace Choice

/-- All options, in the order in which they are shown. -/
def all : List Choice := Setting.all.map setting ++ Flag.all.map flag

/-- The long name. -/
def name : Choice → String
  | setting s => s.name
  | flag f => f.name

/-- The short name. -/
def letter? : Choice → Option Char
  | setting s => s.letter?
  | flag f => f.letter?

/-- The option of a long name. -/
def long? (name : String) : Option Choice := all.find? fun o => o.name = name

/-- The option of a short name. -/
def short? (letter : Char) : Option Choice := all.find? fun o => o.letter? = some letter

/-- What stands behind the name: the place of the value, or dots if the flag may be repeated. -/
def marks : Choice → List String
  | setting s => [" ", "<" ++ s.name ++ ">"]
  | flag .verbose => ["..."]
  | flag _ => []

/-- The option as messages show it. -/
def shown (o : Choice) : String := "--" ++ o.name ++ String.join o.marks

end Choice

end MysqlMetrics.CommandLine
