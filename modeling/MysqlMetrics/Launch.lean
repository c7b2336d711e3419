import MysqlMetrics.Address
import MysqlMetrics.CommandLine.Invocation
import MysqlMetrics.DataSource.Basic
import MysqlMetrics.Http

/-!
# Starting the exporter

What an invocation names is checked before anything is served: the data source first, then the
address to listen on. No server has to be reachable for the exporter to start.

* `Launch.check` makes the two checks; `Launch.start` turns an invocation into a service.
* `Launch.start_default`: nothing has to be given for the exporter to start.
-/

namespace MysqlMetrics

/-- Why the exporter does not start. -/
inductive LaunchError where
  | dataSource (cause : DataSourceError)
  | address (text : String)
  deriving DecidableEq, Repr

/-- The wording of a fault that keeps the exporter from starting. -/
def LaunchError.message : LaunchError → String
  | .dataSource cause => cause.message
  | .address text => "invalid listen address " ++ text ++ ": invalid IP address syntax"

/-- An exporter that is ready to serve; without an address it listens on all. -/
structure Launch where
  source : DataSource
  address : Option Address
  port : Nat
  service : Service

namespace Launch

/-- A bracket. -/
def isBracket (c : Char) : Bool := c = '[' ∨ c = ']'

/-- The text without the brackets at both ends. -/
def unbracketed (text : List Char) : List Char :=
  ((text.dropWhile isBracket).reverse.dropWhile isBracket).reverse

/-- The address to listen on. -/
def readAddress (text : String) : Except LaunchError Address :=
  match Address.read? (unbracketed text.toList) with
  | some address => .ok address
  | none => .error (.address text)

/-- The data source and the address to listen on, if one is given. -/
def check (dsn : String) (listen : Option String) :
    Except LaunchError (DataSource × Option Address) := do
  let source ← (DataSource.read dsn).mapError .dataSource
  match listen with
  | none => return (source, none)
  | some text => return (source, some (← readAddress text))

/-- The exporter that an invocation asks for. -/
def start (i : CommandLine.Invocation) : Except LaunchError Launch := do
  let (source, address) ← check i.dsn i.listen
  let settings : Settings := { enabled := i.collectors.map Collector.name, offset := i.offset }
  return { source, address, port := i.port, service := { exporter := { settings } } }

/-- **The defaults start.** An exporter for which neither a data source nor an address is given
starts, whatever else is given. -/
theorem start_default {g : CommandLine.Given} (hdsn : g.dsn = none) (hlisten : g.listen = none) :
    ∃ launch, start g.invocation = .ok launch ∧ launch.address = none := by
  have hread : ∃ source,
      DataSource.read (CommandLine.Setting.dsn.default?.getD "") = .ok source := ⟨_, rfl⟩
  obtain ⟨source, hsource⟩ := hread
  have hcheck : check g.invocation.dsn g.invocation.listen = .ok (source, none) := by
    simp only [CommandLine.Given.invocation, hdsn, hlisten, Option.getD_none, check, hsource]
    rfl
  refine ⟨_, by rw [start, hcheck]; rfl, rfl⟩

end Launch

end MysqlMetrics
