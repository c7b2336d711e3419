import MysqlMetrics.Collector.StatusVariables
import MysqlMetrics.Collector.BinaryLog
import MysqlMetrics.Collector.Replication
import MysqlMetrics.Collector.Accounts
import MysqlMetrics.Server.Fetch

/-!
# Collectors

A collector is one subject that metrics are collected on: it has a name to switch it on and off by,
queries that bring its rows, and a reading of these rows. It asks the server first and sends samples
afterwards, so a collector that is out of time has sent nothing.

* `Collector.all` lists the collectors in the order in which they are shown and run.
* `Collector.collect` runs one against a server; `executed` lists what it asked.
-/

namespace MysqlMetrics

/-- The subjects that metrics are collected on. -/
inductive Collector where
  | statusVariables
  | binaryLog
  | replication
  | accounts
  deriving DecidableEq, Repr

namespace Collector

/-- All collectors, in order. -/
def all : List Collector := [statusVariables, binaryLog, replication, accounts]

theorem mem_all (c : Collector) : c ∈ all := by cases c <;> decide

/-- The name by which a collector is switched on and off. -/
def name : Collector → String
  | statusVariables => "global_status"
  | binaryLog => "master_status"
  | replication => "slave_status"
  | accounts => "user"

theorem name_injective {c d : Collector} (h : c.name = d.name) : c = d := by
  revert h
  cases c <;> cases d <;> decide

/-- What a collector does. -/
def help : Collector → String
  | statusVariables => "Collect from SHOW GLOBAL STATUS"
  | binaryLog => "Collect the master status"
  | replication => "Collect from SHOW SLAVE STATUS"
  | accounts => "Collect data from mysql.user"

/-- The ordinal of the oldest server version that a collector works with. -/
def minVersion : Collector → Nat
  | _ => 50100

/-- Whether a collector runs unless it is switched off. -/
def isDefault : Collector → Bool
  | accounts => false
  | _ => true

/-- The collector of a name. -/
def ofName? (name : String) : Option Collector := all.find? fun c => c.name = name

/-- The query texts that a collector tries, in order. -/
def attempts : Collector → List String
  | statusVariables => [StatusVariables.sql]
  | binaryLog => Fetch.attempts BinaryLog.queries []
  | replication => Fetch.attempts Replication.queries Replication.suffixes
  | accounts => [Accounts.sql]

/-- The reading of a collector's rows. -/
def harvest : Collector → RowSet → Harvest
  | statusVariables => StatusVariables.harvest
  | binaryLog => BinaryLog.harvest
  | replication => Replication.harvest
  | accounts => Accounts.harvest

/-- How a collector's run ended: with what it brought in, or out of time. -/
inductive Outcome where
  | finished (harvest : Harvest)
  | timedOut
  deriving DecidableEq

/-- A collector's run: the texts it executed, the time it ended, and how. -/
structure Run where
  executed : Log
  ended : Duration
  outcome : Outcome

namespace Outcome

/-- The samples sent. -/
def samples : Outcome → List Sample
  | finished h => h.samples
  | timedOut => []

/-- The run came to its end without a fault. -/
def succeeded : Outcome → Bool
  | finished h => h.fault.isNone
  | timedOut => false

end Outcome

/-- What comes of a fetch. -/
def outcomeOf (c : Collector) : FetchOutcome → Outcome
  | .rows rows => .finished (c.harvest rows)
  | .failed e => .finished (.failed (.query e))
  | .timedOut => .timedOut

/-- Runs a collector against a server from a time on. -/
def collect (c : Collector) (server : Server) (deadline : Deadline) (log : Log) (now : Duration) :
    Run :=
  let fetch := Fetch.run server deadline log now c.attempts
  ⟨fetch.executed, fetch.ended, c.outcomeOf fetch.outcome⟩

end Collector

end MysqlMetrics
