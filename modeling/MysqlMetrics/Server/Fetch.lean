import MysqlMetrics.Server.Basic

/-!
# Fetching rows

Servers differ in the queries they understand, so rows are fetched by a list of texts, tried in
order until one brings rows. A fetch runs against a clock: an answer that arrives after the deadline
ends it without a result. An answer without delay is never late. Timers go off at whole
milliseconds, so a deadline between two of them counts as the later one.

* `Fetch.attempts` is the list of texts: each query itself, then with each suffix.
* `Fetch.firstSuccess` tries them; `executed` lists what it sent to the server.
-/

namespace MysqlMetrics

/-- How a fetch ended. -/
inductive FetchOutcome where
  | rows (rows : RowSet)
  | failed (error : QueryError)
  | timedOut
  deriving DecidableEq, Repr

/-- A finished fetch: the texts it executed, the time it ended, and how. -/
structure Fetch where
  executed : Log
  ended : Duration
  outcome : FetchOutcome
  deriving DecidableEq, Repr

/-- The time an operation has to be over, if there is one. -/
abbrev Deadline := Option Duration

namespace Deadline

/-- The time at which the timer of a deadline goes off. -/
def alarm? (deadline : Deadline) : Option Duration := deadline.map Duration.ceilMilliseconds

/-- An answer that takes `delay` from `now` on comes too late. -/
def isMissed (deadline : Deadline) (now delay : Duration) : Bool :=
  match deadline.alarm? with
  | none => false
  | some d => 0 < delay.nanoseconds && d.nanoseconds < now.nanoseconds + delay.nanoseconds

/-- The time at which an operation that misses its deadline is given up. -/
def givenUp (deadline : Deadline) (now : Duration) : Duration :=
  match deadline.alarm? with
  | none => now
  | some d => ⟨max d.nanoseconds now.nanoseconds⟩

end Deadline

namespace Fetch

/-- Each query as it is, then followed by each suffix. -/
def attempts (queries suffixes : List String) : List String :=
  queries.flatMap fun q => q :: suffixes.map (q ++ ·)

/-- Executes texts until one brings rows. The error of the last one executed is that of the fetch;
`error` is the error so far. -/
def firstSuccess (server : Server) (deadline : Deadline) (log : Log) (now : Duration)
    (error : QueryError) : List String → Fetch
  | [] => ⟨[], now, .failed error⟩
  | sql :: rest =>
    let reply := server.answer log sql
    if deadline.isMissed now reply.delay then ⟨[sql], deadline.givenUp now, .timedOut⟩
    else
      let now : Duration := ⟨now.nanoseconds + reply.delay.nanoseconds⟩
      match reply.result with
      | .ok rows => ⟨[sql], now, .rows rows⟩
      | .error error =>
        let later := firstSuccess server deadline (log ++ [sql]) now error rest
        { later with executed := sql :: later.executed }

/-- Fetches the rows of the first text that brings any. -/
def run (server : Server) (deadline : Deadline) (log : Log) (now : Duration)
    (texts : List String) : Fetch :=
  firstSuccess server deadline log now .nothingToExecute texts

end Fetch

end MysqlMetrics
