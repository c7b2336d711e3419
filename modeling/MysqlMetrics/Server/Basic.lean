import MysqlMetrics.Server.RowSet
import MysqlMetrics.Time.Duration

/-!
# Database servers

A server answers a query text with rows or refuses it, after some time, and its answer to the same
text may change from one execution to the next. It is therefore a function of the text and of how
often that text was executed before; a `Log` of executed texts is all there is to remember.

* `Server.answer` is the answer to the next execution of a text, given the log so far.
* `Server.overWire` is the same server seen through the client protocol, which delivers nothing of
  an answer without columns or rows and words refusals in its own way.
-/

namespace MysqlMetrics

/-- A server's refusal of a query. -/
structure Refusal where
  message : String
  code : Nat := 1064
  state : String := "42000"
  deriving DecidableEq, Repr

/-- The code and state of a refusal before its text. -/
def Refusal.render (r : Refusal) : String :=
  toString r.code ++ " (" ++ r.state ++ "): " ++ r.message

/-- Why a query brought no rows. -/
inductive QueryError where
  | refused (refusal : Refusal)
  | returned (refusal : Refusal)
  | unreachable
  | nothingToExecute
  deriving DecidableEq, Repr

/-- The wording of a failed query. -/
def QueryError.message : QueryError → String
  | .refused r => r.message
  | .returned r => "error returned from database: " ++ r.render ++ ": " ++ r.render
  | .unreachable => "the server can not be reached"
  | .nothingToExecute => "no query to execute"

/-- A server's answer and how long it takes. -/
structure Reply where
  result : Except QueryError RowSet
  delay : Duration := ⟨0⟩

/-- The texts executed so far, in order. -/
abbrev Log := List String

/-- A server: its reply to a text that was executed a number of times before. -/
structure Server where
  reply : String → Nat → Reply

namespace Server

/-- The reply to the next execution of a text. -/
def answer (server : Server) (log : Log) (sql : String) : Reply := server.reply sql (log.count sql)

/-- The refusal of a text that a server does not understand. -/
def syntaxError (sql : String) : Refusal :=
  { message := "You have an error in your SQL syntax near '" ++ sql ++ "'" }

/-- The replies in a list, one to each execution and the last one from then on; a text without
replies is not understood. -/
def ofReplies (replies : String → List Reply) : Server where
  reply sql n :=
    match (replies sql)[n]? with
    | some reply => reply
    | none => (replies sql).getLast?.getD { result := .error (.refused (syntaxError sql)) }

/-- A server that can not be reached. -/
def down : Server where
  reply _ _ := { result := .error .unreachable }

/-- An answer as the client protocol delivers it: columns come with the first row, and rows only if
there are columns. -/
def delivered : Except QueryError RowSet → Except QueryError RowSet
  | .ok rows => .ok (if rows.columns = [] ∨ rows.cells = [] then .empty else rows)
  | .error (.refused r) => .error (.returned r)
  | .error e => .error e

/-- A server seen through the client protocol. -/
def overWire (server : Server) : Server where
  reply sql n := { server.reply sql n with result := delivered (server.reply sql n).result }

end Server

end MysqlMetrics
