import MysqlMetrics.Collector.Basic

/-!
# Queries of collectors

A collector reads nothing of a server but the answers to the texts that it executes itself, and no
text belongs to two collectors. How often other texts were executed before, and what they were
answered, makes no difference to it.

* `Server.AgreeOn`: two servers answer some texts alike from now on, execution by execution.
* `Collector.collect_congr`: a run is the same on servers that agree on the collector's texts.
* `Collector.eq_of_mem_attempts`: a text tells the collector.
-/

namespace MysqlMetrics

namespace Server

/-- With the executions in their logs behind them, both servers give the same replies to the next
executions of each of the texts: the first to the first, the second to the second, and so on. -/
def AgreeOn (texts : List String) (server : Server) (log : Log) (server' : Server) (log' : Log) :
    Prop :=
  ∀ sql ∈ texts, ∀ n, server.reply sql (log.count sql + n) = server'.reply sql (log'.count sql + n)

namespace AgreeOn

variable {texts : List String} {server server' : Server} {log log' : Log}

theorem mono {fewer : List String} (h : AgreeOn texts server log server' log')
    (hsub : ∀ sql ∈ fewer, sql ∈ texts) : AgreeOn fewer server log server' log' :=
  fun sql hsql => h sql (hsub sql hsql)

theorem answer_eq (h : AgreeOn texts server log server' log') {sql : String} (hsql : sql ∈ texts) :
    server.answer log sql = server'.answer log' sql := h sql hsql 0

/-- The same further executions on both sides leave the servers in agreement. -/
theorem append (h : AgreeOn texts server log server' log') (executed : Log) :
    AgreeOn texts server (log ++ executed) server' (log' ++ executed) := by
  intro sql hsql n
  have := h sql hsql (executed.count sql + n)
  simpa only [List.count_append, Nat.add_assoc] using this

/-- Executions of other texts do not count. -/
theorem of_append (server : Server) (log : Log) {executed : Log}
    (h : ∀ sql ∈ executed, sql ∉ texts) : AgreeOn texts server (log ++ executed) server log := by
  intro sql hsql n
  have hcount : executed.count sql = 0 := List.count_eq_zero.mpr fun hex => h sql hex hsql
  rw [List.count_append, hcount, Nat.add_zero]

/-- Servers that reply from lists agree where the lists do. -/
theorem ofReplies {replies replies' : String → List Reply}
    (h : ∀ sql ∈ texts, replies sql = replies' sql) (log : Log) :
    AgreeOn texts (.ofReplies replies) log (.ofReplies replies') log := by
  intro sql hsql n
  simp only [Server.ofReplies, h sql hsql]

end AgreeOn

end Server

namespace Fetch

/-- A fetch executes texts of its list only. -/
theorem mem_of_mem_executed {server : Server} {deadline : Deadline} {log : Log} {now : Duration}
    {error : QueryError} {texts : List String} {sql : String}
    (h : sql ∈ (firstSuccess server deadline log now error texts).executed) : sql ∈ texts := by
  induction texts generalizing log now error with
  | nil => cases h
  | cons text rest ih =>
    simp only [firstSuccess] at h
    split at h
    · exact List.mem_singleton.mp h ▸ List.mem_cons_self
    split at h
    · exact List.mem_singleton.mp h ▸ List.mem_cons_self
    · rcases List.mem_cons.mp h with rfl | h
      · exact List.mem_cons_self
      · exact List.mem_cons_of_mem _ (ih h)

/-- A fetch is the same on servers that agree on its texts. -/
theorem firstSuccess_congr {server server' : Server} {log log' : Log} {texts : List String}
    (h : Server.AgreeOn texts server log server' log') (deadline : Deadline) (now : Duration)
    (error : QueryError) :
    firstSuccess server deadline log now error texts =
      firstSuccess server' deadline log' now error texts := by
  induction texts generalizing log log' now error with
  | nil => rfl
  | cons text rest ih =>
    have hrest := (h.mono fun sql hsql => List.mem_cons_of_mem text hsql).append [text]
    simp only [firstSuccess, h.answer_eq List.mem_cons_self, ih hrest]

end Fetch

namespace Collector

theorem mem_attempts_of_mem_executed {c : Collector} {server : Server} {deadline : Deadline}
    {log : Log} {now : Duration} {sql : String}
    (h : sql ∈ (c.collect server deadline log now).executed) : sql ∈ c.attempts :=
  Fetch.mem_of_mem_executed h

/-- **No shared texts.** A query text tells the collector that executes it. -/
theorem eq_of_mem_attempts {c d : Collector} {sql : String} (hc : sql ∈ c.attempts)
    (hd : sql ∈ d.attempts) : c = d := by
  have hdisjoint : ∀ c d : Collector, c = d ∨ ∀ sql ∈ c.attempts, sql ∉ d.attempts := by
    intro c d
    cases c <;> cases d <;> decide
  exact (hdisjoint c d).resolve_right fun h => h sql hc hd

/-- **A run depends on its own answers.** A collector's run is the same on servers that agree on the
texts it tries, whatever they answer to any other. -/
theorem collect_congr {c : Collector} {server server' : Server} {log log' : Log}
    (h : Server.AgreeOn c.attempts server log server' log') (deadline : Deadline)
    (now : Duration) : c.collect server deadline log now = c.collect server' deadline log' now := by
  simp only [collect, Fetch.run, Fetch.firstSuccess_congr h]

end Collector

end MysqlMetrics
