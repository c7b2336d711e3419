import MysqlMetrics.Proofs.Collector.Timing

/-!
# The first text that is understood

Without a deadline a fetch is told by the answers alone. The server brings rows to one of the texts
and refuses those before it, or it refuses them all; its answers may change from one execution to
the next, so each text is answered after those before it.

* `Fetch.Obtains`, `Fetch.Refuses`: the two cases, and `Fetch.obtains_or_refuses`.
* `Fetch.Obtains.outcome_eq`, `Fetch.Refuses.outcome_eq`: how a fetch ends in each.
* `Fetch.Refuses.firstSuccess_append`: refused texts are passed over.
* `Collector.outcome_of_obtains`, `Collector.outcome_of_refuses`: what becomes of a collector's run.
* `Fetch.run_attempts`: what a fetch executes of its queries and their variants, and its result.
* `Server.exists_result_eq`: a server may answer the texts of a fetch in any way.
-/

namespace MysqlMetrics.Fetch

/-- Of some texts, executed one after another, the server refuses the first ones and brings `rows`
to the next. -/
inductive Obtains (server : Server) : Log → List String → RowSet → Prop
  | here {log : Log} {sql : String} {rest : List String} {rows : RowSet}
      (h : (server.answer log sql).result = .ok rows) : Obtains server log (sql :: rest) rows
  | later {log : Log} {sql : String} {rest : List String} {rows : RowSet} {e : QueryError}
      (h : (server.answer log sql).result = .error e)
      (hrest : Obtains server (log ++ [sql]) rest rows) : Obtains server log (sql :: rest) rows

/-- The server refuses each of some texts, executed one after another. -/
inductive Refuses (server : Server) : Log → List String → Prop
  | nil {log : Log} : Refuses server log []
  | cons {log : Log} {sql : String} {rest : List String} {e : QueryError}
      (h : (server.answer log sql).result = .error e)
      (hrest : Refuses server (log ++ [sql]) rest) : Refuses server log (sql :: rest)

variable {server : Server} {log : Log} {texts : List String} {rows : RowSet}

theorem obtains_or_refuses (server : Server) (log : Log) (texts : List String) :
    (∃ rows, Obtains server log texts rows) ∨ Refuses server log texts := by
  induction texts generalizing log with
  | nil => exact .inr .nil
  | cons sql rest ih =>
    cases h : (server.answer log sql).result with
    | ok rows => exact .inl ⟨rows, .here h⟩
    | error e =>
      rcases ih (log ++ [sql]) with ⟨rows, hrest⟩ | hrest
      · exact .inl ⟨rows, .later h hrest⟩
      · exact .inr (.cons h hrest)

theorem Obtains.outcome_eq (h : Obtains server log texts rows) (now : Duration)
    (error : QueryError) :
    (firstSuccess server none log now error texts).outcome = .rows rows := by
  induction h generalizing now error with
  | here h => rw [firstSuccess_rows (not_isMissed_none _ _) h]
  | later h _ ih =>
    rw [firstSuccess_error (not_isMissed_none _ _) h]
    exact ih _ _

theorem Refuses.outcome_eq (h : Refuses server log texts) (now : Duration) (error : QueryError) :
    ∃ e, (firstSuccess server none log now error texts).outcome = .failed e := by
  induction h generalizing now error with
  | nil => exact ⟨error, rfl⟩
  | cons h _ ih =>
    rw [firstSuccess_error (not_isMissed_none _ _) h]
    exact ih _ _

theorem Obtains.unique {rows' : RowSet} (h : Obtains server log texts rows)
    (h' : Obtains server log texts rows') : rows = rows' := by
  have := (h.outcome_eq ⟨0⟩ .nothingToExecute).symm.trans (h'.outcome_eq ⟨0⟩ .nothingToExecute)
  exact FetchOutcome.rows.inj this

theorem Obtains.not_refuses (h : Obtains server log texts rows) : ¬Refuses server log texts := by
  intro hrefuses
  obtain ⟨e, he⟩ := hrefuses.outcome_eq ⟨0⟩ .nothingToExecute
  rw [h.outcome_eq] at he
  cases he

/-! ## What is executed -/

theorem refuses_append {tried rest : List String} :
    Refuses server log (tried ++ rest) ↔
      Refuses server log tried ∧ Refuses server (log ++ tried) rest := by
  induction tried generalizing log with
  | nil => simp [Refuses.nil]
  | cons sql others ih =>
    constructor
    · rintro (_ | ⟨h, hrest⟩)
      obtain ⟨hothers, hrest⟩ := ih.mp hrest
      exact ⟨.cons h hothers, by simpa using hrest⟩
    · rintro ⟨_ | ⟨h, hothers⟩, hrest⟩
      exact .cons h (ih.mpr ⟨hothers, by simpa using hrest⟩)

/-- The rows come from one text, and those before it are refused. -/
theorem Obtains.exists_split (h : Obtains server log texts rows) :
    ∃ tried sql rest, texts = tried ++ sql :: rest ∧ Refuses server log tried ∧
      (server.answer (log ++ tried) sql).result = .ok rows := by
  induction h with
  | @here log sql rest rows h => exact ⟨[], sql, rest, rfl, .nil, by simpa using h⟩
  | @later log text others rows e h _ ih =>
    obtain ⟨tried, sql, rest, rfl, htried, hrows⟩ := ih
    exact ⟨text :: tried, sql, rest, rfl, .cons h htried, by simpa using hrows⟩

/-- Refused texts are executed and passed over. -/
theorem Refuses.firstSuccess_append {tried : List String} (h : Refuses server log tried)
    (now : Duration) (error : QueryError) (rest : List String) :
    ∃ now' error', firstSuccess server none log now error (tried ++ rest) =
      let later := firstSuccess server none (log ++ tried) now' error' rest
      { later with executed := tried ++ later.executed } := by
  induction h generalizing now error with
  | nil => exact ⟨now, error, by simp⟩
  | @cons log sql others e h _ ih =>
    obtain ⟨now', error', heq⟩ :=
      ih ⟨now.nanoseconds + (server.answer log sql).delay.nanoseconds⟩ e
    refine ⟨now', error', ?_⟩
    rw [List.cons_append, firstSuccess_error (not_isMissed_none _ _) h, heq]
    simp

/-- **The first text that is understood.** Of the queries, each as it is and then with each suffix,
a fetch executes those up to the first one that brings rows, and these rows are its result. If all
are refused it executes each of them once and ends with the refusal of the last one; without any
text to execute the error is one of its own. -/
theorem run_attempts (server : Server) (log : Log) (now : Duration)
    (queries suffixes : List String) :
    let texts := attempts queries suffixes
    let fetch := run server none log now texts
    (∃ tried sql rest rows, texts = tried ++ sql :: rest ∧ Refuses server log tried ∧
        (server.answer (log ++ tried) sql).result = .ok rows ∧
        fetch.executed = tried ++ [sql] ∧ fetch.outcome = .rows rows) ∨
      (Refuses server log texts ∧ fetch.executed = texts ∧ ∃ e, fetch.outcome = .failed e ∧
        ((texts = [] ∧ e.message = "no query to execute") ∨
          ∃ tried sql, texts = tried ++ [sql] ∧
            (server.answer (log ++ tried) sql).result = .error e)) := by
  intro texts fetch
  rcases obtains_or_refuses server log texts with ⟨rows, h⟩ | h
  · obtain ⟨tried, sql, rest, htexts, htried, hrows⟩ := h.exists_split
    obtain ⟨now', error', hfetch⟩ :=
      htried.firstSuccess_append now .nothingToExecute (sql :: rest)
    rw [firstSuccess_rows (not_isMissed_none _ _) hrows, ← htexts] at hfetch
    exact .inl ⟨tried, sql, rest, rows, htexts, htried, hrows, congrArg Fetch.executed hfetch,
      congrArg Fetch.outcome hfetch⟩
  · refine .inr ⟨h, ?_⟩
    rcases List.eq_nil_or_concat texts with hnil | ⟨tried, sql, htexts⟩
    · have hfetch : fetch = firstSuccess server none log now .nothingToExecute [] :=
        congrArg (run server none log now) hnil
      rw [hfetch, hnil]
      exact ⟨rfl, .nothingToExecute, rfl, .inl ⟨rfl, rfl⟩⟩
    · rw [List.concat_eq_append] at htexts
      rw [htexts] at h
      obtain ⟨htried, hlast⟩ := refuses_append.mp h
      cases hlast with
      | @cons _ _ _ e hlast _ =>
        obtain ⟨now', error', hfetch⟩ :=
          htried.firstSuccess_append now .nothingToExecute [sql]
        rw [firstSuccess_error (not_isMissed_none _ _) hlast, ← htexts] at hfetch
        refine ⟨?_, e, congrArg Fetch.outcome hfetch, .inr ⟨tried, sql, htexts, hlast⟩⟩
        rw [htexts]
        exact congrArg Fetch.executed hfetch

end MysqlMetrics.Fetch

namespace MysqlMetrics.Collector

variable {c : Collector} {server : Server} {log : Log}

/-- A collector reads the rows that it obtains. -/
theorem outcome_of_obtains {rows : RowSet} (h : Fetch.Obtains server log c.attempts rows)
    (now : Duration) : (c.collect server none log now).outcome = .finished (c.harvest rows) := by
  rw [collect, Fetch.run, h.outcome_eq]
  rfl

/-- A collector whose texts are all refused brings in nothing but a fault. -/
theorem outcome_of_refuses (h : Fetch.Refuses server log c.attempts) (now : Duration) :
    ∃ e, (c.collect server none log now).outcome = .finished (.failed e) := by
  obtain ⟨e, he⟩ := h.outcome_eq now .nothingToExecute
  rw [collect, Fetch.run, he]
  exact ⟨.query e, rfl⟩

end MysqlMetrics.Collector

namespace MysqlMetrics.Server

/-- A server may answer each execution of a fetch as it likes, whatever was executed before: its
place in the list is told by the text and by how often the text was executed. -/
theorem exists_result_eq (log : Log) (texts : List String)
    (result : Log → Except QueryError RowSet) :
    ∃ server : Server, ∀ tried sql rest, texts = tried ++ sql :: rest →
      (server.answer (log ++ tried) sql).result = result (log ++ tried) := by
  induction texts generalizing log with
  | nil => exact ⟨.down, by simp⟩
  | cons text others ih =>
    obtain ⟨server, hserver⟩ := ih (log ++ [text])
    refine ⟨⟨fun sql n => if sql = text ∧ n = log.count text then { result := result log }
      else server.reply sql n⟩, fun tried sql rest hsplit => ?_⟩
    cases tried with
    | nil =>
      cases hsplit
      simp [answer]
    | cons first tried =>
      cases hsplit
      -- The text was executed before, so this execution is not the one that is answered anew.
      have hlater : ¬(sql = text ∧ (log ++ text :: tried).count sql = log.count text) := by
        rintro ⟨rfl, hcount⟩
        simp at hcount
      have hanswer := hserver tried sql rest rfl
      rw [List.append_assoc, List.singleton_append] at hanswer
      rw [← hanswer, answer, answer]
      simp only [if_neg hlater]

end MysqlMetrics.Server
