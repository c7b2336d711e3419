import MysqlMetrics.Proofs.Collector.Queries

/-!
# Fetches against a deadline

A fetch does what it would do without a deadline up to its first late reply, and there it ends. A
reply is late if it takes time and arrives after the alarm, the first whole millisecond that is not
before the deadline; a reply without delay is never late, not even after the alarm.

* `Server.delays`: how long the replies take that a fetch waits for, one after another.
* `IsLate`, `IsCut`: a reply of them that is late, and the first one.
* `Fetch.firstSuccess_of_punctual`, `Fetch.firstSuccess_of_cut`: a fetch without a late reply, and
  one that ends with it. `Fetch.outcome_eq_or_timedOut`: there is no third way to end.
* `Fetch.outcome_eq_timedOut_iff`: a fetch is out of time if it would end after the alarm.
* `Collector.collect_of_punctual`, `Collector.collect_of_cut`: the same of a collector's run.
  `Collector.succeeded_collect_iff`: what it takes to succeed in time.
-/

namespace MysqlMetrics

/-! ## Late replies -/

/-- The delays of the replies to texts that are executed one after another. -/
def Server.delays (server : Server) : Log → List String → List Duration
  | _, [] => []
  | log, sql :: rest => (server.answer log sql).delay :: server.delays (log ++ [sql]) rest

/-- The time when some delays are over, one after another. -/
def Duration.after (start : Duration) (delays : List Duration) : Duration :=
  delays.foldl (fun t d => ⟨t.nanoseconds + d.nanoseconds⟩) start

/-- The reply at place `i` takes time and arrives after the alarm. -/
def IsLate (alarm start : Duration) (delays : List Duration) (i : Nat) : Prop :=
  ∃ d, delays[i]? = some d ∧ 0 < d.nanoseconds ∧
    alarm.nanoseconds < (start.after (delays.take (i + 1))).nanoseconds

instance (alarm start : Duration) (delays : List Duration) (i : Nat) :
    Decidable (IsLate alarm start delays i) :=
  inferInstanceAs (Decidable (∃ d, delays[i]? = some d ∧ 0 < d.nanoseconds ∧
    alarm.nanoseconds < (start.after (delays.take (i + 1))).nanoseconds))

/-- The reply at place `i` is the first one that is late. -/
structure IsCut (alarm start : Duration) (delays : List Duration) (i : Nat) : Prop where
  late : IsLate alarm start delays i
  first : ∀ j < i, ¬ IsLate alarm start delays j

section Late

variable {alarm start d : Duration} {delays : List Duration} {i : Nat}

theorem not_isLate_nil : ¬ IsLate alarm start [] i := by
  rintro ⟨d, hd, -⟩
  cases hd

theorem isLate_zero : IsLate alarm start (d :: delays) 0 ↔
    0 < d.nanoseconds ∧ alarm.nanoseconds < start.nanoseconds + d.nanoseconds := by
  constructor
  · rintro ⟨d', hd', hpos, hlate⟩
    cases hd'
    exact ⟨hpos, hlate⟩
  · rintro ⟨hpos, hlate⟩
    exact ⟨d, rfl, hpos, hlate⟩

theorem isLate_succ : IsLate alarm start (d :: delays) (i + 1) ↔
    IsLate alarm ⟨start.nanoseconds + d.nanoseconds⟩ delays i := by
  have hafter : start.after ((d :: delays).take (i + 1 + 1)) =
      Duration.after ⟨start.nanoseconds + d.nanoseconds⟩ (delays.take (i + 1)) := rfl
  rw [IsLate, IsLate, hafter, List.getElem?_cons_succ]

/-- Replies without delay are never late. -/
theorem not_isLate_of_forall_zero (h : ∀ d ∈ delays, d.nanoseconds = 0) :
    ¬ IsLate alarm start delays i := by
  rintro ⟨d, hd, hpos, -⟩
  have := h d (List.mem_of_getElem? hd)
  omega

theorem IsCut.tail (h : IsCut alarm start (d :: delays) (i + 1)) :
    IsCut alarm ⟨start.nanoseconds + d.nanoseconds⟩ delays i where
  late := isLate_succ.mp h.late
  first j hj := fun hlate => h.first (j + 1) (Nat.succ_lt_succ hj) (isLate_succ.mpr hlate)

/-- A reply that is not late leaves the time at the alarm at the latest. -/
theorem le_alarm_of_not_isLate (h : ¬ IsLate alarm start (d :: delays) 0)
    (hstart : start.nanoseconds ≤ alarm.nanoseconds) :
    start.nanoseconds + d.nanoseconds ≤ alarm.nanoseconds := by
  rw [isLate_zero] at h
  omega

end Late

theorem Deadline.isMissed_iff {deadline now delay : Duration} {delays : List Duration} :
    isMissed (some deadline) now delay = true ↔
      IsLate deadline.ceilMilliseconds now (delay :: delays) 0 := by
  rw [isLate_zero]
  simp [isMissed, alarm?]

/-- Up to the alarm a reply is late exactly if it arrives after it. -/
theorem Deadline.isMissed_iff_lt {deadline now delay : Duration}
    (hnow : now.nanoseconds ≤ deadline.ceilMilliseconds.nanoseconds) :
    isMissed (some deadline) now delay = true ↔
      deadline.ceilMilliseconds.nanoseconds < now.nanoseconds + delay.nanoseconds := by
  have hlate : isMissed (some deadline) now delay = true ↔
      IsLate deadline.ceilMilliseconds now [delay] 0 := isMissed_iff
  rw [hlate, isLate_zero]
  omega

/-! ## Fetches -/

namespace Fetch

section Steps

variable {server : Server} {deadline : Deadline} {log : Log} {now : Duration} {error : QueryError}
  {sql : String} {rest : List String}

theorem firstSuccess_missed (h : deadline.isMissed now (server.answer log sql).delay = true) :
    firstSuccess server deadline log now error (sql :: rest) =
      ⟨[sql], deadline.givenUp now, .timedOut⟩ := by
  rw [firstSuccess]
  exact if_pos h

theorem firstSuccess_rows (h : ¬ deadline.isMissed now (server.answer log sql).delay = true)
    {rows : RowSet} (hreply : (server.answer log sql).result = .ok rows) :
    firstSuccess server deadline log now error (sql :: rest) =
      ⟨[sql], ⟨now.nanoseconds + (server.answer log sql).delay.nanoseconds⟩, .rows rows⟩ := by
  simp only [firstSuccess, if_neg h, hreply]

theorem firstSuccess_error (h : ¬ deadline.isMissed now (server.answer log sql).delay = true)
    {e : QueryError} (hreply : (server.answer log sql).result = .error e) :
    firstSuccess server deadline log now error (sql :: rest) =
      let later := firstSuccess server deadline (log ++ [sql])
        ⟨now.nanoseconds + (server.answer log sql).delay.nanoseconds⟩ e rest
      { later with executed := sql :: later.executed } := by
  simp only [firstSuccess, if_neg h, hreply]

end Steps

variable {server : Server} {deadline : Duration}

/-- Without a deadline nothing is missed. -/
theorem not_isMissed_none (now delay : Duration) :
    ¬ Deadline.isMissed none now delay = true := Bool.false_ne_true

/-- The first text is executed in any case. -/
private theorem executed_cons (server : Server) (log : Log) (now : Duration) (error : QueryError)
    (sql : String) (rest : List String) :
    ∃ others, (firstSuccess server none log now error (sql :: rest)).executed = sql :: others := by
  cases hreply : (server.answer log sql).result with
  | ok rows => exact ⟨[], by rw [firstSuccess_rows (not_isMissed_none _ _) hreply]⟩
  | error e => exact ⟨_, by rw [firstSuccess_error (not_isMissed_none _ _) hreply]⟩

/-- A fetch is out of time, or it ends as it does without a deadline, whenever it begins. -/
theorem outcome_eq_or_timedOut (limit : Deadline) (log : Log) (now now' : Duration)
    (error : QueryError) (texts : List String) :
    (firstSuccess server limit log now error texts).outcome = .timedOut ∨
      (firstSuccess server limit log now error texts).outcome =
        (firstSuccess server none log now' error texts).outcome := by
  induction texts generalizing log now now' error with
  | nil => exact .inr rfl
  | cons sql rest ih =>
    by_cases hmissed : limit.isMissed now (server.answer log sql).delay = true
    · rw [firstSuccess_missed hmissed]
      exact .inl rfl
    cases hreply : (server.answer log sql).result with
    | ok rows =>
      rw [firstSuccess_rows hmissed hreply, firstSuccess_rows (not_isMissed_none _ _) hreply]
      exact .inr rfl
    | error e =>
      rw [firstSuccess_error hmissed hreply, firstSuccess_error (not_isMissed_none _ _) hreply]
      exact ih _ _ _ _

/-- A fetch without a late reply does not notice its deadline. -/
theorem firstSuccess_of_punctual {log : Log} {now : Duration} {error : QueryError}
    {texts : List String} (h : ∀ i, ¬ IsLate deadline.ceilMilliseconds now
      (server.delays log (firstSuccess server none log now error texts).executed) i) :
    firstSuccess server (some deadline) log now error texts =
      firstSuccess server none log now error texts := by
  induction texts generalizing log now error with
  | nil => rfl
  | cons sql rest ih =>
    have hmissed : ¬ Deadline.isMissed (some deadline) now
        (server.answer log sql).delay = true := by
      obtain ⟨others, hothers⟩ := executed_cons server log now error sql rest
      rw [hothers] at h
      exact fun hmissed => h 0 (Deadline.isMissed_iff.mp hmissed)
    cases hreply : (server.answer log sql).result with
    | ok rows =>
      rw [firstSuccess_rows hmissed hreply, firstSuccess_rows (not_isMissed_none _ _) hreply]
    | error e =>
      rw [firstSuccess_error (not_isMissed_none _ _) hreply] at h ⊢
      rw [firstSuccess_error hmissed hreply, ih]
      exact fun i hlate => h (i + 1) (isLate_succ.mpr hlate)

/-- **A late reply ends the fetch.** Up to its first late reply a fetch executes what it executes
without a deadline; then it is out of time, at the alarm. -/
theorem firstSuccess_of_cut {log : Log} {now : Duration} {error : QueryError} {texts : List String}
    {i : Nat} (hnow : now.nanoseconds ≤ deadline.ceilMilliseconds.nanoseconds)
    (h : IsCut deadline.ceilMilliseconds now
      (server.delays log (firstSuccess server none log now error texts).executed) i) :
    firstSuccess server (some deadline) log now error texts =
      ⟨(firstSuccess server none log now error texts).executed.take (i + 1),
        deadline.ceilMilliseconds, .timedOut⟩ := by
  induction texts generalizing log now error i with
  | nil => exact absurd h.late not_isLate_nil
  | cons sql rest ih =>
    cases i with
    | zero =>
      obtain ⟨others, hothers⟩ := executed_cons server log now error sql rest
      rw [hothers] at h ⊢
      have hended : Deadline.givenUp (some deadline) now = deadline.ceilMilliseconds := by
        show (⟨max _ _⟩ : Duration) = _
        rw [Nat.max_eq_left hnow]
      rw [firstSuccess_missed (Deadline.isMissed_iff.mpr h.late), hended]
      rfl
    | succ i =>
      cases hreply : (server.answer log sql).result with
      | ok rows =>
        -- The fetch waits for one reply only.
        rw [firstSuccess_rows (not_isMissed_none _ _) hreply] at h
        exact absurd (isLate_succ.mp h.late) not_isLate_nil
      | error e =>
        rw [firstSuccess_error (not_isMissed_none _ _) hreply] at h ⊢
        have hfirst := h.first 0 (Nat.succ_pos i)
        have hmissed : ¬ Deadline.isMissed (some deadline) now
            (server.answer log sql).delay = true := fun hmissed =>
          hfirst (Deadline.isMissed_iff.mp hmissed)
        rw [firstSuccess_error hmissed hreply,
          ih (le_alarm_of_not_isLate hfirst hnow) h.tail]
        rfl

/-- A fetch does not end before it begins. -/
theorem le_ended (log : Log) (now : Duration) (error : QueryError) (texts : List String) :
    now.nanoseconds ≤ (firstSuccess server none log now error texts).ended.nanoseconds := by
  induction texts generalizing log now error with
  | nil => exact Nat.le_refl _
  | cons sql rest ih =>
    cases hreply : (server.answer log sql).result with
    | ok rows =>
      rw [firstSuccess_rows (not_isMissed_none _ _) hreply]
      exact Nat.le_add_right _ _
    | error e =>
      rw [firstSuccess_error (not_isMissed_none _ _) hreply]
      exact Nat.le_trans (Nat.le_add_right _ _) (ih _ _ _)

/-- **A fetch is out of time exactly if it would end after the alarm.** -/
theorem outcome_eq_timedOut_iff {log : Log} {now : Duration} {error : QueryError}
    {texts : List String} (hnow : now.nanoseconds ≤ deadline.ceilMilliseconds.nanoseconds) :
    (firstSuccess server (some deadline) log now error texts).outcome = .timedOut ↔
      deadline.ceilMilliseconds.nanoseconds <
        (firstSuccess server none log now error texts).ended.nanoseconds := by
  induction texts generalizing log now error with
  | nil => exact iff_of_false FetchOutcome.noConfusion (Nat.not_lt.mpr hnow)
  | cons sql rest ih =>
    by_cases hmissed :
        Deadline.isMissed (some deadline) now (server.answer log sql).delay = true
    · have hlate := (Deadline.isMissed_iff_lt hnow).mp hmissed
      rw [firstSuccess_missed hmissed]
      refine iff_of_true rfl ?_
      -- Without a deadline the fetch goes on, so it ends later still.
      cases hreply : (server.answer log sql).result with
      | ok rows => rwa [firstSuccess_rows (not_isMissed_none _ _) hreply]
      | error e =>
        rw [firstSuccess_error (not_isMissed_none _ _) hreply]
        exact Nat.lt_of_lt_of_le hlate (le_ended _ _ _ _)
    · have hlater := Nat.not_lt.mp (mt (Deadline.isMissed_iff_lt hnow).mpr hmissed)
      cases hreply : (server.answer log sql).result with
      | ok rows =>
        rw [firstSuccess_rows hmissed hreply, firstSuccess_rows (not_isMissed_none _ _) hreply]
        exact iff_of_false FetchOutcome.noConfusion (Nat.not_lt.mpr hlater)
      | error e =>
        rw [firstSuccess_error hmissed hreply, firstSuccess_error (not_isMissed_none _ _) hreply]
        exact ih hlater

/-- A fetch that begins before the alarm ends no later than the alarm. -/
theorem ended_le {log : Log} {now : Duration} {error : QueryError} {texts : List String}
    (hnow : now.nanoseconds ≤ deadline.ceilMilliseconds.nanoseconds) :
    (firstSuccess server (some deadline) log now error texts).ended.nanoseconds ≤
      deadline.ceilMilliseconds.nanoseconds := by
  induction texts generalizing log now error with
  | nil => exact hnow
  | cons sql rest ih =>
    by_cases hmissed :
        Deadline.isMissed (some deadline) now (server.answer log sql).delay = true
    · rw [firstSuccess_missed hmissed]
      exact Nat.max_le.mpr ⟨Nat.le_refl _, hnow⟩
    · have hlater := Nat.not_lt.mp (mt (Deadline.isMissed_iff_lt hnow).mpr hmissed)
      cases hreply : (server.answer log sql).result with
      | ok rows =>
        rw [firstSuccess_rows hmissed hreply]
        exact hlater
      | error e =>
        rw [firstSuccess_error hmissed hreply]
        exact ih hlater

end Fetch

/-! ## Runs of collectors -/

namespace Collector

variable {c : Collector} {server : Server} {deadline : Duration} {log : Log} {now : Duration}

/-- A run without a late reply is that without a deadline. -/
theorem collect_of_punctual (h : ∀ i, ¬ IsLate deadline.ceilMilliseconds now
    (server.delays log (c.collect server none log now).executed) i) :
    c.collect server (some deadline) log now = c.collect server none log now := by
  rw [collect, collect, Fetch.run, Fetch.run, Fetch.firstSuccess_of_punctual h]

/-- A run ends with its first late reply, at the alarm and with nothing brought in. -/
theorem collect_of_cut {i : Nat} (hnow : now.nanoseconds ≤ deadline.ceilMilliseconds.nanoseconds)
    (h : IsCut deadline.ceilMilliseconds now
      (server.delays log (c.collect server none log now).executed) i) :
    c.collect server (some deadline) log now =
      ⟨(c.collect server none log now).executed.take (i + 1), deadline.ceilMilliseconds,
        .timedOut⟩ := by
  rw [collect, Fetch.run, Fetch.firstSuccess_of_cut hnow h]
  rfl

/-- A run is out of time, or it ends as it does without a deadline, whenever it begins. -/
theorem collect_outcome_eq_or_timedOut (c : Collector) (server : Server) (limit : Deadline)
    (log : Log) (now now' : Duration) :
    (c.collect server limit log now).outcome = .timedOut ∨
      (c.collect server limit log now).outcome = (c.collect server none log now').outcome := by
  simp only [collect, Fetch.run]
  rcases @Fetch.outcome_eq_or_timedOut server limit log now now' .nothingToExecute c.attempts
    with h | h
  · exact .inl (congrArg c.outcomeOf h)
  · exact .inr (congrArg c.outcomeOf h)

/-- **Success in time.** A collector succeeds if it does so without a deadline, and no later than
the alarm. -/
theorem succeeded_collect_iff (hnow : now.nanoseconds ≤ deadline.ceilMilliseconds.nanoseconds) :
    (c.collect server (some deadline) log now).outcome.succeeded = true ↔
      (c.collect server none log now).outcome.succeeded = true ∧
        (c.collect server none log now).ended.nanoseconds ≤
          deadline.ceilMilliseconds.nanoseconds := by
  have hcut := @Fetch.outcome_eq_timedOut_iff server deadline log now .nothingToExecute c.attempts
    hnow
  simp only [collect, Fetch.run]
  by_cases hlate : deadline.ceilMilliseconds.nanoseconds <
      (Fetch.firstSuccess server none log now .nothingToExecute c.attempts).ended.nanoseconds
  · rw [hcut.mpr hlate]
    exact iff_of_false Bool.false_ne_true fun h => Nat.not_lt.mpr h.2 hlate
  · rw [(Fetch.outcome_eq_or_timedOut _ _ _ now _ _).resolve_left (mt hcut.mp hlate)]
    exact (and_iff_left (Nat.not_lt.mp hlate)).symm

theorem ended_collect_le (hnow : now.nanoseconds ≤ deadline.ceilMilliseconds.nanoseconds) :
    (c.collect server (some deadline) log now).ended.nanoseconds ≤
      deadline.ceilMilliseconds.nanoseconds :=
  Fetch.ended_le hnow

end Collector

end MysqlMetrics
