import MysqlMetrics.Monitor.Session
import MysqlMetrics.Proofs.Monitor.Records

/-!
# Timers are recorded once

A timer that ends in success or in an error is finished then and once more when it goes out of use;
a timer that is given up is finished then only. Either way its run is recorded once, so what a
monitor counts can be told from the operations alone.

* `Operation.running`, `Operation.endings`: the timers that run after some operations, and those
  that ended, told without a session.
* `Session.Tells`: what a session has to do with the operations behind it. One more operation keeps
  it (`Tells.apply`), and so does any run (`Tells.run`).
* `Session.recorded_once`: what is counted and shown after any operations.
-/

namespace MysqlMetrics

/-! ## What happened -/

namespace Operation

/-- The collector of the timer that runs under an identifier after some operations, the latest of
them first. -/
def running (id : String) : List Operation → Option String
  | [] => none
  | .start other collector :: before =>
    if other = id then some collector else running id before
  | .finish other _ :: before => if other = id then none else running id before
  | .publish :: before | .setMetrics _ :: before | .readMetrics :: before
  | .countScrape :: before | .gather :: before => running id before

/-- The timer that an operation ends: its collector, and how it ends. -/
def ended? (before : List Operation) : Operation → Option (String × Ending)
  | .start id _ => (running id before).map (·, .givenUp)
  | .finish id ending => (running id before).map (·, ending)
  | .publish | .setMetrics _ | .readMetrics | .countScrape | .gather => none

/-- The timers that ended in some operations, the latest of them first. -/
def endings : List Operation → List (String × Ending)
  | [] => []
  | op :: before => (ended? before op).toList ++ endings before

/-- The operation starts a timer for the collector. -/
def isStart (collector : String) : Operation → Bool
  | .start _ name => name = collector
  | .finish _ _ | .publish | .setMetrics _ | .readMetrics | .countScrape | .gather => false

/-- The number of timers started for a collector. -/
def started (collector : String) (history : List Operation) : Nat :=
  history.countP (isStart collector)

/-- The number of timers of a collector that ended. -/
def ended (collector : String) (history : List Operation) : Nat :=
  (endings history).countP fun e => e.1 = collector

/-- The number of timers of a collector that ended by an error or were given up. -/
def failed (collector : String) (history : List Operation) : Nat :=
  (endings history).countP fun e => e.1 = collector ∧ e.2 ≠ .success

/-- The size that was set last, zero at first. -/
def lastMetrics : List Operation → Int
  | [] => 0
  | .setMetrics n :: _ => n
  | .start _ _ :: before | .finish _ _ :: before | .publish :: before | .readMetrics :: before
  | .countScrape :: before | .gather :: before => lastMetrics before

end Operation

namespace Session

open Operation (running endings started ended failed lastMetrics)

/-- The number of timers that run for a collector. -/
def live (s : Session) (collector : String) : Nat :=
  s.timers.countP fun t => t.2.collector = collector

/-- What a session has to do with the operations behind it, the latest of them first. -/
structure Tells (s : Session) (history : List Operation) : Prop where
  distinct : s.monitor.Distinct
  counted : s.monitor.Counted
  identifiers : (s.timers.map Prod.fst).Nodup
  unfinished : ∀ t ∈ s.timers, t.2.isDone = false
  timers : ∀ id, (s.timer? id).map Timer.collector = running id history
  balance : ∀ c, ended c history + s.live c = started c history
  runs : ∀ c, Monitor.runCount (s.monitor.record? c) = ended c history
  errors : ∀ c, Monitor.errorCount (s.monitor.record? c) = failed c history
  metricsTotal : s.monitor.metricsTotal = lastMetrics history
  scrapesTotal : s.monitor.scrapesTotal = history.count .countScrape
  published : s.published = if .publish ∈ history then familyOrder else []

theorem tells_nil : Tells {} [] where
  distinct := Monitor.distinct_empty
  counted := Monitor.counted_empty
  identifiers := List.nodup_nil
  unfinished := by simp
  timers _ := rfl
  balance _ := rfl
  runs _ := rfl
  errors _ := rfl
  metricsTotal := rfl
  scrapesTotal := rfl
  published := rfl

/-! ## Timers -/

section Timers

variable {s : Session} {id : String} {t : Timer}

theorem mem_of_timer? (h : s.timer? id = some t) : (id, t) ∈ s.timers := by
  obtain ⟨⟨key, u⟩, hfind, rfl⟩ := Option.map_eq_some_iff.mp h
  have hkey : key = id := by simpa using List.find?_some hfind
  exact hkey ▸ List.mem_of_find?_eq_some hfind

theorem timer?_without (s : Session) (m : Monitor) (id other : String) :
    ({ s with monitor := m, timers := s.without id } : Session).timer? other =
      if id = other then none else s.timer? other := by
  rw [timer?, without, List.find?_filter]
  by_cases h : id = other
  · subst h
    simp
  · rw [if_neg h, timer?]
    congr 2
    funext u
    by_cases hu : u.1 = other <;> simp [hu, Ne.symm h]

/-- Without a timer, one less runs for its collector. -/
theorem live_without (hids : (s.timers.map Prod.fst).Nodup) (h : s.timer? id = some t)
    (m : Monitor) (c : String) :
    s.live c = ({ s with monitor := m, timers := s.without id } : Session).live c +
      if t.collector = c then 1 else 0 := by
  obtain ⟨before, after, htimers⟩ := List.append_of_mem (mem_of_timer? h)
  have hother : ∀ u ∈ before ++ after, u.1 ≠ id := by
    rw [htimers, List.map_append, List.map_cons, List.nodup_middle, List.nodup_cons] at hids
    intro u hu heq
    rw [← List.map_append] at hids
    exact hids.1 (List.mem_map.mpr ⟨u, hu, heq⟩)
  have hwithout : s.without id = before ++ after := by
    rw [without, htimers, List.filter_append, List.filter_cons_of_neg (by simp),
      ← List.filter_append]
    exact List.filter_eq_self.mpr fun u hu => decide_eq_true (hother u hu)
  rw [live, live, hwithout, htimers, List.countP_append, List.countP_cons, List.countP_append]
  simp only [decide_eq_true_eq]
  omega

/-- A timer that is not done is recorded once when it ends, whichever way. -/
theorem close_of_running (h : t.isDone = false) (m : Monitor) (now : Duration) (ending : Ending) :
    close m t now ending = m.record t.collector ⟨now.nanoseconds - t.started.nanoseconds⟩ now
      (decide (ending = .success)) := by
  cases ending with
  | success => exact m.conclude_of_running h now true
  | error => exact m.conclude_of_running h now false
  | givenUp => exact m.discard_of_running h now

theorem finish_of_none (h : s.timer? id = none) (now : Duration) (ending : Ending) :
    s.finish now id ending = s := by
  simp only [finish, h]

theorem finish_of_some (h : s.timer? id = some t) (now : Duration) (ending : Ending) :
    s.finish now id ending =
      { s with monitor := close s.monitor t now ending, timers := s.without id } := by
  simp only [finish, h]

end Timers

/-! ## Operations -/

section Operations

variable {s : Session} {history : List Operation}

theorem started_cons (c : String) (op : Operation) (history : List Operation) :
    started c (op :: history) = started c history + if op.isStart c then 1 else 0 :=
  List.countP_cons

theorem ended_finish (c id : String) (ending : Ending) (history : List Operation) :
    ended c (.finish id ending :: history) =
      ended c history + if running id history = some c then 1 else 0 := by
  cases h : running id history with
  | none => simp [ended, endings, Operation.ended?, h]
  | some name =>
    by_cases hc : name = c <;>
      simp [ended, endings, Operation.ended?, h, hc, Nat.add_comm]

theorem failed_finish (c id : String) (ending : Ending) (history : List Operation) :
    failed c (.finish id ending :: history) =
      failed c history + if running id history = some c ∧ ending ≠ .success then 1 else 0 := by
  cases h : running id history with
  | none => simp [failed, endings, Operation.ended?, h]
  | some name =>
    by_cases hc : name = c ∧ ending ≠ .success <;>
      simp [failed, endings, Operation.ended?, h, hc, Nat.add_comm]

/-- If no timer runs under the identifier, nothing ends. -/
theorem Tells.finish_of_none (h : s.Tells history) {id : String} (hid : s.timer? id = none)
    (ending : Ending) : s.Tells (.finish id ending :: history) := by
  have hrunning : running id history = none := by rw [← h.timers, hid]; rfl
  refine { h with timers := ?_, balance := ?_, runs := ?_, errors := ?_, published := ?_ }
  · intro other
    by_cases hother : id = other
    · subst hother
      simp [running, hid]
    · simp [running, hother, h.timers]
  · intro c
    simpa [ended_finish, hrunning, started_cons, Operation.isStart] using h.balance c
  · intro c
    simpa [ended_finish, hrunning] using h.runs c
  · intro c
    simpa [failed_finish, hrunning] using h.errors c
  · simpa using h.published

/-- A timer that runs under the identifier is recorded, and does not run any more. -/
theorem Tells.finish_of_some (h : s.Tells history) {id : String} {t : Timer}
    (hid : s.timer? id = some t) (now : Duration) (ending : Ending) :
    ({ s with monitor := close s.monitor t now ending, timers := s.without id } : Session).Tells
      (.finish id ending :: history) := by
  have hrunning : running id history = some t.collector := by rw [← h.timers, hid]; rfl
  have hclose := close_of_running (h.unfinished _ (mem_of_timer? hid)) s.monitor now ending
  have hlive := live_without h.identifiers hid (close s.monitor t now ending)
  refine
    { h with
      distinct := ?_, counted := ?_, identifiers := ?_, unfinished := ?_, timers := ?_,
      balance := ?_, runs := ?_, errors := ?_, metricsTotal := ?_, scrapesTotal := ?_,
      published := ?_ }
  · rw [hclose]
    exact h.distinct.record _ _ _ _
  · rw [hclose]
    exact h.counted.record _ _ _ _
  · exact (List.filter_sublist.map _).nodup h.identifiers
  · exact fun u hu => h.unfinished u (List.mem_filter.mp hu).1
  · intro other
    rw [timer?_without, running]
    split
    · rfl
    · exact h.timers other
  · intro c
    have hbalance := h.balance c
    have hlive := hlive c
    have hstart : (Operation.finish id ending).isStart c = false := rfl
    rw [ended_finish, hrunning, started_cons, hstart]
    simp only [Option.some_inj, Bool.false_eq_true, if_false]
    omega
  · intro c
    rw [hclose, Monitor.runCount_record, h.runs, ended_finish, hrunning]
    simp only [Option.some_inj]
  · intro c
    rw [hclose, Monitor.errorCount_record, h.errors, failed_finish, hrunning]
    simp only [Option.some_inj, decide_eq_false_iff_not, ne_eq]
  · rw [hclose]
    exact h.metricsTotal
  · rw [hclose]
    exact h.scrapesTotal
  · simpa using h.published

theorem Tells.finish (h : s.Tells history) (now : Duration) (id : String) (ending : Ending) :
    (s.finish now id ending).Tells (.finish id ending :: history) := by
  cases hid : s.timer? id with
  | none =>
    rw [Session.finish_of_none hid]
    exact h.finish_of_none hid ending
  | some t =>
    rw [Session.finish_of_some hid]
    exact h.finish_of_some hid now ending

/-- Starting a timer gives up an older one of its identifier. -/
theorem Tells.start (h : s.Tells history) (now : Duration) (id collector : String) :
    (s.start now id collector).Tells (.start id collector :: history) := by
  have hgivenUp := h.finish now id .givenUp
  -- The older timer has ended, so the identifier is free.
  have hnone : (s.finish now id .givenUp).timer? id = none := by
    have htimer := hgivenUp.timers id
    rw [running, if_pos rfl] at htimer
    exact Option.map_eq_none_iff.mp htimer
  refine
    { hgivenUp with
      identifiers := ?_, unfinished := ?_, timers := ?_, balance := ?_, scrapesTotal := ?_,
      published := ?_ }
  · refine List.nodup_cons.mpr ⟨fun hmem => ?_, hgivenUp.identifiers⟩
    obtain ⟨t, ht, hname⟩ := List.mem_map.mp hmem
    have hfind := List.find?_eq_none.mp (Option.map_eq_none_iff.mp hnone) t ht
    exact hfind (by simpa using hname)
  · intro t ht
    rcases List.mem_cons.mp ht with rfl | ht
    · rfl
    · exact hgivenUp.unfinished t ht
  · intro other
    have htimer := hgivenUp.timers other
    by_cases hother : id = other
    · simp [Session.start, timer?, running, hother]
    · simp only [running, if_neg hother] at htimer ⊢
      rw [← htimer, Session.start, timer?, List.find?_cons_of_neg (by simpa using hother), timer?]
  · intro c
    have hbalance := hgivenUp.balance c
    have hended : ended c (.start id collector :: history) =
        ended c (.finish id .givenUp :: history) := rfl
    have hlive : (s.start now id collector).live c =
        (s.finish now id .givenUp).live c + if collector = c then 1 else 0 := by
      rw [live, Session.start, List.countP_cons, live]
      simp only [decide_eq_true_eq]
    rw [started_cons] at hbalance ⊢
    simp only [Operation.isStart, decide_eq_true_eq, Bool.false_eq_true, if_false] at hbalance ⊢
    omega
  · exact hgivenUp.scrapesTotal.trans (by simp)
  · exact hgivenUp.published.trans (by simp)

/-- Families that are not published yet are published all. -/
theorem publish_of_not_mem {names : List String} (hnodup : names.Nodup)
    (h : ∀ name ∈ names, name ∉ s.published) :
    s.publish names = ({ s with published := s.published ++ names }, .done) := by
  induction names generalizing s with
  | nil => simp [publish]
  | cons name rest ih =>
    rw [List.nodup_cons] at hnodup
    rw [publish, if_neg (h name List.mem_cons_self), ih hnodup.2]
    · simp
    · intro other hother hmem
      rcases List.mem_append.mp hmem with hmem | hmem
      · exact h other (List.mem_cons_of_mem name hother) hmem
      · exact hnodup.1 (List.mem_singleton.mp hmem ▸ hother)

/-- The families are published all at once, or a second time and then nothing changes. -/
theorem Tells.publish_eq (h : s.Tells history) :
    s.publish familyOrder =
      if .publish ∈ history then (s, .alreadyPublished)
      else ({ s with published := familyOrder }, .done) := by
  have hpublished := h.published
  split at hpublished
  · rename_i hmem
    rw [if_pos hmem, familyOrder, publish, if_pos]
    rw [hpublished]
    exact List.mem_cons_self
  · rename_i hmem
    rw [if_neg hmem, publish_of_not_mem (by decide) (by simp [hpublished]), hpublished]
    rfl

/-- **One operation.** What a session tells of the operations behind it, it tells of one more. -/
theorem Tells.apply (h : s.Tells history) (now : Duration) (through : Handle) (op : Operation) :
    (s.apply now through op).1.Tells (op :: history) := by
  -- Only starts and ends touch the timers and the records.
  have hbalance (hop : ∀ c, op.isStart c = false) (c : String) :
      ended c history + s.live c = started c (op :: history) := by
    rw [started_cons, hop]
    exact h.balance c
  have hscrapes (hop : op ≠ .countScrape) :
      s.monitor.scrapesTotal = (op :: history).count .countScrape := by
    rw [List.count_cons_of_ne hop]
    exact h.scrapesTotal
  have hpublished (hop : op ≠ .publish) :
      s.published = if .publish ∈ op :: history then familyOrder else [] := by
    simpa [hop.symm] using h.published
  cases op with
  | publish =>
    have hall : (s.publish familyOrder).1 = { s with published := familyOrder } := by
      have hpublished := h.published
      rw [h.publish_eq]
      split
      · rename_i hmem
        rw [if_pos hmem] at hpublished
        rw [← hpublished]
      · rfl
    rw [Session.apply, hall]
    exact
      { h with
        balance := hbalance fun _ => rfl, scrapesTotal := hscrapes nofun,
        published := (if_pos List.mem_cons_self).symm }
  | start id collector => exact h.start now id collector
  | finish id ending => exact h.finish now id ending
  | setMetrics n =>
    exact
      { h with
        balance := hbalance fun _ => rfl, metricsTotal := rfl, scrapesTotal := hscrapes nofun,
        published := hpublished nofun }
  | countScrape =>
    have htotal : s.monitor.scrapesTotal + 1 = (Operation.countScrape :: history).count
        .countScrape := by
      rw [List.count_cons_self, h.scrapesTotal]
    exact
      { h with
        balance := hbalance fun _ => rfl, scrapesTotal := htotal,
        published := hpublished nofun }
  | readMetrics | gather =>
    exact
      { h with
        balance := hbalance fun _ => rfl, scrapesTotal := hscrapes nofun,
        published := hpublished nofun }

end Operations

/-! ## Runs -/

/-- **A run of operations.** A session tells of all operations that were carried out on it. -/
theorem Tells.run {s : Session} {history : List Operation} (h : s.Tells history)
    (steps : List (Duration × Handle × Operation)) :
    (s.run steps).1.Tells ((steps.map fun step => step.2.2).reverse ++ history) := by
  induction steps generalizing s history with
  | nil => exact h
  | cons step rest ih =>
    obtain ⟨now, through, op⟩ := step
    have hrest : (s.run ((now, through, op) :: rest)).1 =
        ((s.apply now through op).1.run rest).1 := rfl
    rw [hrest, List.map_cons, List.reverse_cons, List.append_assoc]
    exact ih (h.apply now through op)

/-- After a publication all families of the monitor are shown. -/
theorem shown_eq {s : Session} {history : List Operation} (h : s.Tells history) :
    s.shown = if .publish ∈ history then s.monitor.families else [] := by
  have horder : ∀ name ∈ Monitor.familyNames, name ∈ familyOrder := by decide
  rw [shown, h.published]
  split
  · exact List.filter_eq_self.mpr fun f hf =>
      decide_eq_true (horder _ (Monitor.mem_familyNames hf))
  · simp

/-- **Every timer is recorded once.** After any operations on a session, through any handles: of
each collector as many timers were started as were recorded or still run, and as many errors were
counted as timers ended by an error or were given up; there is a time of a last run if any was
recorded; the totals are the size set last and the number of scrapes counted. The families show
just that. All handles see the same, and a second publication is refused and changes nothing. -/
theorem recorded_once (steps : List (Duration × Handle × Operation)) :
    let s := (Session.run {} steps).1
    let history := (steps.map fun step => step.2.2).reverse
    let families := s.monitor.families
    (∀ id, (s.timer? id).map Timer.collector = running id history) ∧
      (∀ collector,
        let runs := Monitor.runCount (s.monitor.record? collector)
        let errors := Monitor.errorCount (s.monitor.record? collector)
        runs + s.live collector = started collector history ∧
        runs = ended collector history ∧ errors = failed collector history ∧
        (Family.readings families "mysql_exporter_collector_scrape_duration_seconds"
            [("collector", collector)]).map Reading.observations? =
          (if runs = 0 then [] else [some runs]) ∧
        Family.readings families "mysql_exporter_collector_scrape_errors_total"
            [("collector", collector)] =
          (if errors = 0 then [] else [.single (Decimal.ofNatural64 errors)]) ∧
        (Family.readings families "mysql_exporter_collector_last_scrape_timestamp_seconds"
            [("collector", collector)] ≠ [] ↔ 0 < runs)) ∧
      s.monitor.metricsTotal = lastMetrics history ∧
      s.monitor.scrapesTotal = history.count .countScrape ∧
      Family.seriesOf families "mysql_exporter_metrics_total" =
        [⟨[], .single (Decimal.ofInteger64 (lastMetrics history))⟩] ∧
      Family.seriesOf families "mysql_exporter_scrapes_total" =
        [⟨[], .single (Decimal.ofNatural64 (history.count .countScrape))⟩] ∧
      ∀ now through,
        s.apply now through .readMetrics = (s, .metrics (lastMetrics history)) ∧
        s.apply now through .gather =
          (s, .gathered (if .publish ∈ history then families else [])) ∧
        s.apply now through .publish =
          if .publish ∈ history then (s, .alreadyPublished)
          else ({ s with published := familyOrder }, .done) := by
  intro s history families
  have h : s.Tells history := by simpa using tells_nil.run steps
  refine ⟨h.timers, fun collector => ⟨?_, h.runs collector, h.errors collector, ?_⟩,
    h.metricsTotal, h.scrapesTotal, ?_, ?_, fun now through => ⟨?_, ?_, h.publish_eq⟩⟩
  · rw [h.runs]
    exact h.balance collector
  · exact h.distinct.readings_counts collector (h.counted collector)
  · rw [Monitor.seriesOf_metricsTotal, h.metricsTotal]
  · rw [Monitor.seriesOf_scrapesTotal, h.scrapesTotal]
  · rw [Session.apply, h.metricsTotal]
  · rw [Session.apply, shown_eq h]

end Session
end MysqlMetrics
