import MysqlMetrics.Text.Blank
import MysqlMetrics.Decimal.Reader
import MysqlMetrics.Time.Duration
import MysqlMetrics.Collector.Basic

/-!
# Settings of the exporter

Which collectors run, and how much time a scrape has. Whoever scrapes announces a timeout; the
scrape gets that timeout less an offset for sending the answer, if that leaves anything.

* `Settings.budget` is the time for one scrape; it is never zero (`budget_pos`).
* `Settings.collectors` lists the collectors that run, in their order.
-/

namespace MysqlMetrics

open MysqlMetrics.Text

/-- The names of the collectors that are switched on, and the time set aside for the answer. -/
structure Settings where
  enabled : List String := []
  offset : Duration := .ofMilliseconds 250
  deriving DecidableEq, Repr

namespace Settings

/-- The time for a scrape whose timeout is not known. -/
def defaultBudget : Duration := .ofWholeSeconds 30

/-- The collector of this name is switched on. -/
def isEnabled (s : Settings) (name : String) : Bool := decide (name ∈ s.enabled)

/-- The collectors that are switched on; names that no collector has do not count. -/
def collectors (s : Settings) : List Collector := Collector.all.filter fun c => s.isEnabled c.name

/-- The timeout that a text announces, a positive number of seconds. -/
def announced? (text : List Char) : Option Duration := do
  let x ← Decimal.read? (trim text)
  let d ← Duration.ofSeconds? x
  if d.nanoseconds = 0 then none else some d

/-- A timeout less the offset, or the whole timeout if the offset takes it all. -/
def lessOffset (s : Settings) (timeout : Duration) : Duration :=
  if s.offset.nanoseconds < timeout.nanoseconds then
    ⟨timeout.nanoseconds - s.offset.nanoseconds⟩
  else timeout

/-- The time for a scrape, given the announcement of its timeout. -/
def budget (s : Settings) (announcement : Option String) : Duration :=
  match announcement.bind fun text => announced? text.toList with
  | some timeout => s.lessOffset timeout
  | none => defaultBudget

theorem announced?_pos {text : List Char} {d : Duration} (h : announced? text = some d) :
    0 < d.nanoseconds := by
  simp only [announced?, Option.bind_eq_bind, Option.bind_eq_some_iff] at h
  obtain ⟨_, _, e, _, h⟩ := h
  split at h
  · cases h
  · cases h
    omega

theorem budget_pos (s : Settings) (announcement : Option String) :
    0 < (s.budget announcement).nanoseconds := by
  unfold budget
  split
  · rename_i timeout h
    obtain ⟨text, -, ht⟩ := Option.bind_eq_some_iff.mp h
    have := announced?_pos ht
    unfold lessOffset
    split
    · simp only
      omega
    · exact this
  · decide

end Settings

end MysqlMetrics
