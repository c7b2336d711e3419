import MysqlMetrics.Proofs.Monitor.Records
import MysqlMetrics.Proofs.Scrape.Status

/-!
# Pages of a scrape

A page shows the block of its scrape and then the families of the monitor. The two have no name in
common, and no collector owns a name of the monitor, so what a page shows under a name is in one of
the two.
-/

namespace MysqlMetrics

/-- No collector owns a family of the monitor. -/
theorem Collector.owns_familyName {name : String} (h : name ∈ Monitor.familyNames)
    (c : Collector) : c.owns name = false := by
  have : ∀ name ∈ Monitor.familyNames, c.owns name = false := by cases c <;> decide
  exact this name h

namespace Scrape

variable {s : Scrape} {block : List Family}

theorem Shows.name_not_mem (hs : s.Sound) (h : s.Shows block) {f : Family} (hf : f ∈ block) :
    f.name ∉ Monitor.familyNames := by
  obtain ⟨order, harrives, rfl⟩ := h
  rcases hs.own_or_owned harrives hf with ⟨d, hd, hname⟩ | ⟨c, hc⟩
  · have : ∀ d ∈ ownDescriptors, d.name ∉ Monitor.familyNames := by decide
    exact hname ▸ this d hd
  · intro hmem
    rw [Collector.owns_familyName hmem] at hc
    cases hc

end Scrape

namespace Monitor

/-- Any other name is in the block only. -/
theorem seriesOf_block (m : Monitor) (block : List Family) {name : String}
    (hname : name ∉ familyNames) :
    Family.seriesOf (block ++ m.families) name = Family.seriesOf block name := by
  have hnil : Family.seriesOf m.families name = [] :=
    Family.seriesOf_eq_nil fun f hf heq => hname (heq ▸ mem_familyNames hf)
  rw [Family.seriesOf_append, hnil, List.append_nil]

/-- The families that a collector owns are in the block. -/
theorem filter_owns_block (m : Monitor) (block : List Family) (c : Collector) :
    ((block ++ m.families).filter fun f => c.owns f.name) =
      block.filter fun f => c.owns f.name := by
  have hnil : (m.families.filter fun f => c.owns f.name) = [] :=
    List.filter_eq_nil_iff.mpr fun f hf => by
      simp [Collector.owns_familyName (mem_familyNames hf) c]
  rw [List.filter_append, hnil, List.append_nil]

end Monitor

end MysqlMetrics
