import MysqlMetrics.Http
import MysqlMetrics.Proofs.Metric.Labels
import MysqlMetrics.Proofs.Scrape.History

/-!
# Pages can be shown

The exposition of a page fails if a family has no name or no series, and it is ambiguous if a name
occurs twice or a family shows the same label values twice. Neither can happen, although names and
label values come from the server: the families of a block are grouped by name and their series by
label values, those of the monitor have one record for each collector, and the two have no name in
common.

* `Page.Presentable`: the page can be shown and is unambiguous.
* `Scrape.Shows.wellFormed`, `Monitor.Distinct.wellFormed`: the two halves of a page.
* `Exporter.presentable_scrape`: one scrape, whatever the monitor remembers; `Exporter.encodable`:
  any sequence of scrapes of an exporter, in any order of arrival.
* `Service.status_answers`: a service never fails to show its metrics.
-/

namespace MysqlMetrics

/-- Families that are well formed can be shown. -/
theorem Exposition.encode_of_wellFormed {families : List Family}
    (h : ∀ f ∈ families, f.WellFormed) :
    encode families = .ok (String.join ((lines families).map (· ++ "\n"))) := by
  have hfault : fault? families = none := by
    refine List.findSome?_eq_none_iff.mpr fun f hf => ?_
    have hseries : ¬ f.series.isEmpty = true := by
      rw [List.isEmpty_iff]
      exact (h f hf).shown
    rw [if_neg hseries, if_neg (h f hf).named]
  rw [encode, hfault]

/-! ## The families of the monitor -/

namespace Monitor

variable {m : Monitor}

/-- The series of records are labelled with the collectors, of which each has one record. -/
private theorem Distinct.nodup_values (h : m.Distinct) (metric help : String) (type : FamilyType)
    (reading? : RunRecord → Option Reading) :
    ((m.recordFamily metric help type reading?).series.map Series.values).Nodup := by
  refine (((Family.sortSeries_perm _).map _).nodup_iff).mpr (List.pairwise_map.mpr ?_)
  refine List.Pairwise.filterMap _ ?_ (List.pairwise_map.mp h)
  rintro ⟨name, r⟩ ⟨name', r'⟩ hne s hs s' hs' heq
  obtain ⟨reading, -, rfl⟩ := Option.map_eq_some_iff.mp hs
  obtain ⟨reading', -, rfl⟩ := Option.map_eq_some_iff.mp hs'
  simp only [labelled, Series.values, List.map_cons, List.map_nil, List.cons.injEq,
    and_true] at heq
  exact hne heq

theorem Distinct.wellFormed (h : m.Distinct) {f : Family} (hf : f ∈ m.families) :
    f.WellFormed := by
  obtain ⟨hmem, hshown⟩ := List.mem_filter.mp hf
  have hne : f.series ≠ [] := by
    intro hnil
    rw [hnil] at hshown
    cases hshown
  have hnamed : f.name ≠ "" := by
    intro hname
    have := mem_familyNames hf
    rw [hname] at this
    revert this
    decide
  refine ⟨hnamed, hne, ?_⟩
  simp only [List.mem_cons, List.not_mem_nil, or_false] at hmem
  rcases hmem with rfl | rfl | rfl | rfl | rfl
  · exact h.nodup_values _ _ _ _
  · exact h.nodup_values _ _ _ _
  · exact h.nodup_values _ _ _ _
  · exact List.nodup_singleton _
  · exact List.nodup_singleton _

theorem nodup_names (m : Monitor) : (m.families.map Family.name).Nodup := by
  have hsub : (m.families.map Family.name).Sublist familyNames :=
    List.Sublist.map Family.name List.filter_sublist
  exact hsub.nodup (by decide)

end Monitor

/-! ## Pages -/

namespace Scrape

variable {s : Scrape} {block : List Family}

theorem Shows.wellFormed (hs : s.Sound) (h : s.Shows block) {f : Family} (hf : f ∈ block) :
    f.WellFormed := by
  obtain ⟨order, harrives, rfl⟩ := h
  rw [hs.accepted_eq harrives] at hf
  have hcomplete : ∀ t ∈ order, t.isComplete = true :=
    List.filter_eq_self.mp (hs.accepted_eq harrives)
  exact (hs.regular harrives).wellFormed hcomplete hf

theorem Shows.nodup_names (h : s.Shows block) : (block.map Family.name).Nodup := by
  obtain ⟨order, -, rfl⟩ := h
  exact Family.nodup_names _

end Scrape

namespace Page

/-- Every family of the page can be shown and shows no label values twice, and no two families have
the same name. -/
structure Presentable (p : Page) : Prop where
  wellFormed : ∀ f ∈ p.families, f.WellFormed
  names : (p.families.map Family.name).Nodup

/-- A block before the families of a monitor. -/
theorem presentable {p : Page} (hs : p.scrape.Sound) (h : p.scrape.Shows p.current) {m : Monitor}
    (hm : m.Distinct) (hp : p.cumulative = m.families) : p.Presentable where
  wellFormed f hf := by
    rcases List.mem_append.mp hf with hf | hf
    · exact h.wellFormed hs hf
    · exact hm.wellFormed (hp ▸ hf)
  names := by
    rw [families, hp, List.map_append]
    refine List.nodup_append.mpr ⟨h.nodup_names, m.nodup_names, ?_⟩
    -- A name of the monitor is in no block.
    intro name hname name' hname' heq
    obtain ⟨f, hf, rfl⟩ := List.mem_map.mp hname
    obtain ⟨g, hg, rfl⟩ := List.mem_map.mp hname'
    exact h.name_not_mem hs hf (heq ▸ Monitor.mem_familyNames hg)

theorem Presentable.text_eq {p : Page} (h : p.Presentable) :
    p.text = .ok (String.join ((Exposition.lines p.families).map (· ++ "\n"))) :=
  Exposition.encode_of_wellFormed h.wellFormed

theorem Presentable.status_metrics {p : Page} (h : p.Presentable) (r : Request) :
    (Service.metrics r p).status = 200 := by
  rw [Service.metrics, h.text_eq]
  rfl

end Page

namespace Exporter

/-- One scrape, in whatever order its samples arrive. -/
theorem presentable_scrape {e : Exporter} (h : e.monitor.Distinct) (server : Server) (log : Log)
    (now budget : Duration) {block : List Family}
    (hblock : (e.scrape server log now budget).2.scrape.Shows block) :
    Page.Presentable { (e.scrape server log now budget).2 with current := block } :=
  Page.presentable (p := { (e.scrape server log now budget).2 with current := block })
    (Scrape.sound_scrape e server log now budget) hblock (h.remember _) rfl

theorem presentable_of_mem_pages {e : Exporter} (h : e.monitor.Distinct) {visits : List Visit}
    {page : Page} (hpage : page ∈ e.pages visits) {block : List Family}
    (hblock : page.scrape.Shows block) : Page.Presentable { page with current := block } := by
  induction visits generalizing e with
  | nil => cases hpage
  | cons v rest ih =>
    rcases List.mem_cons.mp hpage with rfl | hpage
    · exact presentable_scrape h v.server v.log v.start v.budget hblock
    · exact ih (h.remember _) hpage

/-- **Every scrape can be shown and is unambiguous.** Whatever collectors are switched on, however
many scrapes an exporter has made, each of a server and with a deadline of its own, and in whatever
order the samples of a scrape arrive: the page has a text, so that it is never answered with a fault
of the service; no name occurs twice on it; and every family has series, no two of them with the
same label values. -/
theorem encodable (settings : Settings) (visits : List Visit) {page : Page}
    (hpage : page ∈ Exporter.pages { settings } visits) {block : List Family}
    (hblock : page.scrape.Shows block) :
    let shown : Page := { page with current := block }
    (∃ text, shown.text = .ok text) ∧
      (∀ r : Request, (Service.metrics r shown).status = 200) ∧
      (shown.families.map Family.name).Nodup ∧
      ∀ f ∈ shown.families, f.series ≠ [] ∧ (f.series.map Series.values).Nodup := by
  intro shown
  have h : shown.Presentable := presentable_of_mem_pages Monitor.distinct_empty hpage hblock
  refine ⟨⟨_, h.text_eq⟩, h.status_metrics, h.names, fun f hf => ?_⟩
  exact ⟨(h.wellFormed f hf).shown, (h.wellFormed f hf).distinct⟩

theorem encodable_slowServer :
    let settings : Settings := { enabled := ["user", "global_status"] }
    let visits : List Visit := [⟨.down, [], ⟨0⟩, .ofWholeSeconds 1⟩,
      ⟨slowServer, [], .ofWholeSeconds 5, .ofWholeSeconds 1⟩]
    ∃ page, page ∈ Exporter.pages { settings } visits ∧ page.scrape.up = true ∧
      (∃ text, page.text = .ok text) ∧ (page.families.map Family.name).Nodup := by
  intro settings visits
  let before : Exporter := Exporter.after { settings } [⟨.down, [], ⟨0⟩, .ofWholeSeconds 1⟩]
  let page := (before.scrape slowServer [] (.ofWholeSeconds 5) (.ofWholeSeconds 1)).2
  have hpage : page ∈ Exporter.pages { settings } visits := List.mem_cons_of_mem _ (.head _)
  obtain ⟨htext, -, hnames, -⟩ :=
    encodable settings visits hpage (Scrape.shows_families page.scrape)
  exact ⟨page, hpage, by decide, htext, hnames⟩

end Exporter

/-! ## The service -/

namespace Service

/-- The answers to some requests, each made at a time, while a server is behind the exporter. -/
def answers (s : Service) : List (Server × Duration × Request) → List HttpResponse
  | [] => []
  | (server, now, r) :: rest =>
    (s.respond server now r).2 :: (s.respond server now r).1.answers rest

/-- A request is answered, or refused for its target or its method, and the monitor still has one
record for each collector. -/
theorem status_respond {s : Service} (h : s.exporter.monitor.Distinct) (server : Server)
    (now : Duration) (r : Request) :
    (s.respond server now r).2.status ∈ [200, 404, 405] ∧
      (s.respond server now r).1.exporter.monitor.Distinct := by
  unfold respond
  split
  · exact ⟨by simp [bare], h⟩
  split
  · exact ⟨by simp [bare], h⟩
  split
  · exact ⟨by simp [found], h⟩
  · exact ⟨by simp [found], h⟩
  · have hpage := Exporter.presentable_scrape h server s.log now
      (s.exporter.settings.budget r.timeout?) (Scrape.shows_families _)
    have hstatus := hpage.status_metrics r
    refine ⟨?_, h.remember _⟩
    show (metrics r _).status ∈ [200, 404, 405]
    exact hstatus ▸ List.mem_cons_self

theorem status_of_mem_answers {s : Service} (h : s.exporter.monitor.Distinct)
    {requests : List (Server × Duration × Request)} {response : HttpResponse}
    (hresponse : response ∈ s.answers requests) : response.status ∈ [200, 404, 405] := by
  induction requests generalizing s with
  | nil => cases hresponse
  | cons request rest ih =>
    obtain ⟨server, now, r⟩ := request
    obtain ⟨hstatus, hdistinct⟩ := status_respond h server now r
    rcases List.mem_cons.mp hresponse with rfl | hresponse
    · exact hstatus
    · exact ih hdistinct hresponse

/-- **No answer is a fault of the service**, whatever requests are made and whatever the servers
behind it reply. -/
theorem status_answers (settings : Settings) (requests : List (Server × Duration × Request))
    {response : HttpResponse} (hresponse : response ∈ Service.answers ⟨{ settings }, []⟩ requests) :
    response.status ∈ [200, 404, 405] :=
  status_of_mem_answers Monitor.distinct_empty hresponse

end Service

end MysqlMetrics
