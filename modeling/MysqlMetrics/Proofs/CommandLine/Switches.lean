import Mathlib.Data.List.Chain
import MysqlMetrics.CommandLine.Reader
import MysqlMetrics.Launch
import MysqlMetrics.Proofs.Checked
import MysqlMetrics.Proofs.Scrape.Runs

/-!
# The last switch wins

A collector is switched on and off by arguments that may come any number of times, among other
options. What the reader has in force is the last of them.

* `switched`: the switches for a collector among the arguments.
* `Reader.switches_argument`, `Reader.argument_switch`: what one argument does to the switches that
  are in force.
* `InForce`: the switches in force are the last ones. One argument keeps this (`InForce.argument`),
  and so do all (`InForce.arguments`).
* `Reader.read_switches_iff`: which command lines of switches alone are accepted.
* `Reader.last_switch_wins`: the collectors of an accepted command line.
-/

namespace MysqlMetrics.CommandLine

/-! ## Switches among the arguments -/

/-- The argument that is the switch. -/
def Switch.argument (s : Switch) : String := "--" ++ s.name

/-- The switches for a collector among the arguments, in their order: whether each is for on. -/
def switched (c : Collector) (args : List String) : List Bool :=
  args.filterMap fun a =>
    if a = "--collector." ++ c.name then some true
    else if a = "--no-collector." ++ c.name then some false
    else none

theorem switched_append (c : Collector) (args args' : List String) :
    switched c (args ++ args') = switched c args ++ switched c args' :=
  List.filterMap_append

theorem switched_argument (c : Collector) (s : Switch) :
    switched c [s.argument] = if s.collector = c then [s.on] else [] := by
  obtain ⟨d, on⟩ := s
  cases c <;> cases d <;> cases on <;> decide

theorem switched_of_ne {a : String} (h : ∀ s : Switch, a ≠ s.argument) (c : Collector) :
    switched c [a] = [] := by
  have hon : a ≠ "--collector." ++ c.name := by
    intro heq
    refine h ⟨c, true⟩ (heq.trans ?_)
    cases c <;> rfl
  have hoff : a ≠ "--no-collector." ++ c.name := by
    intro heq
    refine h ⟨c, false⟩ (heq.trans ?_)
    cases c <;> rfl
  simp [switched, hon, hoff]

theorem Choice.short?_ne_switch {c : Char} {f : Flag} (h : Choice.short? c = some (.flag f))
    (s : Switch) : f ≠ .switch s := by
  rintro rfl
  have hletter := List.find?_some h
  simp [Choice.letter?, Flag.letter?] at hletter

/-! ## What leaves the switches alone -/

namespace Given

variable {g g' : Given}

/-- A setting is given its value whatever the switches are. -/
theorem set_switches (g : Given) (switches : List Switch) (s : Setting) (text : String) :
    { g with switches }.set s text = (g.set s text).map fun g => { g with switches } := by
  cases s with
  | port => cases hread : readPort text <;> simp [set, hread, Except.map]
  | listen => rfl
  | dsn => rfl
  | timeoutOffset => cases hread : readOffset text <;> simp [set, hread, Except.map]

theorem switches_set {s : Setting} {text : String} (h : g.set s text = .ok g') :
    g'.switches = g.switches := by
  have hsame : g.set s text = (g.set s text).map fun g' => { g' with switches := g.switches } :=
    set_switches g g.switches s text
  rw [h] at hsame
  have hg : g' = { g' with switches := g.switches } := Except.ok.inj hsame
  exact (congrArg Given.switches hg).trans rfl

theorem switches_enter {s : Setting} {text : String} (h : g.enter s text = .ok g') :
    g'.switches = g.switches := by
  unfold enter at h
  split at h
  · cases h
  · exact switches_set (mapError_eq_ok.mp h)

/-- The environment gives its values whatever the switches are. -/
theorem fill_switches (environment : String → Option String) (g : Given) (switches : List Switch)
    (settings : List Setting) :
    { g with switches }.fill environment settings =
      (g.fill environment settings).map fun g => { g with switches } := by
  induction settings generalizing g with
  | nil => rfl
  | cons s rest ih =>
    have hhas : { g with switches }.has s = g.has s := by cases s <;> rfl
    simp only [fill, hhas, set_switches]
    cases environment s.variableName with
    | none => exact ih g
    | some text =>
      simp only
      split
      · exact ih g
      · cases g.set s text with
        | error cause => rfl
        | ok g => exact ih g

theorem switches_fill {environment : String → Option String} {settings : List Setting}
    (h : g.fill environment settings = .ok g') : g'.switches = g.switches := by
  have hsame : g.fill environment settings =
      (g.fill environment settings).map fun g' => { g' with switches := g.switches } :=
    fill_switches environment g g.switches settings
  rw [h] at hsame
  have hg : g' = { g' with switches := g.switches } := Except.ok.inj hsame
  exact (congrArg Given.switches hg).trans rfl

theorem switches_press {f : Flag} (hf : ∀ s, f ≠ .switch s) (h : g.press f = .ok g') :
    g'.switches = g.switches := by
  cases f with
  | verbose =>
    cases h
    rfl
  | switch s => exact absurd rfl (hf s)
  | help => cases h
  | version => cases h

theorem throwSwitch_eq_ok {s : Switch} : g.throwSwitch s = .ok g' ↔ s ∉ g.switches ∧
    g' = { g with switches := s :: g.switches.filter (· ≠ s.opposite) } := by
  unfold throwSwitch
  split
  · simp [*]
  · simp [*, eq_comm]

end Given

namespace Reader

variable {r r' : Reader}

theorem switches_settle (h : r.settle = .ok r') : r'.given.switches = r.given.switches := by
  unfold settle at h
  split at h
  · cases h
    rfl
  · cases h
  · obtain ⟨g, hg, rfl⟩ := map_eq_ok.mp h
    exact Given.switches_enter hg

theorem switches_attached {s : Setting} {text : List Char} (h : r.attached s text = .ok r') :
    r'.given.switches = r.given.switches := by
  obtain ⟨r₁, hsettle, h⟩ := bind_eq_ok.mp h
  obtain ⟨g, henter, h⟩ := bind_eq_ok.mp h
  cases h
  rw [← switches_settle hsettle]
  exact Given.switches_enter henter

theorem switches_awaiting {s : Setting} (h : r.awaiting s = .ok r') :
    r'.given.switches = r.given.switches := by
  obtain ⟨r₁, hsettle, h⟩ := bind_eq_ok.mp h
  cases h
  have hsame := switches_settle hsettle
  exact hsame

theorem switches_plain {text : List Char} (h : r.plain text = .ok r') :
    r'.given.switches = r.given.switches := by
  unfold plain at h
  split at h
  · cases h
    rfl
  · cases h

theorem switches_flag {f : Flag} (hf : ∀ s, f ≠ .switch s) (h : r.flag f = .ok r') :
    r'.given.switches = r.given.switches := by
  obtain ⟨r₁, hsettle, h⟩ := bind_eq_ok.mp h
  obtain ⟨g, hpress, h⟩ := bind_eq_ok.mp h
  cases h
  rw [← switches_settle hsettle]
  exact Given.switches_press hf hpress

/-- A switch that is accepted was not in force; it is now, and its opposite is not. -/
theorem switches_flag_switch {s : Switch} (h : r.flag (.switch s) = .ok r') :
    s ∉ r.given.switches ∧
      r'.given.switches = s :: r.given.switches.filter (· ≠ s.opposite) := by
  obtain ⟨r₁, hsettle, h⟩ := bind_eq_ok.mp h
  obtain ⟨g, hpress, h⟩ := bind_eq_ok.mp h
  cases h
  obtain ⟨hnot, rfl⟩ := Given.throwSwitch_eq_ok.mp hpress
  rw [switches_settle hsettle] at hnot
  exact ⟨hnot, by rw [← switches_settle hsettle]⟩

theorem switches_short {text : List Char} (h : r.short text = .ok r') :
    r'.given.switches = r.given.switches := by
  induction text generalizing r with
  | nil =>
    cases h
    rfl
  | cons c rest ih =>
    unfold short at h
    split at h
    · cases h
    · rename_i hchoice
      split at h
      · cases h
      · rename_i hflag
        rw [ih h]
        exact switches_flag (Choice.short?_ne_switch hchoice) hflag
    · split at h
      · exact switches_awaiting h
      · exact switches_attached h
      · exact switches_attached h

/-! ## What one argument does -/

/-- A long option other than a switch leaves the switches alone. -/
theorem switches_long {text : List Char} (hne : ∀ s : Switch, text ≠ s.name.toList)
    (h : r.long text = .ok r') : r'.given.switches = r.given.switches := by
  unfold long at h
  simp only at h
  split at h
  · cases h
  · exact switches_attached h
  · exact switches_awaiting h
  · cases h
  · rename_i f hchoice hrest
    refine switches_flag (fun s hf => hne s ?_) h
    subst hf
    unfold Choice.long? at hchoice
    have hfound := List.find?_some hchoice
    have hname : s.name = String.ofList (text.takeWhile (· ≠ '=')) := of_decide_eq_true hfound
    rw [hname, String.toList_ofList]
    have hsplit : text.takeWhile (· ≠ '=') ++ text.dropWhile (· ≠ '=') = text :=
      List.takeWhile_append_dropWhile
    rw [hrest, List.append_nil] at hsplit
    exact hsplit.symm

theorem switches_argument {text : List Char} (hne : ∀ s : Switch, text ≠ s.argument.toList)
    (h : r.argument text = .ok r') : r'.given.switches = r.given.switches := by
  unfold argument at h
  split at h
  · cases h
  · split at h
    · cases h
      rfl
    · rename_i name _
      refine switches_long (fun s hname => hne s ?_) h
      rw [hname, Switch.argument, String.toList_append]
      rfl
    · exact switches_short h
    · exact switches_plain h

theorem argument_switch (s : Switch) (h : r.plainOnly = false) :
    r.argument s.argument.toList = r.flag (.switch s) := by
  obtain ⟨c, on⟩ := s
  unfold argument
  rw [if_neg (by simp [h])]
  cases c <;> cases on <;> rfl

end Reader

/-! ## What all arguments do -/

/-- The switches in force are the last ones for their collectors, and no switch came again before
its opposite did. -/
structure InForce (switches : List Switch) (args : List String) : Prop where
  last : ∀ s : Switch, s ∈ switches ↔ (switched s.collector args).getLast? = some s.on
  alternate : ∀ c : Collector, (switched c args).IsChain (· ≠ ·)

namespace InForce

variable {switches : List Switch} {args : List String} {s : Switch}

theorem nil : InForce [] [] := ⟨by simp [switched], fun _ => .nil⟩

/-- One more switch is in force, and its opposite no longer. -/
theorem throw (h : InForce switches args) (hs : s ∉ switches) :
    InForce (s :: switches.filter (· ≠ s.opposite)) (args ++ [s.argument]) where
  last t := by
    rw [switched_append, switched_argument]
    by_cases hc : s.collector = t.collector
    · rw [if_pos hc, List.getLast?_concat, List.mem_cons, List.mem_filter]
      obtain ⟨c, on⟩ := s
      obtain ⟨d, on'⟩ := t
      subst hc
      -- For this collector `t` is either the switch or its opposite.
      cases on <;> cases on' <;> simp [Switch.opposite]
    · have hne : t ≠ s := fun heq => hc (heq ▸ rfl)
      have hopposite : t ≠ s.opposite := fun heq => hc (heq ▸ rfl)
      rw [if_neg hc, List.append_nil, ← h.last t]
      simp [hne, hopposite]
  alternate c := by
    rw [switched_append, switched_argument]
    split
    · rename_i hc
      refine List.isChain_append.mpr ⟨h.alternate c, .singleton _, fun on hon on' hon' heq => ?_⟩
      simp only [List.head?_cons, Option.mem_some_iff] at hon'
      rw [heq, ← hon', ← hc] at hon
      exact hs ((h.last s).mpr hon)
    · rw [List.append_nil]
      exact h.alternate c

/-- An argument that is no switch changes nothing. -/
theorem skip {a : String} (ha : ∀ s : Switch, a ≠ s.argument) (h : InForce switches args) :
    InForce switches (args ++ [a]) := by
  have hsame (c : Collector) : switched c (args ++ [a]) = switched c args := by
    rw [switched_append, switched_of_ne ha, List.append_nil]
  constructor
  · intro t
    rw [hsame]
    exact h.last t
  · intro c
    rw [hsame]
    exact h.alternate c

variable {r r' : Reader}

theorem argument {a : String} (h : InForce r.given.switches args)
    (ha : r.argument a.toList = .ok r') : InForce r'.given.switches (args ++ [a]) := by
  by_cases hswitch : ∃ s : Switch, a = s.argument
  · obtain ⟨s, rfl⟩ := hswitch
    have hplain : r.plainOnly = false := by
      by_contra hplain
      unfold Reader.argument at ha
      rw [if_pos (by simpa using hplain)] at ha
      cases ha
    rw [Reader.argument_switch s hplain] at ha
    obtain ⟨hnot, heq⟩ := Reader.switches_flag_switch ha
    rw [heq]
    exact h.throw hnot
  · push Not at hswitch
    rw [Reader.switches_argument (fun s heq => hswitch s (String.toList_inj.mp heq)) ha]
    exact h.skip hswitch

theorem arguments {rest : List String} (h : InForce r.given.switches args)
    (hrest : r.arguments rest = .ok r') : InForce r'.given.switches (args ++ rest) := by
  induction rest generalizing r args with
  | nil =>
    cases hrest
    rwa [List.append_nil]
  | cons a rest ih =>
    unfold Reader.arguments at hrest
    split at hrest
    · cases hrest
    · rename_i ha
      rw [List.append_cons]
      exact ih (h.argument ha) hrest

end InForce

/-! ## Command lines of switches alone -/

namespace Reader

/-- The reader with other switches in force. -/
def withSwitches (r : Reader) (switches : List Switch) : Reader :=
  { r with given := { r.given with switches } }

/-- A switch that is not in force is put in force, and nothing else changes. -/
theorem flag_switch {r : Reader} {s : Switch} (h : r.pending = none) (hs : s ∉ r.given.switches) :
    r.flag (.switch s) =
      .ok (r.withSwitches (s :: r.given.switches.filter (· ≠ s.opposite))) := by
  refine bind_eq_ok.mpr ⟨r, by rw [settle, h], ?_⟩
  exact bind_eq_ok.mpr ⟨_, Given.throwSwitch_eq_ok.mpr ⟨hs, rfl⟩, rfl⟩

/-- Switches change nothing but the switches, and a switch that comes again before its opposite is
the only one that is not accepted. -/
theorem arguments_switches {r : Reader} {args : List String} (hpending : r.pending = none)
    (hplain : r.plainOnly = false) (h : InForce r.given.switches args) (ss : List Switch) :
    (∃ switches, r.arguments (ss.map Switch.argument) = .ok (r.withSwitches switches)) ∨
    (∀ r', r.arguments (ss.map Switch.argument) ≠ .ok r') ∧
      ∃ c, ¬(switched c (args ++ ss.map Switch.argument)).IsChain (· ≠ ·) := by
  induction ss generalizing r args with
  | nil => exact .inl ⟨r.given.switches, rfl⟩
  | cons s rest ih =>
    rw [List.map_cons]
    by_cases hs : s ∈ r.given.switches
    · refine .inr ⟨fun r' haccepted => ?_, s.collector, fun hchain => ?_⟩
      · unfold arguments at haccepted
        rw [argument_switch s hplain] at haccepted
        split at haccepted
        · cases haccepted
        · rename_i hflag
          exact (switches_flag_switch hflag).1 hs
      · -- The switch stands behind the last one for its collector, which is the same.
        rw [List.append_cons, switched_append] at hchain
        have hfront := hchain.left_of_append
        rw [switched_append, switched_argument, if_pos rfl] at hfront
        exact (List.isChain_append.mp hfront).2.2 s.on ((h.last s).mp hs) s.on rfl rfl
    · rw [arguments, argument_switch s hplain, flag_switch hpending hs, List.append_cons]
      exact ih hpending hplain (h.throw hs)

/-- A command line is accepted if its arguments are, then the last value, then the environment. -/
theorem read_eq_ok {environment : String → Option String} {args : List String} {i : Invocation} :
    Reader.read environment args = .ok i ↔ ∃ r r' g, arguments {} args = .ok r ∧ r.settle = .ok r' ∧
      r'.given.fill environment Setting.all = .ok g ∧ g.invocation = i := by
  constructor
  · intro h
    obtain ⟨r, hargs, h⟩ := bind_eq_ok.mp h
    obtain ⟨r', hsettle, h⟩ := bind_eq_ok.mp h
    obtain ⟨g, hfill, h⟩ := bind_eq_ok.mp h
    exact ⟨r, r', g, hargs, hsettle, hfill, Except.ok.inj h⟩
  · rintro ⟨r, r', g, hargs, hsettle, hfill, rfl⟩
    exact bind_eq_ok.mpr ⟨r, hargs, bind_eq_ok.mpr ⟨r', hsettle, bind_eq_ok.mpr ⟨g, hfill, rfl⟩⟩⟩

/-- Where only switches are given, it is left to the environment. -/
theorem exists_read_iff (environment : String → Option String) {args : List String}
    {switches : List Switch} (h : arguments {} args = .ok (withSwitches {} switches)) :
    (∃ i, Reader.read environment args = .ok i) ↔
      ∃ g, Given.fill environment {} Setting.all = .ok g := by
  have hfill : (withSwitches {} switches).given.fill environment Setting.all =
      (Given.fill environment {} Setting.all).map fun g => { g with switches } :=
    Given.fill_switches environment {} switches Setting.all
  constructor
  · rintro ⟨i, hi⟩
    obtain ⟨r, r', g, hargs, hsettle, hg, -⟩ := read_eq_ok.mp hi
    rw [h] at hargs
    cases hargs
    cases hsettle
    obtain ⟨g', hg', -⟩ := map_eq_ok.mp (hfill ▸ hg)
    exact ⟨g', hg'⟩
  · rintro ⟨g, hg⟩
    have hg' := hfill.trans (map_eq_ok.mpr ⟨g, hg, rfl⟩)
    exact ⟨_, read_eq_ok.mpr ⟨_, _, _, h, rfl, hg', rfl⟩⟩

/-- Switches are accepted if the environment is, unless one comes again before its opposite. -/
theorem read_switches_iff (environment : String → Option String) (ss : List Switch) :
    (∃ i, Reader.read environment (ss.map Switch.argument) = .ok i) ↔
      (∃ i, Reader.read environment [] = .ok i) ∧
        ∀ c, (switched c (ss.map Switch.argument)).IsChain (· ≠ ·) := by
  have hstart : InForce ({} : Reader).given.switches [] := InForce.nil
  have hnone : arguments {} [] = .ok (withSwitches {} []) := rfl
  rw [exists_read_iff environment hnone]
  rcases arguments_switches rfl rfl hstart ss with ⟨switches, hss⟩ | ⟨hrefused, c, hc⟩
  · rw [exists_read_iff environment hss, and_iff_left]
    exact (hstart.arguments hss).alternate
  · refine ⟨fun ⟨i, hi⟩ => ?_, fun ⟨_, hchain⟩ => absurd (hchain c) hc⟩
    obtain ⟨r, _, _, hargs, -⟩ := read_eq_ok.mp hi
    exact absurd hargs (hrefused r)

end Reader

/-! ## The collectors of a command line -/

/-- The last switch for a collector decides; without one the collector's default does. -/
def Asks (args : List String) (c : Collector) : Prop :=
  (switched c args).getLast? = some true ∨ switched c args = [] ∧ c.isDefault = true

theorem InForce.runs_iff {g : Given} {args : List String} (h : InForce g.switches args)
    (c : Collector) : g.runs c = true ↔ Asks args c := by
  have hoff := h.last ⟨c, false⟩
  have hon := h.last ⟨c, true⟩
  simp only [Given.runs, Asks, hoff, hon]
  rcases hlast : (switched c args).getLast? with _ | _ | _
  · simp [List.getLast?_eq_none_iff.mp hlast]
  · have hne : switched c args ≠ [] := by
      rintro hnil
      simp [hnil] at hlast
    simp [hne]
  · simp

/-- The collectors of an accepted command line are those that its last switches leave. -/
theorem Reader.exists_inForce {environment : String → Option String} {args : List String}
    {i : Invocation} (h : Reader.read environment args = .ok i) :
    ∃ g : Given, InForce g.switches args ∧ i.collectors = Collector.all.filter g.runs := by
  obtain ⟨r, r', g, hargs, hsettle, hfill, rfl⟩ := Reader.read_eq_ok.mp h
  refine ⟨g, ?_, rfl⟩
  rw [Given.switches_fill hfill, Reader.switches_settle hsettle]
  exact InForce.nil.arguments hargs

theorem Reader.mem_collectors {environment : String → Option String} {args : List String}
    {i : Invocation} (h : Reader.read environment args = .ok i) (c : Collector) :
    c ∈ i.collectors ↔ Asks args c := by
  obtain ⟨g, hforce, hi⟩ := Reader.exists_inForce h
  rw [hi, List.mem_filter, ← hforce.runs_iff c]
  simp [Collector.mem_all]

/-- Settings that name the collectors of an ordered list run just these. -/
theorem collectors_map_name {cs : List Collector} {p : Collector → Bool}
    (h : cs = Collector.all.filter p) (offset : Duration) :
    ({ enabled := cs.map Collector.name, offset } : Settings).collectors = cs := by
  have hmem (c : Collector) : c.name ∈ cs.map Collector.name ↔ c ∈ cs :=
    List.mem_map_of_injective fun _ _ => Collector.name_injective
  rw [Settings.collectors, h]
  refine List.filter_congr fun c hc => ?_
  rw [Settings.isEnabled, ← h, Bool.eq_iff_iff, decide_eq_true_iff, hmem, h, List.mem_filter]
  simp [hc]

/-- **The last switch wins.** Of the collectors of an accepted command line each is asked for by its
own switches alone, whatever the environment and the other arguments are, and they come in their
order. An exporter that starts has these, and runs those among them that the server's version
allows. Of switches nothing is refused but one that comes again before its opposite. -/
theorem Reader.last_switch_wins (environment : String → Option String) (args : List String) :
    (∀ i, Reader.read environment args = .ok i →
      (∀ c, c ∈ i.collectors ↔ Asks args c) ∧
      (∀ c, (switched c args).IsChain (· ≠ ·)) ∧
      i.collectors.Sublist Collector.all ∧ i.collectors.Nodup ∧
      (∀ environment' args' i', Reader.read environment' args' = .ok i' →
        ∀ c, switched c args = switched c args' → (c ∈ i.collectors ↔ c ∈ i'.collectors)) ∧
      (∀ offset, ({ enabled := i.collectors.map Collector.name, offset } : Settings).collectors =
        i.collectors) ∧
      (∀ launch, Launch.start i = .ok launch →
        launch.service.exporter.settings.collectors = i.collectors ∧
        ∀ server log now budget text, Scrape.Reports server log now
            (Scrape.deadlineAt now budget Settings.defaultBudget) text →
          (launch.service.exporter.scrape server log now budget).2.scrape.runs.map (·.collector) =
            Scrape.running i.collectors text)) ∧
    ∀ ss : List Switch, (∃ i, Reader.read environment (ss.map Switch.argument) = .ok i) ↔
      (∃ i, Reader.read environment [] = .ok i) ∧
        ∀ c, (switched c (ss.map Switch.argument)).IsChain (· ≠ ·) := by
  refine ⟨fun i h => ?_, Reader.read_switches_iff environment⟩
  obtain ⟨g, hforce, hi⟩ := Reader.exists_inForce h
  have hsublist : i.collectors.Sublist Collector.all := hi ▸ List.filter_sublist
  have hnodup : i.collectors.Nodup := hsublist.nodup (by decide)
  have hsettings := collectors_map_name hi
  refine ⟨Reader.mem_collectors h, hforce.alternate, hsublist, hnodup, ?_, hsettings, ?_⟩
  · intro environment' args' i' h' c hsame
    rw [Reader.mem_collectors h, Reader.mem_collectors h', Asks, Asks, hsame]
  · intro launch hstart
    obtain ⟨_, -, hlaunch⟩ := bind_eq_ok.mp hstart
    cases hlaunch
    refine ⟨hsettings i.offset, fun server log now budget text hreports => ?_⟩
    refine (Scrape.collectors_run (Settings.collectors_nodup _) hreports).trans ?_
    exact congrArg (Scrape.running · text) (hsettings i.offset)

/-- Two collectors that are switched twice among other options, with a port from the environment:
the one that is on at last runs, the other does not. -/
theorem last_switch_wins_alternating :
    let environment : String → Option String := fun name =>
      if name = Setting.port.variableName then some "9105" else none
    let args := ["--no-collector.slave_status", "-v", "--collector.slave_status",
      "--collector.user", "--listen", "::1", "--no-collector.user", "--no-collector.global_status"]
    let i : Invocation := ⟨9105, some "::1", "mysql:///mysql?socket=/var/run/mysqld/mysqld.sock",
      [.binaryLog, .replication], .ofMilliseconds 250, 1⟩
    Reader.read environment args = .ok i ∧
      (.replication ∈ i.collectors ↔ Asks args .replication) ∧
      (.accounts ∈ i.collectors ↔ Asks args .accounts) ∧
      switched .replication args = [false, true] ∧ switched .accounts args = [true, false] ∧
      ({ enabled := ["master_status", "slave_status"] } : Settings).collectors =
        i.collectors := by
  intro environment args i
  have hread : Reader.read environment args = .ok i := by rfl
  obtain ⟨hasks, -, -, -, -, hsettings, -⟩ :=
    (Reader.last_switch_wins environment args).1 i hread
  exact ⟨hread, hasks .replication, hasks .accounts, by decide, by decide, hsettings _⟩

end MysqlMetrics.CommandLine
