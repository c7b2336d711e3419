import MysqlMetrics.Proofs.Status.Sequence

/-!
# The order of the readings of a status

A status is read by the first of five readings that applies. Words for a switch, the two notations
of a time and numbers have nothing in common, however leniently they are read, so it does not
matter which of them is tried first. The names of log files overlap with times without a zone and
with numbers, and there alone the order counts.

* `Reading`, `firstOf`: the readings, and a status by any order of them; `value?_eq_firstOf`: the
  order that is used.
* `Fits`: the texts that a reading is meant for, existing times or not. `keyword_only`,
  `zoned_only`, `dashed_only`, `number_only`: what else they can be.
* `firstOf_congr`: what an order has to keep. `firstOf_eq_value?_iff`: the orders that change
  nothing.
* `exclusive`: the unambiguous readings exclude each other and may change places.
-/

namespace MysqlMetrics.Status

open MysqlMetrics.Text

/-- A reading of a status. -/
inductive Reading where
  | keyword
  | zoned
  | dashed
  | logFile
  | number
  deriving DecidableEq, Repr

namespace Reading

/-- The readings in the order in which they are tried. -/
def all : List Reading := [.keyword, .zoned, .dashed, .logFile, .number]

theorem mem_all (r : Reading) : r ∈ all := by cases r <;> decide

/-- What a reading makes of a text, if it applies. A log file's name applies even if its number is
none. -/
def verdict? (text : List Char) : Reading → Option (Option Float)
  | .keyword => (keyword? text).map some
  | .zoned => (DateTime.readZoned? text).map fun t => some t.toUnix
  | .dashed => (DateTime.readDashed? text).map fun t => some t.toUnix
  | .logFile => (LogFile.suffix? text).map LogFile.sequence?
  | .number => (Decimal.read? text).map some

/-- The status of a text by the first reading that applies to it. -/
def firstOf (order : List Reading) (text : List Char) : Option Float :=
  (order.findSome? (verdict? text)).join

theorem value?_eq_firstOf (text : List Char) : value? text = firstOf all text := by
  unfold value? firstOf all
  simp only [List.findSome?_cons, List.findSome?_nil, verdict?]
  cases keyword? text with
  | some x => rfl
  | none =>
    cases DateTime.readZoned? text with
    | some t => rfl
    | none =>
      cases DateTime.readDashed? text with
      | some t => rfl
      | none =>
        cases LogFile.suffix? text with
        | some suffix => rfl
        | none => cases Decimal.read? text <;> rfl

/-! ## What the readings are meant for -/

/-- The texts of a reading by their layout. A time need not exist, and a log file's name may be
anything. -/
def Fits (text : List Char) : Reading → Prop
  | .keyword => text.map Char.toLower ∈ keywords
  | .zoned => ∃ z : DateTime.Zoned, text = z.text
  | .dashed => ∃ d : DateTime.Dashed, text = d.text
  | .logFile => ∃ name ds, LogFile.IsSequenced text name ds
  | .number => ∃ x, Decimal.read? text = some x

theorem keyword?_eq_none_iff {text : List Char} :
    keyword? text = none ↔ ¬Fits text .keyword := by
  refine ⟨fun h hfits => ?_, keyword?_eq_none⟩
  obtain ⟨word, hword, heq⟩ := List.mem_map.mp hfits
  have hof : String.ofList (text.map Char.toLower) = word := by rw [← heq, String.ofList_toList]
  simp only [keyword?, hof] at h
  rcases List.mem_append.mp hword with hon | hoff
  · simp [hon] at h
  · rw [if_pos hoff] at h
    split at h <;> cases h

/-- A reading applies only to texts that it is meant for. -/
theorem fits_of_verdict? {text : List Char} {r : Reading} (h : verdict? text r ≠ none) :
    Fits text r := by
  have exists_of_map {α : Type} {read : Option α} {f : α → Option Float} (h : read.map f ≠ none) :
      ∃ a, read = some a :=
    Option.ne_none_iff_exists'.mp (mt Option.map_eq_none_iff.mpr h)
  cases r with
  | keyword =>
    obtain ⟨x, hx⟩ := exists_of_map h
    by_contra hfits
    rw [keyword?_eq_none_iff.mpr hfits] at hx
    cases hx
  | zoned =>
    obtain ⟨t, ht⟩ := exists_of_map h
    obtain ⟨z, hz, -⟩ := DateTime.readZoned?_eq_some.mp ht
    exact ⟨z, hz⟩
  | dashed =>
    obtain ⟨t, ht⟩ := exists_of_map h
    obtain ⟨d, hd, -⟩ := DateTime.readDashed?_eq_some.mp ht
    exact ⟨d, hd⟩
  | logFile =>
    obtain ⟨ds, hds⟩ := exists_of_map h
    obtain ⟨name, hcut, -, hline, hne, hdigits, -⟩ := LogFile.suffix?_eq_some.mp hds
    exact ⟨name, ds, (cutLast?_eq_some.mp hcut).1, hline, hne, List.all_eq_true.mp hdigits⟩
  | number => exact exists_of_map h

/-! ## What else a text can be -/

theorem not_mem_of_keyword {text : List Char} (h : Fits text .keyword) {c : Char}
    (hc : ∀ word ∈ keywords, c.toLower ∉ word) : c ∉ text :=
  fun hmem => hc _ h (List.mem_map_of_mem hmem)

section

variable {text : List Char} {r : Reading}

/-- A word for a switch is nothing else: no time has its letters alone, no log file's name is
without a point, and no word is a number. -/
theorem keyword_only (h : Fits text .keyword) (hr : Fits text r) : r = .keyword := by
  cases r with
  | keyword => rfl
  | zoned =>
    obtain ⟨z, rfl⟩ := hr
    exact absurd z.mem_colon (not_mem_of_keyword h (by decide))
  | dashed =>
    obtain ⟨d, rfl⟩ := hr
    exact absurd d.mem_colon (not_mem_of_keyword h (by decide))
  | logFile =>
    obtain ⟨name, ds, hsequenced⟩ := hr
    have hpoint : '.' ∈ text := by simp [hsequenced.layout]
    exact absurd hpoint (not_mem_of_keyword h (by decide))
  | number =>
    obtain ⟨x, hx⟩ := hr
    exact absurd h (keyword?_eq_none_iff.mp (keyword?_of_read? hx))

/-- A time with a zone is nothing else: it does not end in a digit, and it has a colon. -/
theorem zoned_only (h : Fits text .zoned) (hr : Fits text r) : r = .zoned := by
  cases r with
  | keyword => exact (keyword_only hr h).symm
  | zoned => rfl
  | dashed =>
    obtain ⟨z, hz⟩ := h
    obtain ⟨d, hd⟩ := hr
    exact absurd (hd.symm.trans hz) (d.text_ne_zoned z)
  | logFile =>
    obtain ⟨z, hz⟩ := h
    obtain ⟨name, ds, hsequenced⟩ := hr
    exact absurd hz (hsequenced.ne_zoned z)
  | number =>
    obtain ⟨z, rfl⟩ := h
    obtain ⟨x, hx⟩ := hr
    exact absurd z.mem_colon (Decimal.not_mem_of_read? hx (by decide) (by decide))

/-- A time without a zone may look like a log file's name, and like nothing else. -/
theorem dashed_only (h : Fits text .dashed) (hr : Fits text r) : r = .dashed ∨ r = .logFile := by
  cases r with
  | keyword => exact .inl (keyword_only hr h).symm
  | zoned => exact .inl (zoned_only hr h).symm
  | dashed => exact .inl rfl
  | logFile => exact .inr rfl
  | number =>
    obtain ⟨d, rfl⟩ := h
    obtain ⟨x, hx⟩ := hr
    exact absurd d.mem_colon (Decimal.not_mem_of_read? hx (by decide) (by decide))

/-- A number may look like a log file's name, and like nothing else. -/
theorem number_only (h : Fits text .number) (hr : Fits text r) : r = .number ∨ r = .logFile := by
  cases r with
  | keyword => exact .inl (keyword_only hr h).symm
  | zoned => exact .inl (zoned_only hr h).symm
  | dashed => simpa using dashed_only hr h
  | logFile => exact .inr rfl
  | number => exact .inl rfl

end

/-! ## Orders -/

/-- A search finds the first of the members that give something. -/
private theorem findSome?_eq_some_iff_idxOf {α β : Type} [DecidableEq α] {f : α → Option β}
    {l : List α} {v : β} :
    l.findSome? f = some v ↔
      ∃ a ∈ l, f a = some v ∧ ∀ b ∈ l, f b ≠ none → l.idxOf a ≤ l.idxOf b := by
  induction l with
  | nil => simp
  | cons a l ih =>
    cases ha : f a with
    | some w =>
      rw [List.findSome?_cons, ha]
      constructor
      · rintro h
        exact ⟨a, List.mem_cons_self, ha.trans h, by simp⟩
      · rintro ⟨b, -, hb, hle⟩
        have hfirst := hle a List.mem_cons_self (by simp [ha])
        have hba : b = a := by
          by_contra hne
          simp [List.idxOf_cons_ne _ (Ne.symm hne)] at hfirst
        rw [← hb, hba, ha]
    | none =>
      have hne {b : α} (hb : f b ≠ none) : a ≠ b := by
        rintro rfl
        exact hb ha
      rw [List.findSome?_cons, ha, ih]
      constructor
      · rintro ⟨b, hmem, hb, hle⟩
        refine ⟨b, List.mem_cons_of_mem _ hmem, hb, fun c hc hsome => ?_⟩
        rw [List.idxOf_cons_ne _ (hne (by simp [hb])), List.idxOf_cons_ne _ (hne hsome)]
        exact Nat.succ_le_succ (hle c ((List.mem_cons.mp hc).resolve_left (hne hsome).symm) hsome)
      · rintro ⟨b, hmem, hb, hle⟩
        have hb' : f b ≠ none := by simp [hb]
        refine ⟨b, (List.mem_cons.mp hmem).resolve_left (hne hb').symm, hb, fun c hc hsome => ?_⟩
        have hcons := hle c (List.mem_cons_of_mem _ hc) hsome
        rw [List.idxOf_cons_ne _ (hne hb'), List.idxOf_cons_ne _ (hne hsome)] at hcons
        exact Nat.le_of_succ_le_succ hcons

section

variable {order order' : List Reading} {text : List Char}

/-- A status is what the first reading makes of it that applies. -/
theorem firstOf_of_first {r : Reading} {v : Option Float} (hr : r ∈ order)
    (hverdict : verdict? text r = some v)
    (hfirst : ∀ s, Fits text s → order.idxOf r ≤ order.idxOf s) : firstOf order text = v := by
  have hfind : order.findSome? (verdict? text) = some v :=
    findSome?_eq_some_iff_idxOf.mpr
      ⟨r, hr, hverdict, fun s _ hs => hfirst s (fits_of_verdict? hs)⟩
  rw [firstOf, hfind, Option.join_some]

/-- A status does not change if the readings that apply to it keep their order. -/
theorem firstOf_congr (hmem : ∀ r, r ∈ order) (hmem' : ∀ r, r ∈ order')
    (h : ∀ r s, Fits text r → Fits text s → order.idxOf r ≤ order.idxOf s →
      order'.idxOf r ≤ order'.idxOf s) :
    firstOf order text = firstOf order' text := by
  unfold firstOf
  congr 1
  cases hfind : order.findSome? (verdict? text) with
  | none =>
    rw [List.findSome?_eq_none_iff] at hfind
    exact (List.findSome?_eq_none_iff.mpr fun r _ => hfind r (hmem r)).symm
  | some v =>
    obtain ⟨r, -, hr, hfirst⟩ := findSome?_eq_some_iff_idxOf.mp hfind
    have hfits : Fits text r := fits_of_verdict? (by simp [hr])
    refine (findSome?_eq_some_iff_idxOf.mpr ⟨r, hmem' r, hr, fun s _ hs => ?_⟩).symm
    exact h r s hfits (fits_of_verdict? hs) (hfirst s (hmem s) hs)

/-- Of two readings that both apply, and no third one does, the first decides. -/
theorem firstOf_of_lt {r s : Reading} {v : Option Float} (hmem : ∀ r, r ∈ order)
    (hlt : order.idxOf r < order.idxOf s) (hverdict : verdict? text r = some v)
    (honly : ∀ q, Fits text q → q = r ∨ q = s) : firstOf order text = v := by
  refine firstOf_of_first (hmem r) hverdict fun q hq => ?_
  rcases honly q hq with rfl | rfl
  · exact le_rfl
  · exact hlt.le

/-- Two readings that make different things of a text have to keep their order. -/
theorem lt_of_firstOf_eq {r s : Reading} {v w : Option Float} (hmem : ∀ r, r ∈ order)
    (hr : verdict? text r = some v) (hs : verdict? text s = some w) (hne : v ≠ w)
    (honly : ∀ q, Fits text q → q = r ∨ q = s) (hall : all.idxOf r < all.idxOf s)
    (h : firstOf order text = value? text) : order.idxOf r < order.idxOf s := by
  by_contra hnot
  have hdistinct : order.idxOf s ≠ order.idxOf r := by
    intro heq
    rw [List.idxOf_inj (hmem s)] at heq
    rw [heq] at hall
    exact hall.false
  have hlt : order.idxOf s < order.idxOf r := lt_of_le_of_ne (not_lt.mp hnot) hdistinct
  have hswapped : firstOf order text = w :=
    firstOf_of_lt hmem hlt hs fun q hq => (honly q hq).symm
  rw [value?_eq_firstOf, firstOf_of_lt mem_all hall hr honly, hswapped] at h
  exact hne h.symm

/-- An order without a gap gives every text its status exactly if the rule for log files is tried
behind times without a zone and before numbers. -/
theorem firstOf_eq_value?_iff (hmem : ∀ r, r ∈ order) :
    (∀ text, firstOf order text = value? text) ↔
      order.idxOf .dashed < order.idxOf .logFile ∧
        order.idxOf .logFile < order.idxOf .number := by
  constructor
  · intro h
    constructor
    · -- Half a second behind a time, or the fifth log file.
      have hdashed : verdict? "1970-01-01 00:00:00.5".toList .dashed =
          some (some (DateTime.toUnix ⟨1970, 1, 1, 0, 0, 0, 500000000⟩)) := rfl
      have hlogFile : verdict? "1970-01-01 00:00:00.5".toList .logFile =
          some (LogFile.sequence? ['5']) := rfl
      have hfits : Fits "1970-01-01 00:00:00.5".toList .dashed :=
        fits_of_verdict? (by rw [hdashed]; exact Option.some_ne_none _)
      exact lt_of_firstOf_eq hmem hdashed hlogFile (by decide +kernel)
        (fun q => dashed_only hfits) (by decide) (h _)
    · -- The fifth log file, or half of one below zero.
      have hlogFile : verdict? "-.5".toList .logFile = some (LogFile.sequence? ['5']) := rfl
      have hnumber : verdict? "-.5".toList .number =
          some (some (-Float.ofScientific 5 true 1)) := rfl
      have hfits : Fits "-.5".toList .number :=
        fits_of_verdict? (by rw [hnumber]; exact Option.some_ne_none _)
      exact lt_of_firstOf_eq hmem hlogFile hnumber (by decide +kernel)
        (fun q hq => (number_only hfits hq).symm) (by decide) (h _)
  · rintro ⟨hdashed, hnumber⟩ text
    rw [value?_eq_firstOf]
    refine firstOf_congr hmem mem_all fun r s hr hs hle => ?_
    cases r with
    | keyword => rw [keyword_only hr hs]
    | zoned => rw [zoned_only hr hs]
    | dashed => rcases dashed_only hr hs with rfl | rfl <;> decide
    | logFile =>
      cases s with
      | keyword => cases keyword_only hs hr
      | zoned => cases zoned_only hs hr
      | dashed => omega
      | logFile => exact le_rfl
      | number => decide
    | number =>
      rcases number_only hr hs with rfl | rfl
      · exact le_rfl
      · omega

end

/-- **The unambiguous readings exclude each other.** A text is at most one of a word for a switch, a
time with a zone, a time without one, and a number, whether or not the time exists; and a reading
applies only to texts that it is meant for. So a status stays what it is however these readings
change places, as long as the rule for log files is tried behind both notations of a time and before
numbers. -/
theorem exclusive (text : List Char) :
    (∀ r s : Reading, r ≠ .logFile → s ≠ .logFile → Fits text r → Fits text s → r = s) ∧
    (∀ r : Reading, verdict? text r ≠ none → Fits text r) ∧
    ∀ order : List Reading, order.Perm all → order.idxOf .zoned < order.idxOf .logFile →
      order.idxOf .dashed < order.idxOf .logFile → order.idxOf .logFile < order.idxOf .number →
      firstOf order text = value? text := by
  refine ⟨fun r s hr hs hfits hfits' => ?_, fun r => fits_of_verdict?, ?_⟩
  · cases r with
    | keyword => exact (keyword_only hfits hfits').symm
    | zoned => exact (zoned_only hfits hfits').symm
    | dashed => exact ((dashed_only hfits hfits').resolve_right hs).symm
    | logFile => exact absurd rfl hr
    | number => exact ((number_only hfits hfits').resolve_right hs).symm
  · intro order hperm _ hdashed hnumber
    have hmem (r : Reading) : r ∈ order := hperm.mem_iff.mpr (mem_all r)
    exact (firstOf_eq_value?_iff hmem).mpr ⟨hdashed, hnumber⟩ text

theorem exclusive_dashed :
    (∀ r : Reading, r ≠ .logFile → verdict? "+2023-1-2 3:4:5.5".toList r ≠ none → r = .dashed) ∧
      firstOf [.dashed, .zoned, .logFile, .number, .keyword] "+2023-1-2 3:4:5.5".toList =
        some (DateTime.toUnix ⟨2023, 1, 2, 3, 4, 5, 500000000⟩) := by
  obtain ⟨hexclusive, hfits, horder⟩ := exclusive "+2023-1-2 3:4:5.5".toList
  have hdashed : Fits "+2023-1-2 3:4:5.5".toList .dashed := hfits .dashed (by decide)
  refine ⟨fun r hr h => hexclusive r .dashed hr (by decide) (hfits r h) hdashed, ?_⟩
  rw [horder _ (by decide) (by decide) (by decide) (by decide)]
  rfl

end Reading

end MysqlMetrics.Status
