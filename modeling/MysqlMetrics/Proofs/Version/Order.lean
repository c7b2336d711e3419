import MysqlMetrics.Proofs.Text.Cutting
import MysqlMetrics.Proofs.Text.Digits
import MysqlMetrics.Scrape.Basic

/-!
# The order of versions

A version is read from up to three numerals at the front of a text, and its number keeps the order
of versions as long as the minor number and the patch have two digits at most.

* `Leads`, `Shows`: the numerals at the front of a text. `exists_shows`: every text shows some, and
  `read_of_shows`: they are what is read.
* `read_render`: a version is read from its own rendering.
* `Shows.append`: a text may go on behind its third numeral with anything but a digit.
* `number_le_iff`: numbers are in the order of their versions.
-/

namespace MysqlMetrics.Version

open MysqlMetrics.Text

/-! ## Characters that end a numeral -/

theorem isBlank_of_isDecimalDigit {c : Char} (h : isDecimalDigit c = true) : isBlank c = false := by
  obtain ⟨r, hr, hlow, hhigh⟩ := mem_inRanges.mp h
  have hapart : ∀ r ∈ decimalDigitRanges, ∀ b ∈ blankRanges, r.2 < b.1 ∨ b.2 < r.1 := by decide
  rw [isBlank, Bool.eq_false_iff]
  intro hblank
  obtain ⟨b, hb, hlow', hhigh'⟩ := mem_inRanges.mp hblank
  rcases hapart r hr b hb with hlt | hlt <;> omega

/-- The text does not begin with a decimal digit of any script. -/
def EndsNumeral (rest : List Char) : Prop := ∀ c ∈ rest.head?, isDecimalDigit c = false

theorem endsNumeral_nil : EndsNumeral [] := by simp [EndsNumeral]

theorem endsNumeral_point (rest : List Char) : EndsNumeral ('.' :: rest) := by
  intro c hc
  obtain rfl := Option.some.inj hc
  decide

theorem endsNumeral_of_blank {after : List Char} (h : ∀ c ∈ after, isBlank c = true) :
    EndsNumeral after := by
  intro c hc
  rw [Bool.eq_false_iff]
  intro hdigit
  have hblank := h c (List.mem_of_mem_head? hc)
  rw [isBlank_of_isDecimalDigit hdigit] at hblank
  cases hblank

theorem EndsNumeral.append {rest after : List Char} (hrest : EndsNumeral rest)
    (hafter : EndsNumeral after) : EndsNumeral (rest ++ after) := by
  cases rest with
  | nil => exact hafter
  | cons c rest => exact hrest

/-! ## The numerals at the front of a text -/

/-- A numeral, in decimal digits of any script, and what follows it. -/
structure IsNumeral (ds rest : List Char) : Prop where
  ne_nil : ds ≠ []
  isDecimalDigit : ∀ c ∈ ds, isDecimalDigit c = true
  ends : EndsNumeral rest

/-- `text` goes on with a point and the numeral `ds`, then with `rest`. Without a numeral behind a
point `ds` is empty and all of `text` is left. -/
inductive GoesOn : (text ds rest : List Char) → Prop
  | written {ds rest : List Char} (h : IsNumeral ds rest) : GoesOn ('.' :: (ds ++ rest)) ds rest
  | missing {text : List Char} (h : ∀ tail, text = '.' :: tail → EndsNumeral tail) :
    GoesOn text [] text

/-- `text` begins with numerals between points; the missing ones are empty. -/
inductive Leads : (text major minor patch : List Char) → Prop
  | missing {text : List Char} (h : EndsNumeral text) : Leads text [] [] []
  | written {major minor patch rest rest' rest'' : List Char} (h : IsNumeral major rest)
    (hminor : GoesOn rest minor rest') (hpatch : GoesOn rest' patch rest'') :
    Leads (major ++ rest) major minor patch

/-- Behind its blanks, `text` begins with these numerals. -/
def Shows (text major minor patch : List Char) : Prop :=
  ∃ before body, text = before ++ body ∧ (∀ c ∈ before, isBlank c = true) ∧
    (∀ c ∈ body.head?, isBlank c = false) ∧ Leads body major minor patch

theorem run_of_isNumeral {ds rest : List Char} (h : IsNumeral ds rest) :
    run (ds ++ rest) = (ds, rest) := by
  rw [run, takeWhile_run h.isDecimalDigit h.ends, dropWhile_run h.isDecimalDigit h.ends]

theorem run_of_endsNumeral {text : List Char} (h : EndsNumeral text) : run text = ([], text) := by
  have hnil : ∀ c ∈ ([] : List Char), isDecimalDigit c = true := by simp
  have htake := takeWhile_run hnil h
  have hdrop := dropWhile_run hnil h
  rw [List.nil_append] at htake hdrop
  rw [run, htake, hdrop]

theorem endsNumeral_or (text : List Char) :
    EndsNumeral text ∨ ∃ ds rest, text = ds ++ rest ∧ IsNumeral ds rest := by
  by_cases hends : EndsNumeral text
  · exact .inl hends
  · refine .inr ⟨text.takeWhile isDecimalDigit, text.dropWhile isDecimalDigit,
      List.takeWhile_append_dropWhile.symm, ?_, fun c hc => List.mem_takeWhile_imp hc, ?_⟩
    · simp only [EndsNumeral, not_forall, Bool.not_eq_false] at hends
      obtain ⟨c, hc, hdigit⟩ := hends
      obtain ⟨rest, rfl⟩ := List.head?_eq_some_iff.mp hc
      simp [hdigit]
    · exact fun c hc => not_of_mem_head?_dropWhile hc

theorem further_of_goesOn {text ds rest : List Char} (h : GoesOn text ds rest) :
    further text = (ds, rest) := by
  cases h with
  | written h => simp [further, run_of_isNumeral h, h.ne_nil]
  | missing h =>
    unfold further
    split
    · rename_i tail
      rw [run_of_endsNumeral (h tail rfl)]
      rfl
    · rfl

theorem exists_goesOn (text : List Char) : ∃ ds rest, GoesOn text ds rest := by
  by_cases hends : ∀ tail, text = '.' :: tail → EndsNumeral tail
  · exact ⟨[], text, .missing hends⟩
  · simp only [not_forall] at hends
    obtain ⟨tail, rfl, hends⟩ := hends
    obtain ⟨ds, rest, rfl, hnumeral⟩ := (endsNumeral_or tail).resolve_left hends
    exact ⟨ds, rest, .written hnumeral⟩

theorem exists_leads (text : List Char) : ∃ major minor patch, Leads text major minor patch := by
  rcases endsNumeral_or text with hends | ⟨major, rest, rfl, hnumeral⟩
  · exact ⟨[], [], [], .missing hends⟩
  · obtain ⟨minor, rest', hminor⟩ := exists_goesOn rest
    obtain ⟨patch, rest'', hpatch⟩ := exists_goesOn rest'
    exact ⟨major, minor, patch, .written hnumeral hminor hpatch⟩

/-- A text has one first numeral, one second and one third. -/
theorem Leads.unique {text major minor patch major' minor' patch' : List Char}
    (h : Leads text major minor patch) (h' : Leads text major' minor' patch') :
    major = major' ∧ minor = minor' ∧ patch = patch' := by
  have hrun : ∀ {a b c : List Char}, Leads text a b c → (run text).1 = a ∧
      (a ≠ [] → (further (run text).2).1 = b ∧ (further (further (run text).2).2).1 = c) ∧
      (a = [] → b = [] ∧ c = []) := by
    intro a b c h
    cases h with
    | missing hends => simp [run_of_endsNumeral hends]
    | written hmajor hminor hpatch =>
      simp [run_of_isNumeral hmajor, further_of_goesOn hminor, further_of_goesOn hpatch,
        hmajor.ne_nil]
  obtain ⟨hmajor, hsome, hnone⟩ := hrun h
  obtain ⟨hmajor', hsome', hnone'⟩ := hrun h'
  obtain rfl : major = major' := hmajor.symm.trans hmajor'
  by_cases hnil : major = []
  · obtain ⟨rfl, rfl⟩ := hnone hnil
    obtain ⟨rfl, rfl⟩ := hnone' hnil
    exact ⟨rfl, rfl, rfl⟩
  · obtain ⟨rfl, rfl⟩ := hsome hnil
    exact ⟨rfl, hsome' hnil⟩

/-! ## What may follow the numerals -/

theorem IsNumeral.append {ds rest after : List Char} (h : IsNumeral ds rest)
    (hafter : EndsNumeral after) : IsNumeral ds (rest ++ after) :=
  ⟨h.ne_nil, h.isDecimalDigit, h.ends.append hafter⟩

theorem GoesOn.append_written {text ds rest after : List Char} (h : GoesOn text ds rest)
    (hne : ds ≠ []) (hafter : EndsNumeral after) : GoesOn (text ++ after) ds (rest ++ after) := by
  cases h with
  | written h =>
    rw [List.cons_append, List.append_assoc]
    exact .written (h.append hafter)
  | missing h => exact absurd rfl hne

/-- Blanks are neither a point nor digits. -/
theorem GoesOn.append_blank {text ds rest after : List Char} (h : GoesOn text ds rest)
    (hafter : ∀ c ∈ after, isBlank c = true) : GoesOn (text ++ after) ds (rest ++ after) := by
  have hends := endsNumeral_of_blank hafter
  cases h with
  | written h => exact GoesOn.append_written (.written h) h.ne_nil hends
  | missing h =>
    refine .missing fun tail htail => ?_
    cases text with
    | nil =>
      subst htail
      have hpoint := hafter '.' List.mem_cons_self
      exact absurd hpoint (by decide)
    | cons c text =>
      obtain ⟨rfl, rfl⟩ := List.cons.inj htail
      exact (h text rfl).append hends

theorem Leads.append_blank {text major minor patch after : List Char}
    (h : Leads text major minor patch) (hafter : ∀ c ∈ after, isBlank c = true) :
    Leads (text ++ after) major minor patch := by
  cases h with
  | missing h => exact .missing (h.append (endsNumeral_of_blank hafter))
  | written h hminor hpatch =>
    rw [List.append_assoc]
    exact .written (h.append (endsNumeral_of_blank hafter)) (hminor.append_blank hafter)
      (hpatch.append_blank hafter)

/-- Behind three numerals a text may go on with anything but a digit. -/
theorem Leads.append {text major minor patch after : List Char}
    (h : Leads text major minor patch) (hpatch : patch ≠ []) (hafter : EndsNumeral after) :
    Leads (text ++ after) major minor patch := by
  cases h with
  | missing h => exact absurd rfl hpatch
  | written h hminor hpatch' =>
    have hsecond : minor ≠ [] := by
      rintro rfl
      -- without a second numeral the third would have to stand where the second does not
      cases hminor with
      | written h' => exact h'.ne_nil rfl
      | missing hends =>
        cases hpatch' with
        | written h' =>
          obtain ⟨c, ds, rfl⟩ := List.exists_cons_of_ne_nil h'.ne_nil
          have hdigit := h'.isDecimalDigit c List.mem_cons_self
          rw [hends _ rfl c rfl] at hdigit
          cases hdigit
        | missing _ => exact hpatch rfl
    rw [List.append_assoc]
    exact .written (h.append hafter) (hminor.append_written hsecond hafter)
      (hpatch'.append_written hpatch hafter)

theorem Leads.ne_nil {text major minor patch : List Char} (h : Leads text major minor patch)
    (hpatch : patch ≠ []) : text ≠ [] := by
  cases h with
  | missing _ => exact absurd rfl hpatch
  | written h _ _ => simp [h.ne_nil]

theorem Shows.append {text major minor patch after : List Char} (h : Shows text major minor patch)
    (hpatch : patch ≠ []) (hafter : EndsNumeral after) :
    Shows (text ++ after) major minor patch := by
  obtain ⟨before, body, rfl, hbefore, hhead, hleads⟩ := h
  refine ⟨before, body ++ after, List.append_assoc .., hbefore, ?_, hleads.append hpatch hafter⟩
  rwa [List.head?_append_of_ne_nil _ (hleads.ne_nil hpatch)]

/-! ## Reading -/

theorem exists_shows (text : List Char) : ∃ major minor patch, Shows text major minor patch := by
  obtain ⟨major, minor, patch, hleads⟩ := exists_leads (trimStart text)
  refine ⟨major, minor, patch, text.takeWhile isBlank, trimStart text,
    List.takeWhile_append_dropWhile.symm, fun c hc => List.mem_takeWhile_imp hc,
    fun c hc => not_of_mem_head?_dropWhile hc, hleads⟩

theorem read_of_leads {text major minor patch : List Char}
    (h : Leads (trim text) major minor patch) :
    read text = ⟨part major, part minor, part patch⟩ := by
  unfold read
  generalize trim text = body at h
  cases h with
  | missing h =>
    rw [run_of_endsNumeral h]
    rfl
  | written h hminor hpatch =>
    rw [run_of_isNumeral h]
    simp only [h.ne_nil, if_false, further_of_goesOn hminor, further_of_goesOn hpatch]

/-- The numerals that a text shows are what is read. -/
theorem read_of_shows {text major minor patch : List Char} (h : Shows text major minor patch) :
    read text = ⟨part major, part minor, part patch⟩ := by
  obtain ⟨before, body, rfl, hbefore, hhead, hleads⟩ := h
  -- the blanks at the end are in `body`, but they are not in what is read
  obtain ⟨major', minor', patch', hleads'⟩ := exists_leads (trim (before ++ body))
  have htrim : trim (before ++ body) = trimEnd body := by
    rw [trim, trimStart_append hbefore]
    cases body with
    | nil => rfl
    | cons c rest => rw [trimStart_eq_self (hhead c rfl)]
  have hbody : body = trimEnd body ++ body.rtakeWhile isBlank := by
    rw [trimEnd_eq_rdropWhile, List.rdropWhile_append_rtakeWhile]
  have hafter : ∀ c ∈ body.rtakeWhile isBlank, isBlank c = true :=
    fun c hc => List.mem_rtakeWhile_imp hc
  have hwhole := hleads'.append_blank hafter
  rw [htrim, ← hbody] at hwhole
  obtain ⟨rfl, rfl, rfl⟩ := hleads.unique hwhole
  exact read_of_leads hleads'

theorem part_le (ds : List Char) : part ds ≤ maxInteger64 := by
  unfold part
  cases h : Natural.read maxInteger64 ds with
  | error e => exact Nat.zero_le _
  | ok n => exact (Natural.read_eq_ok.mp h).2

theorem part_of_isNatural {ds : List Char} {n : Nat} (h : IsNatural ds n) (hn : n ≤ maxInteger64) :
    part ds = n := by
  rw [part, Natural.read_eq_ok.mpr ⟨h, hn⟩]
  rfl

/-! ## Rendering -/

theorem isNumeral_toString (n : Nat) {rest : List Char} (hrest : EndsNumeral rest) :
    IsNumeral (toString n).toList rest := by
  obtain ⟨hne, hdigits⟩ := isDigit_toString n
  exact ⟨hne, fun c hc => isDecimalDigit_of_isDigit (hdigits c hc), hrest⟩

/-- A rendered version shows its three numbers. -/
theorem shows_render (v : Version) :
    Shows v.render.toList (toString v.major).toList (toString v.minor).toList
      (toString v.patch).toList := by
  have hpatch := isNumeral_toString v.patch endsNumeral_nil
  have hminor := isNumeral_toString v.minor (endsNumeral_point ((toString v.patch).toList ++ []))
  have hmajor := isNumeral_toString v.major
    (endsNumeral_point ((toString v.minor).toList ++ '.' :: ((toString v.patch).toList ++ [])))
  have hrender : v.render.toList = (toString v.major).toList ++
      '.' :: ((toString v.minor).toList ++ '.' :: ((toString v.patch).toList ++ [])) := by
    simp [render]
  refine ⟨[], v.render.toList, (List.nil_append _).symm, by simp, fun c hc => ?_, ?_⟩
  · rw [hrender, List.head?_append_of_ne_nil _ hmajor.ne_nil] at hc
    exact isBlank_of_isDecimalDigit (hmajor.isDecimalDigit c (List.mem_of_mem_head? hc))
  · rw [hrender]
    exact .written hmajor (.written hminor) (.written hpatch)

/-- A version is read from its own rendering. -/
theorem read_render {v : Version} (hmajor : v.major ≤ maxInteger64)
    (hminor : v.minor ≤ maxInteger64) (hpatch : v.patch ≤ maxInteger64) :
    read v.render.toList = v := by
  rw [read_of_shows (shows_render v), part_of_isNatural (isNatural_toString _) hmajor,
    part_of_isNatural (isNatural_toString _) hminor,
    part_of_isNatural (isNatural_toString _) hpatch]

/-! ## Order -/

/-- `v` is not a later version than `w`. -/
def IsUpTo (v w : Version) : Prop :=
  v.major < w.major ∨ v.major = w.major ∧
    (v.minor < w.minor ∨ v.minor = w.minor ∧ v.patch ≤ w.patch)

/-- The minor number and the patch have two digits at most. -/
def IsNarrow (v : Version) : Prop := v.minor ≤ 99 ∧ v.patch ≤ 99

theorem number_le_iff {v w : Version} (hv : v.IsNarrow) (hw : w.IsNarrow) :
    v.number ≤ w.number ↔ v.IsUpTo w := by
  obtain ⟨hminor, hpatch⟩ := hv
  obtain ⟨hminor', hpatch'⟩ := hw
  unfold number IsUpTo
  omega

/-- The cap of ordinals is above what any collector asks for. -/
theorem minVersion_le (c : Collector) : c.minVersion ≤ maxOrdinal := by
  cases c <;> decide

theorem lt_ordinal_iff (v : Version) (c : Collector) :
    v.ordinal < c.minVersion ↔ v.number < c.minVersion := by
  have := minVersion_le c
  unfold ordinal
  omega

theorem ordinal_eq_zero_iff (v : Version) : v.ordinal = 0 ↔ v.number = 0 := by
  unfold ordinal maxOrdinal
  omega

/-- **Numbers order versions.** Every text shows up to three numerals, which are read as a version,
missing ones as zero; behind three numerals anything but a digit may be appended. A version is read
from its own rendering. Numbers are in the order of their versions if minor numbers and patches have
two digits at most. The cap of ordinals decides nothing: no collector asks for more, and zero stays
the number of an unknown version. -/
theorem ordered_by_number :
    (∀ text, ∃ major minor patch, Shows text major minor patch) ∧
    (∀ text major minor patch, Shows text major minor patch →
      read text = ⟨part major, part minor, part patch⟩ ∧
      (patch ≠ [] → ∀ suffix, EndsNumeral suffix → read (text ++ suffix) = read text)) ∧
    part [] = 0 ∧
    (∀ text, read (read text).render.toList = read text) ∧
    (∀ text text', (read text).IsNarrow → (read text').IsNarrow →
      ((read text).number ≤ (read text').number ↔ (read text).IsUpTo (read text'))) ∧
    (∀ text, (read text).ordinal = min (read text).number (2 ^ 31 - 1) ∧
      ((read text).ordinal = 0 ↔ (read text).number = 0) ∧
      ∀ c : Collector, ((read text).ordinal < c.minVersion ↔ (read text).number < c.minVersion) ∧
        Scrape.allows (read text).ordinal c = Scrape.allows (read text).number c) := by
  refine ⟨exists_shows, fun text major minor patch h => ⟨read_of_shows h, ?_⟩, rfl, ?_, ?_, ?_⟩
  · intro hpatch suffix hsuffix
    rw [read_of_shows (h.append hpatch hsuffix), read_of_shows h]
  · intro text
    obtain ⟨major, minor, patch, h⟩ := exists_shows text
    rw [read_of_shows h]
    exact read_render (part_le major) (part_le minor) (part_le patch)
  · exact fun _ _ hnarrow hnarrow' => number_le_iff hnarrow hnarrow'
  · intro text
    have hzero := ordinal_eq_zero_iff (read text)
    refine ⟨rfl, hzero, fun c => ?_⟩
    have hlt := lt_ordinal_iff (read text) c
    refine ⟨hlt, ?_⟩
    simp only [Scrape.allows, hzero, ← Nat.not_lt, hlt]

end MysqlMetrics.Version
