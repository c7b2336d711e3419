import MysqlMetrics.Settings
import MysqlMetrics.Proofs.Time.Seconds

/-!
# The time for a scrape

Whoever scrapes may announce anything. A text that is a number of seconds announces the span that
this number is rounded to, unless that is empty or too long; any other text announces nothing.

* `Settings.Announces`: the span that a text announces; it is what the settings read
  (`announced?_eq_some`).
* `Settings.budget_leaves_offset`: the time for a scrape is within what is announced, and leaves the
  offset if it can.
-/

namespace MysqlMetrics.Settings

open MysqlMetrics.Text

/-- The text announces `t` nanoseconds: but for blanks around it, it is a finite number of seconds,
and `t` is the whole number of nanoseconds nearest to it, at least one and less than `2 ^ 64`
seconds. -/
def Announces (text : String) (t : ℕ) : Prop :=
  ∃ x v, Decimal.read? (trim text.toList) = some x ∧ Decimal.number? x = some v ∧
    IsNearest (v * 10 ^ 9) t ∧ 0 < t ∧ t < 2 ^ 64 * 10 ^ 9

theorem announced?_eq_some {text : String} {d : Duration} :
    announced? text.toList = some d ↔ Announces text d.nanoseconds := by
  have hsecond : ((Duration.perSecond : ℕ) : ℚ) = 10 ^ 9 := by norm_num [Duration.perSecond]
  constructor
  · intro h
    have hpos := announced?_pos h
    simp only [announced?, Option.bind_eq_bind, Option.bind_eq_some_iff] at h
    obtain ⟨x, hx, d', hd', h⟩ := h
    split at h
    · cases h
    · cases h
      obtain ⟨v, hv, -, hnear, hlimit⟩ := Duration.ofSeconds?_eq_some_iff.mp hd'
      exact ⟨x, v, hx, hv, hsecond ▸ hnear, hpos, hlimit⟩
  · rintro ⟨x, v, hx, hv, hnear, hpos, hlimit⟩
    -- A negative number is not rounded to a positive one.
    have hv0 : 0 ≤ v := by
      by_contra hneg
      have hle : v * 10 ^ 9 ≤ (0 : ℤ) := by
        rw [Int.cast_zero]
        exact mul_nonpos_of_nonpos_of_nonneg (not_le.mp hneg).le (by positivity)
      have := hnear.le_of_le hle
      omega
    have hd : Duration.ofSeconds? x = some d :=
      Duration.ofSeconds?_eq_some_iff.mpr ⟨v, hv, hv0, hsecond ▸ hnear, hlimit⟩
    simp [announced?, hx, hd, hpos.ne']

section Budget

variable (s : Settings) {text : String} {t : ℕ}

theorem budget_of_announces (h : Announces text t) :
    s.budget (some text) = s.lessOffset ⟨t⟩ := by
  have hannounced : announced? text.toList = some ⟨t⟩ := announced?_eq_some.mpr h
  rw [budget, Option.bind_some, hannounced]

theorem budget_of_silent {announcement : Option String}
    (h : ∀ text t, announcement = some text → ¬ Announces text t) :
    s.budget announcement = defaultBudget := by
  have hnone : (announcement.bind fun text => announced? text.toList) = none := by
    rw [Option.eq_none_iff_forall_ne_some]
    intro d hd
    obtain ⟨text, htext, hannounced⟩ := Option.bind_eq_some_iff.mp hd
    exact h text d.nanoseconds htext (announced?_eq_some.mp hannounced)
  rw [budget, hnone]

/-- The whole timeout is left exactly if the offset would take all of it. -/
theorem lessOffset_nanoseconds (timeout : Duration) :
    (s.lessOffset timeout).nanoseconds ≤ timeout.nanoseconds ∧
    (s.offset.nanoseconds < timeout.nanoseconds →
      (s.lessOffset timeout).nanoseconds + s.offset.nanoseconds = timeout.nanoseconds) ∧
    (timeout.nanoseconds ≤ s.offset.nanoseconds → s.lessOffset timeout = timeout) := by
  unfold lessOffset
  split
  · rename_i hlt
    exact ⟨Nat.sub_le _ _, fun _ => Nat.sub_add_cancel hlt.le, fun hle => absurd hlt hle.not_gt⟩
  · rename_i hle
    exact ⟨le_rfl, fun hlt => absurd hlt hle, fun _ => rfl⟩

end Budget

/-- **The time for a scrape leaves the offset if it can.** It is never zero and always a span. It is
within the timeout that is announced: together with the offset it is all of that if the offset is
less, and it is all of that by itself if not. Where nothing is announced it is 30 seconds. -/
theorem budget_leaves_offset (s : Settings) (announcement : Option String) :
    let d := (s.budget announcement).nanoseconds
    0 < d ∧ d < 2 ^ 64 * 10 ^ 9 ∧
    (∀ text t, announcement = some text → Announces text t →
      d ≤ t ∧ (s.offset.nanoseconds < t → d + s.offset.nanoseconds = t) ∧
        (t ≤ s.offset.nanoseconds → d = t)) ∧
    ((∀ text t, announcement = some text → ¬ Announces text t) → d = 30 * 10 ^ 9) := by
  have hannounced (text : String) (t : ℕ) (htext : announcement = some text)
      (h : Announces text t) : s.budget announcement = s.lessOffset ⟨t⟩ :=
    htext ▸ s.budget_of_announces h
  refine ⟨s.budget_pos announcement, ?_, fun text t htext h => ?_, fun h => ?_⟩
  · by_cases h : ∃ text t, announcement = some text ∧ Announces text t
    · obtain ⟨text, t, htext, h⟩ := h
      rw [hannounced text t htext h]
      obtain ⟨x, v, -, -, -, -, hlimit⟩ := h
      exact (s.lessOffset_nanoseconds ⟨t⟩).1.trans_lt hlimit
    · push Not at h
      rw [s.budget_of_silent h]
      decide
  · rw [hannounced text t htext h]
    obtain ⟨hle, hless, hall⟩ := s.lessOffset_nanoseconds ⟨t⟩
    exact ⟨hle, hless, fun hoffset => congrArg Duration.nanoseconds (hall hoffset)⟩
  · rw [s.budget_of_silent h]
    rfl

/-- A timeout of 976562.5 nanoseconds is rounded to the even neighbour. An offset that is one
nanosecond less leaves one, and an offset that is the same is not taken off. A number that is read
as `2 ^ 64` announces nothing. -/
theorem budget_leaves_offset_tie :
    let text := " 0.0009765625\t"
    Announces text 976562 ∧
      (({ offset := ⟨976561⟩ } : Settings).budget (some text)).nanoseconds = 1 ∧
      (({ offset := ⟨976562⟩ } : Settings).budget (some text)).nanoseconds = 976562 ∧
      (({} : Settings).budget (some "18446744073709551615")).nanoseconds = 30 * 10 ^ 9 := by
  intro text
  have hread : announced? text.toList = some ⟨976562⟩ := by decide +kernel
  have htext : Announces text 976562 := announced?_eq_some.mp hread
  obtain ⟨-, -, hless, -⟩ := budget_leaves_offset { offset := ⟨976561⟩ } (some text)
  obtain ⟨-, -, hall, -⟩ := budget_leaves_offset { offset := ⟨976562⟩ } (some text)
  obtain ⟨-, -, -, hdefault⟩ := budget_leaves_offset {} (some "18446744073709551615")
  refine ⟨htext, ?_, ?_, ?_⟩
  · have := (hless text _ rfl htext).2.1 (by decide)
    simp only at this
    omega
  · exact (hall text _ rfl htext).2.2 (by decide)
  · refine hdefault fun text' t heq h => ?_
    cases heq
    have hread : announced? "18446744073709551615".toList = none := by decide +kernel
    have hsome : announced? "18446744073709551615".toList = some ⟨t⟩ := announced?_eq_some.mpr h
    rw [hread] at hsome
    cases hsome

end MysqlMetrics.Settings
