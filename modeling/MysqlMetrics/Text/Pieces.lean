/-!
# Cutting a text at a separator

`cut` takes a text apart at every occurrence of a separator; `cutLast?` at its last one. The first
piece of a cut always exists, so it is returned apart from the others.

* `join_cut`: joining the pieces gives the text back.
* `not_mem_cut`: no piece holds the separator.
* `cutLast?_eq_some`: a cut at the last separator leaves none in the part behind it.
-/

namespace MysqlMetrics.Text

/-- The piece before the first separator, and the pieces after it. -/
def cut (sep : Char) : List Char → List Char × List (List Char)
  | [] => ([], [])
  | c :: rest =>
    let (piece, pieces) := cut sep rest
    if c = sep then ([], piece :: pieces) else (c :: piece, pieces)

/-- All pieces of a text between separators, at least one. -/
def pieces (sep : Char) (text : List Char) : List (List Char) :=
  (cut sep text).1 :: (cut sep text).2

/-- A first piece and each further one behind a separator. -/
def join (sep : Char) (piece : List Char) (rest : List (List Char)) : List Char :=
  piece ++ rest.flatMap (sep :: ·)

/-- The parts before and after the last separator, if there is one. -/
def cutLast? (sep : Char) : List Char → Option (List Char × List Char)
  | [] => none
  | c :: rest =>
    match cutLast? sep rest with
    | some (before, after) => some (c :: before, after)
    | none => if c = sep then some ([], rest) else none

theorem join_cut (sep : Char) (text : List Char) :
    join sep (cut sep text).1 (cut sep text).2 = text := by
  induction text with
  | nil => rfl
  | cons c rest ih =>
    by_cases h : c = sep
    · subst h
      simpa [cut, join] using ih
    · simpa [cut, h, join] using ih

theorem not_mem_cut (sep : Char) (text : List Char) :
    sep ∉ (cut sep text).1 ∧ ∀ piece ∈ (cut sep text).2, sep ∉ piece := by
  induction text with
  | nil => simp [cut]
  | cons c rest ih =>
    by_cases h : c = sep
    · simpa [cut, h] using ih
    · simpa [cut, h, Ne.symm h] using ih

theorem cutLast?_eq_none {sep : Char} {text : List Char} :
    cutLast? sep text = none ↔ sep ∉ text := by
  induction text with
  | nil => simp [cutLast?]
  | cons c rest ih =>
    cases hr : cutLast? sep rest with
    | some p =>
      have : sep ∈ rest := by
        rcases Decidable.em (sep ∈ rest) with h | h
        · exact h
        · rw [ih.mpr h] at hr; cases hr
      simp [cutLast?, hr, this]
    | none =>
      have hn : sep ∉ rest := ih.mp hr
      by_cases h : c = sep
      · simp [cutLast?, hr, h]
      · simp [cutLast?, hr, h, hn, Ne.symm h]

theorem cutLast?_eq_some {sep : Char} {text before after : List Char} :
    cutLast? sep text = some (before, after) ↔ text = before ++ sep :: after ∧ sep ∉ after := by
  induction text generalizing before after with
  | nil => simp [cutLast?]
  | cons c rest ih =>
    cases hr : cutLast? sep rest with
    | some p =>
      obtain ⟨b, a⟩ := p
      obtain ⟨hrest, ha⟩ := ih.mp hr
      simp only [cutLast?, hr, Option.some.injEq, Prod.mk.injEq]
      constructor
      · rintro ⟨rfl, rfl⟩
        exact ⟨by simp [hrest], ha⟩
      · rintro ⟨heq, hna⟩
        cases before with
        | nil =>
          simp only [List.nil_append, List.cons.injEq] at heq
          exact absurd (by rw [← heq.2, hrest]; simp) hna
        | cons x xs =>
          simp only [List.cons_append, List.cons.injEq] at heq
          have := ih.mpr ⟨heq.2, hna⟩
          rw [hr] at this
          simp only [Option.some.injEq, Prod.mk.injEq] at this
          exact ⟨by rw [heq.1, this.1], this.2⟩
    | none =>
      have hn : sep ∉ rest := cutLast?_eq_none.mp hr
      by_cases h : c = sep
      · subst h
        simp only [cutLast?, hr, if_true, Option.some.injEq, Prod.mk.injEq]
        constructor
        · rintro ⟨rfl, rfl⟩
          exact ⟨rfl, hn⟩
        · rintro ⟨heq, hna⟩
          cases before with
          | nil => simp at heq; exact ⟨rfl, heq⟩
          | cons x xs =>
            simp only [List.cons_append, List.cons.injEq] at heq
            exact absurd (by rw [heq.2]; simp) hn
      · simp only [cutLast?, hr, h, if_false, false_iff, not_and, reduceCtorEq]
        rintro heq _
        cases before with
        | nil => simp only [List.nil_append, List.cons.injEq] at heq; exact h heq.1
        | cons x xs =>
          simp only [List.cons_append, List.cons.injEq] at heq
          exact hn (by rw [heq.2]; simp)

end MysqlMetrics.Text
