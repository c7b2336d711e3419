import Mathlib.Data.List.DropRight
import MysqlMetrics.Text.Blank
import MysqlMetrics.Text.Pieces

/-!
# Cutting and trimming, from the text that comes out

A text is cut and trimmed in one way only, so what comes out says what went in: the pieces of a cut
are the texts without the separator that give the text back when they are joined, and a trimmed text
is one without blanks at its ends that lies between blanks.

* `pieces_eq_iff`, `cut_eq_iff`: the pieces of a text.
* `trim_eq_iff`: the text between the blanks.
-/

namespace MysqlMetrics.Text

/-! ## Pieces -/

theorem pieces_eq_splitOn (sep : Char) (text : List Char) : pieces sep text = text.splitOn sep := by
  induction text with
  | nil => rfl
  | cons c rest ih =>
    unfold pieces at ih
    rw [List.splitOn_cons_eq_if_modifyHead, ← ih]
    by_cases h : c = sep
    · simp [pieces, cut, h]
    · simp [pieces, cut, h]

theorem not_mem_pieces {sep : Char} {text piece : List Char} (h : piece ∈ pieces sep text) :
    sep ∉ piece := by
  obtain ⟨hfirst, hothers⟩ := not_mem_cut sep text
  rcases List.mem_cons.mp h with rfl | h
  · exact hfirst
  · exact hothers piece h

/-- The pieces of a text are those that hold no separator and are joined by it to the text. -/
theorem pieces_eq_iff {sep : Char} {text : List Char} {ps : List (List Char)} :
    pieces sep text = ps ↔ text = [sep].intercalate ps ∧ ps ≠ [] ∧ ∀ p ∈ ps, sep ∉ p := by
  constructor
  · rintro rfl
    refine ⟨?_, List.cons_ne_nil _ _, fun p hp => not_mem_pieces hp⟩
    rw [pieces_eq_splitOn, List.intercalate_splitOn]
  · rintro ⟨rfl, hne, hnot⟩
    rw [pieces_eq_splitOn, List.splitOn_intercalate sep hnot hne]

theorem intercalate_eq_join (sep : Char) (piece : List Char) (rest : List (List Char)) :
    [sep].intercalate (piece :: rest) = join sep piece rest := by
  induction rest generalizing piece with
  | nil => simp [join]
  | cons p rest ih => rw [List.intercalate_cons_cons, ih]; simp [join]

/-- The same with the first piece apart. -/
theorem cut_eq_iff {sep : Char} {text piece : List Char} {rest : List (List Char)} :
    cut sep text = (piece, rest) ↔
      text = join sep piece rest ∧ sep ∉ piece ∧ ∀ p ∈ rest, sep ∉ p := by
  have hcut : cut sep text = (piece, rest) ↔ pieces sep text = piece :: rest := by
    rw [pieces, List.cons.injEq, Prod.ext_iff]
  rw [hcut, pieces_eq_iff, intercalate_eq_join]
  simp

/-! ## Blanks -/

/-- `body` is `text` without the blanks at both ends: it lies between blanks, and its own first and
last characters are none. -/
def IsTrimmed (text body : List Char) : Prop :=
  ∃ before after, text = before ++ body ++ after ∧
    (∀ c ∈ before, isBlank c = true) ∧ (∀ c ∈ after, isBlank c = true) ∧
    (∀ c ∈ body.head?, isBlank c = false) ∧ ∀ c ∈ body.getLast?, isBlank c = false

theorem trimEnd_eq_rdropWhile (text : List Char) : trimEnd text = text.rdropWhile isBlank := rfl

theorem trimStart_append {before text : List Char} (h : ∀ c ∈ before, isBlank c = true) :
    trimStart (before ++ text) = trimStart text :=
  List.dropWhile_append_of_pos h

theorem trimEnd_append {text after : List Char} (h : ∀ c ∈ after, isBlank c = true) :
    trimEnd (text ++ after) = trimEnd text := by
  unfold trimEnd
  rw [List.reverse_append, List.dropWhile_append_of_pos]
  intro c hc
  exact h c (List.mem_reverse.mp hc)

theorem trimEnd_eq_self {text : List Char} (h : ∀ c ∈ text.getLast?, isBlank c = false) :
    trimEnd text = text := by
  rw [trimEnd_eq_rdropWhile, List.rdropWhile_eq_self_iff]
  intro hne
  simpa using h _ (List.getLast?_eq_some_getLast hne)

theorem head?_trimEnd {text : List Char} {c : Char} (h : (trimEnd text).head? = some c) :
    text.head? = some c := by
  obtain ⟨rest, hrest⟩ : trimEnd text <+: text := List.rdropWhile_prefix isBlank text
  rw [← hrest, List.head?_append, h]
  rfl

/-- Trimming leaves no blank at either end. -/
theorem isTrimmed_trim (text : List Char) : IsTrimmed text (trim text) := by
  refine ⟨text.takeWhile isBlank, (trimStart text).rtakeWhile isBlank, ?_, ?_, ?_, ?_, ?_⟩
  · rw [trim, trimEnd_eq_rdropWhile, List.append_assoc, List.rdropWhile_append_rtakeWhile]
    exact List.takeWhile_append_dropWhile.symm
  · exact fun c hc => List.mem_takeWhile_imp hc
  · exact fun c hc => List.mem_rtakeWhile_imp hc
  · intro c hc
    have hhead := List.head?_dropWhile_not isBlank text
    rw [← trimStart, head?_trimEnd hc] at hhead
    exact hhead
  · intro c hc
    obtain ⟨hne, rfl⟩ := List.mem_getLast?_eq_getLast hc
    exact Bool.eq_false_iff.mpr (List.rdropWhile_last_not isBlank (trimStart text) hne)

theorem trim_eq_iff {text body : List Char} : trim text = body ↔ IsTrimmed text body := by
  constructor
  · rintro rfl
    exact isTrimmed_trim text
  · rintro ⟨before, after, rfl, hbefore, hafter, hfirst, hlast⟩
    rw [trim, List.append_assoc, trimStart_append hbefore]
    cases body with
    | nil =>
      have hnone : trimStart after = [] := List.dropWhile_eq_nil_iff.mpr hafter
      rw [List.nil_append, hnone]
      rfl
    | cons c rest =>
      rw [List.cons_append, trimStart_eq_self (hfirst c rfl), ← List.cons_append,
        trimEnd_append hafter, trimEnd_eq_self hlast]

/-- Nothing is left of a blank text. -/
theorem trim_eq_nil_iff {text : List Char} : trim text = [] ↔ ∀ c ∈ text, isBlank c = true := by
  rw [trim_eq_iff]
  constructor
  · rintro ⟨before, after, rfl, hbefore, hafter, -⟩ c hc
    rw [List.append_nil] at hc
    exact (List.mem_append.mp hc).elim (hbefore c) (hafter c)
  · exact fun h => ⟨text, [], by simp, h, by simp, by simp, by simp⟩

end MysqlMetrics.Text
