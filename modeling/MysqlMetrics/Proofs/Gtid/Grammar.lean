import MysqlMetrics.Gtid
import MysqlMetrics.Proofs.Checked
import MysqlMetrics.Proofs.Text.Cutting
import MysqlMetrics.Proofs.Text.Digits

/-!
# The grammar of transaction sets

What a text of transaction sets looks like, said without the reader: entries between commas, each
with blanks around it that do not count; in an entry the server and then, each behind a colon, one
range or more; a range of one number or of two with a hyphen between them; a number in ASCII digits
below `2 ^ 63`.

* `IsNumeral`, `IsRange`, `IsEntry`, `Writes`: the grammar. Each reader of `Gtid` accepts exactly
  one of them (`readNumber_eq_ok`, `readRange_eq_ok`, `readEntry_eq_ok`).
* `read_exactly`: a whole text is read exactly if the grammar allows it, as what it writes.
-/

namespace MysqlMetrics.Gtid

open MysqlMetrics.Text

/-! ## The grammar -/

/-- `text` is the number `n` in ASCII digits, with any number of zeros in front. -/
structure IsNumeral (text : List Char) (n : Nat) : Prop where
  nonempty : text ≠ []
  digits : ∀ c ∈ text, c.isDigit = true
  value : Nat.ofDigits 10 (text.reverse.map digitValue) = n
  bounded : n ≤ 2 ^ 63 - 1

/-- `text` is a range: one number that is both bounds, or two numbers with a hyphen between. -/
inductive IsRange : List Char → TransactionRange → Prop
  | single {text : List Char} {n : Nat} (h : IsNumeral text n) : IsRange text ⟨n, n⟩
  | pair {first last : List Char} {n m : Nat} (hfirst : IsNumeral first n)
      (hlast : IsNumeral last m) : IsRange (first ++ '-' :: last) ⟨n, m⟩

/-- `text` is an entry: a server, and the ranges of its transactions, each behind a colon. There is
a first range, and a last one, and they hold the first and the last transaction. -/
structure IsEntry (text : List Char) (set : TransactionSet) : Prop where
  written : ∃ parts, text = set.server.toList ++ parts.flatMap (':' :: ·) ∧
    List.Forall₂ IsRange parts set.ranges
  server : ':' ∉ set.server.toList
  first : set.ranges.head?.map TransactionRange.first = some set.first
  last : set.ranges.getLast?.map TransactionRange.last = some set.last

/-- `text` is a list of entries with commas between them and blanks around each. -/
def Writes (text : List Char) (sets : List TransactionSet) : Prop :=
  ∃ entries, text = [','].intercalate entries ∧ entries ≠ [] ∧ (∀ entry ∈ entries, ',' ∉ entry) ∧
    List.Forall₂ (fun entry set => ∃ body, IsTrimmed entry body ∧ IsEntry body set) entries sets

/-! ## Numbers -/

theorem readNumber_eq_ok {text : List Char} {n : Nat} :
    readNumber text = .ok n ↔ IsNumeral text n := by
  have hmax : maxInteger64 = 2 ^ 63 - 1 := by decide
  unfold readNumber
  rw [hmax, digitsValue_eq_ofDigits]
  split
  · rename_i h
    simp only [reduceCtorEq, false_iff]
    intro hn
    rcases h with h | h
    · exact hn.nonempty h
    · exact h (List.all_eq_true.mpr hn.digits)
  · rename_i h
    rw [not_or, not_not, List.all_eq_true] at h
    split
    · rename_i hlarge
      simp only [reduceCtorEq, false_iff]
      intro hn
      have := hn.bounded
      rw [← hn.value] at this
      omega
    · rename_i hfits
      rw [Except.ok.injEq]
      constructor
      · rintro rfl
        exact ⟨h.1, h.2, rfl, by omega⟩
      · intro hn
        exact hn.value

theorem IsNumeral.not_mem {text : List Char} {n : Nat} (h : IsNumeral text n) {c : Char}
    (hc : c.isDigit = false) : c ∉ text := by
  intro hmem
  rw [h.digits c hmem] at hc
  cases hc

/-! ## Ranges -/

theorem readRange_eq_ok {entry part : List Char} {r : TransactionRange} :
    readRange entry part = .ok r ↔ IsRange part r := by
  constructor
  · intro h
    rw [readRange] at h
    split at h
    · -- One piece, which is the whole part.
      rename_i first hcut
      obtain ⟨n, hn, rfl⟩ := map_eq_ok.mp h
      have hpart : part = first := by simpa [join] using (cut_eq_iff.mp hcut).1
      rw [hpart]
      exact .single (readNumber_eq_ok.mp hn)
    · rename_i first last hcut
      have hpart : part = first ++ '-' :: last := by simpa [join] using (cut_eq_iff.mp hcut).1
      rw [hpart]
      split at h
      · cases h
      · rename_i n hn
        obtain ⟨m, hm, rfl⟩ := map_eq_ok.mp h
        exact .pair (readNumber_eq_ok.mp hn) (readNumber_eq_ok.mp hm)
    · cases h
  · rintro (hn | ⟨hn, hm⟩)
    · have hcut : cut '-' part = (part, []) :=
        cut_eq_iff.mpr ⟨by simp [join], hn.not_mem (by decide), by simp⟩
      simp [readRange, hcut, readNumber_eq_ok.mpr hn, Except.map]
    · rename_i first last n m
      have hcut : cut '-' (first ++ '-' :: last) = (first, [last]) :=
        cut_eq_iff.mpr ⟨by simp [join], hn.not_mem (by decide), by
          simpa using hm.not_mem (by decide)⟩
      simp [readRange, hcut, readNumber_eq_ok.mpr hn, readNumber_eq_ok.mpr hm, Except.map]

theorem readRanges_eq_mapM (entry : List Char) (parts : List (List Char)) :
    readRanges entry parts = parts.mapM (readRange entry) := by
  induction parts with
  | nil => rfl
  | cons part rest ih =>
    rw [readRanges, ih, List.mapM_cons]
    cases readRange entry part with
    | error e => rfl
    | ok r => cases rest.mapM (readRange entry) <;> rfl

theorem readRanges_eq_ok {entry : List Char} {parts : List (List Char)}
    {ranges : List TransactionRange} :
    readRanges entry parts = .ok ranges ↔ List.Forall₂ IsRange parts ranges := by
  simp only [readRanges_eq_mapM, mapM_eq_ok, readRange_eq_ok]

theorem IsRange.not_mem_colon {text : List Char} {r : TransactionRange} (h : IsRange text r) :
    ':' ∉ text := by
  rcases h with hn | ⟨hn, hm⟩
  · exact hn.not_mem (by decide)
  · intro hmem
    rcases List.mem_append.mp hmem with hmem | hmem
    · exact hn.not_mem (by decide) hmem
    · rcases List.mem_cons.mp hmem with hcolon | hmem
      · revert hcolon
        decide
      · exact hm.not_mem (by decide) hmem

/-! ## Entries -/

theorem readEntry_eq_ok {entry : List Char} {set : TransactionSet} :
    readEntry entry = .ok set ↔ IsEntry entry set := by
  constructor
  · intro h
    obtain ⟨htext, hserver, -⟩ := cut_eq_iff.mp (Prod.mk.eta (p := cut ':' entry)).symm
    rw [readEntry] at h
    split at h
    · cases h
    · cases h
    · rename_i head tail hranges
      cases h
      refine ⟨⟨(cut ':' entry).2, ?_, readRanges_eq_ok.mp hranges⟩, ?_, rfl, ?_⟩
      · rw [String.toList_ofList]
        exact htext
      · rwa [String.toList_ofList]
      · exact congrArg _ (List.getLast?_eq_some_getLast _)
  · rintro ⟨⟨parts, rfl, hparts⟩, hserver, -, -⟩
    have hcolon : ∀ part ∈ parts, ':' ∉ part :=
      ((List.forall₂_and_left parts set.ranges).mp
        (hparts.imp fun _ _ h => ⟨h.not_mem_colon, h⟩)).1
    have hcut : cut ':' (set.server.toList ++ parts.flatMap (':' :: ·)) =
        (set.server.toList, parts) := cut_eq_iff.mpr ⟨rfl, hserver, hcolon⟩
    rw [readEntry, hcut, readRanges_eq_ok.mpr hparts]
    simp [TransactionSet.ranges]

theorem readEntries_eq_mapM (entries : List (List Char)) :
    readEntries entries = entries.mapM fun entry => readEntry (trim entry) := by
  induction entries with
  | nil => rfl
  | cons entry rest ih =>
    rw [readEntries, ih, List.mapM_cons]
    cases readEntry (trim entry) with
    | error e => rfl
    | ok set => cases rest.mapM fun entry => readEntry (trim entry) <;> rfl

/-- The reader accepts exactly the texts of the grammar, as what they write. -/
theorem read_eq_ok {text : List Char} {sets : List TransactionSet} :
    read text = .ok sets ↔ Writes text sets := by
  have htrimmed (entry : List Char) (set : TransactionSet) :
      readEntry (trim entry) = .ok set ↔ ∃ body, IsTrimmed entry body ∧ IsEntry body set := by
    simp only [← trim_eq_iff, exists_eq_left', readEntry_eq_ok]
  rw [read, readEntries_eq_mapM, mapM_eq_ok]
  simp only [htrimmed]
  constructor
  · intro h
    obtain ⟨htext, hne, hcomma⟩ := pieces_eq_iff.mp (rfl : pieces ',' text = _)
    exact ⟨pieces ',' text, htext, hne, hcomma, h⟩
  · rintro ⟨entries, htext, hne, hcomma, h⟩
    rwa [pieces_eq_iff.mpr ⟨htext, hne, hcomma⟩]

/-- **Reading transaction sets.** A text is read as a list of sets exactly if the grammar says that
it writes this list; a text that writes none is an error, whatever part of it is well formed. -/
theorem read_exactly (text : List Char) (sets : List TransactionSet) :
    (read text = .ok sets ↔ Writes text sets) ∧
      ((∃ fault, read text = .error fault) ↔ ¬ ∃ sets, Writes text sets) := by
  refine ⟨read_eq_ok, ?_⟩
  simp only [← read_eq_ok]
  cases read text with
  | error fault => simp
  | ok sets => simp

example : read "a:01-3:5\t, :7".toList =
    .ok [⟨"a", ⟨1, 3⟩, [⟨5, 5⟩]⟩, ⟨"", ⟨7, 7⟩, []⟩] := by rfl

end MysqlMetrics.Gtid
