import Mathlib.Data.List.Infix
import MysqlMetrics.Collector.Replication
import MysqlMetrics.Proofs.Status.Number

/-!
# Numbers of log files among the values of status variables

The number of a log file is read in two ways, from a column of log files and from a status that may
be anything. On a text that is a name, a point and digits they agree, unless the name reads as a
number itself: then the status is a number, or nothing.

* `LogFile.IsSequenced`: such a text; `value?_eq_number`, `value?_eq_read?`: its value as a status.
* `value?_of_points`: digits with two points or more, as in an address, have no value.
* `sequences_agree`: the two readings, and the columns that are read by them.
-/

namespace MysqlMetrics

open MysqlMetrics.Text

/-! ## Names, points and digits -/

namespace LogFile

/-- `text` is a name on one line, a point and decimal digits of any script. -/
structure IsSequenced (text name ds : List Char) : Prop where
  layout : text = name ++ '.' :: ds
  line : '\n' ∉ name
  nonempty : ds ≠ []
  isDecimalDigit : ∀ c ∈ ds, isDecimalDigit c = true

theorem isNumeric_iff {name : List Char} :
    isNumeric name = true ↔
      Decimal.read? name ≠ none ∨ ∀ c ∈ name, c.isDigit = true ∨ c = '.' := by
  simp [isNumeric, Option.isSome_iff_ne_none]

namespace IsSequenced

variable {text name ds : List Char} (h : IsSequenced text name ds)
include h

theorem not_mem {c : Char} (hc : Text.isDecimalDigit c = false) : c ∉ ds := by
  intro hmem
  rw [h.isDecimalDigit c hmem] at hc
  cases hc

theorem cutLast? : Text.cutLast? '.' text = some (name, ds) :=
  cutLast?_eq_some.mpr ⟨h.layout, h.not_mem (by decide)⟩

/-- The last character is a digit. -/
theorem exists_getLast? : ∃ c, text.getLast? = some c ∧ Text.isDecimalDigit c = true := by
  have hlast := exists_getLast?_append (name ++ ['.']) h.nonempty h.isDecimalDigit
  rwa [List.append_assoc, List.singleton_append, ← h.layout] at hlast

/-- A time with a zone is no such text: it ends in a letter. -/
theorem ne_zoned (z : DateTime.Zoned) : text ≠ z.text := by
  rintro rfl
  obtain ⟨c, hlast, hdigit⟩ := h.exists_getLast?
  rw [z.isDecimalDigit_getLast? hlast] at hdigit
  cases hdigit

theorem suffix?_of_not_isNumeric (hname : ¬isNumeric name = true) : suffix? text = some ds := by
  have hne : name ≠ [] := by
    rintro rfl
    exact hname (isNumeric_iff.mpr (.inr (by simp)))
  exact suffix?_eq_some.mpr ⟨name, h.cutLast?, hne, h.line, h.nonempty,
    List.all_eq_true.mpr h.isDecimalDigit, hname⟩

theorem suffix?_of_isNumeric (hname : isNumeric name = true) : suffix? text = none := by
  cases hsuffix : suffix? text with
  | none => rfl
  | some ds' =>
    obtain ⟨name', hcut, -, -, -, -, hnot⟩ := suffix?_eq_some.mp hsuffix
    rw [h.cutLast?] at hcut
    cases hcut
    exact absurd hname hnot

/-- Both readings of the number read the digits behind the point. -/
theorem sequence?_eq : sequence? ds = (number text).toOption.map Decimal.ofNatural64 := by
  rw [sequence?, number, h.cutLast?]
  cases hread : Natural.read maxNatural64 ds <;> simp only [hread] <;> rfl

/-- The digits are those of a number if they are ASCII digits and the number has 64 bits. -/
theorem number_eq_ok_iff {n : Nat} :
    number text = .ok n ↔
      (∀ c ∈ ds, c.isDigit = true) ∧ digitsValue ds = n ∧ n ≤ maxNatural64 := by
  rw [number_eq_ok]
  constructor
  · rintro ⟨name', suffix, hlayout, hpoint, ⟨ds', hds', -, hdigits, hvalue⟩, hlimit⟩
    have hcut := h.cutLast?
    rw [cutLast?_eq_some.mpr ⟨hlayout, hpoint⟩] at hcut
    cases hcut
    rcases hds' with rfl | rfl
    · exact ⟨hdigits, hvalue, hlimit⟩
    · exact absurd List.mem_cons_self (h.not_mem (c := '+') (by decide))
  · rintro ⟨hdigits, rfl, hlimit⟩
    exact ⟨name, ds, h.layout, h.not_mem (by decide), isNatural_digits h.nonempty hdigits, hlimit⟩

end IsSequenced

end LogFile

namespace Status

/-- No word for a switch has a point. -/
theorem keyword?_of_point {text : List Char} (h : '.' ∈ text) : keyword? text = none := by
  have hwords : ∀ word ∈ keywords, '.' ∉ word := by decide
  exact keyword?_of_mem h hwords

/-- A time with a zone does not end in digits: the zone is letters behind the last space. -/
theorem readZoned?_of_isSequenced {text name ds : List Char}
    (h : LogFile.IsSequenced text name ds) : DateTime.readZoned? text = none := by
  cases hread : DateTime.readZoned? text with
  | none => rfl
  | some t =>
    obtain ⟨z, hz, -⟩ := DateTime.readZoned?_eq_some.mp hread
    exact absurd hz (h.ne_zoned z)

section

variable {text name ds : List Char} (h : LogFile.IsSequenced text name ds)
  (htime : DateTime.readDashed? text = none)
include h htime

theorem value?_of_isSequenced :
    value? text = (LogFile.suffix? text).elim (Decimal.read? text) LogFile.sequence? :=
  value?_of_readings (keyword?_of_point (by simp [h.layout])) (readZoned?_of_isSequenced h) htime

theorem value?_eq_number (hname : ¬LogFile.isNumeric name = true) :
    value? text = (LogFile.number text).toOption.map Decimal.ofNatural64 := by
  rw [value?_of_isSequenced h htime, h.suffix?_of_not_isNumeric hname]
  exact h.sequence?_eq

theorem value?_eq_read? (hname : LogFile.isNumeric name = true) :
    value? text = Decimal.read? text := by
  rw [value?_of_isSequenced h htime, h.suffix?_of_isNumeric hname]
  rfl

end

/-! ## Digits with points -/

/-- No number has two points. -/
theorem read?_of_points {text : List Char} (h : 2 ≤ text.count '.') :
    Decimal.read? text = none := by
  cases hread : Decimal.read? text with
  | none => rfl
  | some x =>
    have hmem : '.' ∈ text := List.count_pos_iff.mp (by omega)
    obtain ⟨⟨name, suffix⟩, hcut⟩ :=
      Option.ne_none_iff_exists'.mp fun hnone => cutLast?_eq_none.mp hnone hmem
    obtain ⟨sign, whole, part, tail, hsign, rfl, rfl, hwhole, -, -⟩ :=
      Decimal.cutLast?_of_read? hread hcut
    obtain ⟨rfl, hpoint⟩ := cutLast?_eq_some.mp hcut
    have hsignPoint : '.' ∉ sign := by rcases hsign with rfl | rfl | rfl <;> decide
    have hwholePoint : '.' ∉ whole := not_mem_of_isDigit hwhole (by decide)
    have hone : (sign ++ whole ++ '.' :: (part ++ tail)).count '.' = 1 := by
      rw [List.count_append, List.count_append, List.count_cons_self,
        List.count_eq_zero_of_not_mem hsignPoint, List.count_eq_zero_of_not_mem hwholePoint,
        List.count_eq_zero_of_not_mem hpoint]
    omega

/-- An address or a version has no value: digits with two points or more. -/
theorem value?_of_points {text : List Char} (h : ∀ c ∈ text, c.isDigit = true ∨ c = '.')
    (hpoints : 2 ≤ text.count '.') : value? text = none := by
  have hpoint : '.' ∈ text := List.count_pos_iff.mp (by omega)
  have hnot {c : Char} (hdigit : c.isDigit = false) (hc : c ≠ '.') : c ∉ text := by
    intro hmem
    rcases h c hmem with hd | rfl
    · rw [hd] at hdigit
      cases hdigit
    · exact hc rfl
  have hzoned : DateTime.readZoned? text = none :=
    DateTime.readZoned?_of_not_mem (hnot (by decide) (by decide))
  have hdashed : DateTime.readDashed? text = none :=
    DateTime.readDashed?_of_not_mem (hnot (by decide) (by decide))
  have hsuffix : LogFile.suffix? text = none := by
    cases hread : LogFile.suffix? text with
    | none => rfl
    | some ds =>
      obtain ⟨name, hcut, -, -, -, -, hnumeric⟩ := LogFile.suffix?_eq_some.mp hread
      have hname : ∀ c ∈ name, c.isDigit = true ∨ c = '.' := fun c hc =>
        h c (by rw [(cutLast?_eq_some.mp hcut).1]; exact List.mem_append_left _ hc)
      exact absurd (LogFile.isNumeric_iff.mpr (.inr hname)) hnumeric
  rw [value?_of_readings (keyword?_of_point hpoint) hzoned hdashed, hsuffix]
  exact read?_of_points hpoints

end Status

/-! ## Columns -/

namespace Replication

variable (source : Context) (column text : String)

/-- A column that may hold anything gives its value as a status. -/
theorem values_statusValue :
    (statusValue source column text).samples.map Sample.value =
      (Status.value? text.toList).toList := by
  rw [statusValue]
  cases Status.value? text.toList <;> rfl

/-- A column of log files gives the number of the file. -/
theorem values_logFile (h : text ≠ "") :
    (logFile source column text).samples.map Sample.value =
      ((LogFile.number text.toList).toOption.map Decimal.ofNatural64).toList := by
  rw [logFile, if_neg h]
  cases LogFile.number text.toList <;> rfl

end Replication

namespace Status

/-- **The two readings of a log file agree.** Of a name, a point and digits that is no time, both
read the number that the digits write, up to 64 bits and in ASCII digits, and otherwise nothing; so
the relay log and the log of the source are shown with the same number. If the name is itself a
number or made of digits and points, the status is the number that the whole text writes, and that
is none for digits with two points or more. Only a time without a zone can end in digits. -/
theorem sequences_agree {text name ds : List Char} (h : LogFile.IsSequenced text name ds)
    (htime : DateTime.readDashed? text = none) :
    (Decimal.read? name = none ∧ (∃ c ∈ name, c.isDigit = false ∧ c ≠ '.') →
      value? text = (LogFile.number text).toOption.map Decimal.ofNatural64 ∧
      (∀ n, LogFile.number text = .ok n ↔
        (∀ c ∈ ds, c.isDigit = true) ∧ digitsValue ds = n ∧ n ≤ maxNatural64) ∧
      ∀ source,
        (Replication.cell source "Relay_Log_File" (String.ofList text)).samples.map Sample.value =
          (Replication.cell source "Master_Log_File" (String.ofList text)).samples.map
            Sample.value) ∧
    (Decimal.read? name ≠ none ∨ (∀ c ∈ name, c.isDigit = true ∨ c = '.') →
      value? text = Decimal.read? text) ∧
    ∀ address : List Char, (∀ c ∈ address, c.isDigit = true ∨ c = '.') → 2 ≤ address.count '.' →
      value? address = none := by
  refine ⟨?_, fun hname => value?_eq_read? h htime (LogFile.isNumeric_iff.mpr hname),
    fun address => value?_of_points⟩
  rintro ⟨hread, c, hc, hdigit, hpoint⟩
  have hname : ¬LogFile.isNumeric name = true := by
    rw [LogFile.isNumeric_iff]
    rintro (hnumber | hall)
    · exact hnumber hread
    · rcases hall c hc with hd | rfl
      · rw [hd] at hdigit
        cases hdigit
      · exact hpoint rfl
  have hvalue := value?_eq_number h htime hname
  refine ⟨hvalue, fun n => h.number_eq_ok_iff, fun source => ?_⟩
  have hne : String.ofList text ≠ "" := by
    intro hempty
    have hnil : text = [] := by rw [← String.toList_ofList (l := text), hempty]; rfl
    rw [h.layout] at hnil
    simp at hnil
  have hrelay : Replication.cell source "Relay_Log_File" (String.ofList text) =
      Replication.statusValue source "Relay_Log_File" (String.ofList text) := rfl
  have hmaster : Replication.cell source "Master_Log_File" (String.ofList text) =
      Replication.logFile source "Master_Log_File" (String.ofList text) := rfl
  rw [hrelay, hmaster, Replication.values_statusValue, Replication.values_logFile _ _ _ hne,
    String.toList_ofList, hvalue]

theorem sequences_agree_relay :
    LogFile.number "relay-bin.000042".toList = .ok 42 ∧
      value? "relay-bin.000042".toList = some (Decimal.ofNatural64 42) ∧
      value? "10.0.0.5".toList = none := by
  have hdigits : ∀ c ∈ "000042".toList, c.isDigit = true := by simp
  have h : LogFile.IsSequenced "relay-bin.000042".toList "relay-bin".toList "000042".toList :=
    ⟨rfl, by simp, by simp, fun c hc => isDecimalDigit_of_isDigit (hdigits c hc)⟩
  obtain ⟨hnamed, -, haddress⟩ := sequences_agree h rfl
  obtain ⟨hvalue, hnumber, -⟩ := hnamed ⟨rfl, 'r', by simp, rfl, by decide⟩
  have h42 := (hnumber 42).mpr ⟨hdigits, rfl, by decide⟩
  refine ⟨h42, ?_, haddress _ (by simp) (by simp)⟩
  rw [hvalue, h42]
  rfl

end Status

end MysqlMetrics
