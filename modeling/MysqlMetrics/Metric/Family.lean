import MysqlMetrics.Metric.Sample

/-!
# Metric families

A family is what an exposition shows of one metric name: its help, its type and its time series,
each with its own label values. `Family.ofSamples` groups the samples of a scrape into families.

The first sample of a name settles its family: if its descriptor is not valid there is no family of
that name, and samples whose type or label names differ from it are left out. Of samples with the
same label values only the first counts. What remains is entered into the family one by one
(`Series.enter`), which keeps a series under its label values written one after another.

* `Family.conforming` and `Family.distinct` say which samples of a name count.
* `Family.ofSamples` sorts families by name, and their series by label values.
-/

namespace MysqlMetrics

/-- The type of a family in an exposition, which knows no untyped metrics. -/
inductive FamilyType where
  | gauge
  | counter
  | histogram
  deriving DecidableEq, Repr

/-- An untyped metric is shown as a gauge. -/
def MetricType.shown : MetricType → FamilyType
  | .counter => .counter
  | .gauge | .untyped => .gauge

/-- Observations counted by upper bounds: `buckets` holds each bound with the number of observations
up to it. -/
structure Distribution where
  buckets : List (Float × Nat)
  sum : Float
  count : Nat
  deriving DecidableEq

/-- What a time series shows. -/
inductive Reading where
  | single (value : Float)
  | distribution (d : Distribution)
  deriving DecidableEq

/-- A time series of a family: its labels in the order of their names, and what it shows. -/
structure Series where
  labels : List (String × String)
  reading : Reading
  deriving DecidableEq

/-- A family of time series. -/
structure Family where
  name : String
  help : String
  type : FamilyType
  series : List Series
  deriving DecidableEq

/-- A series while its family is filled: its label values as they are declared, and its value. -/
structure Entry where
  labels : List String
  value : Float
  deriving DecidableEq

namespace Entry

/-- The key of a series among those of its family: its label values one after another. -/
def key (labels : List String) : String := String.join labels

/-- Changes the value under the key of `labels`, or begins a series with these labels. -/
def put (labels : List String) (change : Option Float → Float) : List Entry → List Entry
  | [] => [⟨labels, change none⟩]
  | e :: rest =>
    if key e.labels = key labels then ⟨e.labels, change (some e.value)⟩ :: rest
    else e :: put labels change rest

/-- Enters a sample: a counter grows by a value that is not negative and ignores any other, every
other series takes the value. -/
def enter (entries : List Entry) (s : Sample) : List Entry :=
  match s.type with
  | .counter =>
    if 0 ≤ s.value then put s.labels (fun old => old.getD 0 + s.value) entries else entries
  | .gauge | .untyped => put s.labels (fun _ => s.value) entries

/-- The series of an entry, given the names of its labels. -/
def series (labelNames : List String) (e : Entry) : Series :=
  ⟨(labelNames.zip e.labels).mergeSort fun a b => decide (a.1 ≤ b.1), .single e.value⟩

end Entry

namespace Series

/-- The label values in the order of their names. -/
def values (s : Series) : List String := s.labels.map Prod.snd

end Series

namespace Family

/-- The sample has the type and the label names of the first sample of its name. -/
def agrees (first s : Sample) : Bool :=
  s.type = first.type && s.descriptor.labelNames = first.descriptor.labelNames

/-- The samples that agree with the first one. -/
def conforming : List Sample → List Sample
  | [] => []
  | first :: rest => first :: rest.filter (agrees first)

/-- The samples that repeat no label values of an earlier one. -/
def distinct : List Sample → List Sample
  | [] => []
  | s :: rest => s :: (distinct rest).filter fun t => t.labels ≠ s.labels

/-- The entries of a family with these samples of its name. -/
def entries (samples : List Sample) : List Entry :=
  (distinct (conforming samples)).foldl Entry.enter []

/-- Sorts series by their label values. -/
def sortSeries (series : List Series) : List Series :=
  series.mergeSort fun a b => !decide (b.values < a.values)

/-- The family of the samples of one name, if its descriptor is valid and it has any series. -/
def ofGroup? : List Sample → Option Family
  | [] => none
  | first :: rest =>
    if first.descriptor.isValid then
      match entries (first :: rest) with
      | [] => none
      | es@(_ :: _) =>
        some ⟨first.name, first.descriptor.help, first.type.shown,
          sortSeries (es.map (Entry.series first.descriptor.labelNames))⟩
    else none

/-- The names of samples without repetition, sorted. -/
def names (samples : List Sample) : List String :=
  (samples.map Sample.name).eraseDups.mergeSort fun a b => decide (a ≤ b)

/-- The samples of a name. -/
def group (samples : List Sample) (name : String) : List Sample :=
  samples.filter fun s => s.name = name

/-- The families of the samples of a scrape, sorted by name. -/
def ofSamples (samples : List Sample) : List Family :=
  (names samples).filterMap fun name => ofGroup? (group samples name)

end Family

end MysqlMetrics
