import MysqlMetrics.Metric.Name

/-!
# Samples

A sample is one value of one metric at the time of a scrape: what it measures, its type, its value
and a value for each label. A sample with too few or too many label values is incomplete, and the
sink that samples go through drops it.

* `Sample.accepted` is that sink.
* `Descriptor.isValid` says when an exposition can show a metric at all.
-/

namespace MysqlMetrics

/-- What a metric measures: its full name, its help and the names of its labels. -/
structure Descriptor where
  name : String
  help : String
  labelNames : List String
  deriving DecidableEq, Repr

/-- The namespace of all metrics. -/
def metricNamespace : String := "mysql"

namespace Descriptor

/-- The descriptor of a metric of a subsystem. -/
def of (subsystem name help : String) (labelNames : List String) : Descriptor :=
  ⟨Metric.qualifiedName [metricNamespace, subsystem, name], help, labelNames⟩

/-- The descriptor can be shown: it has a help, a valid name, and valid label names without a
repetition. -/
def isValid (d : Descriptor) : Bool :=
  d.help ≠ "" && Metric.isValidName d.name && d.labelNames.all Metric.isValidLabel &&
    decide d.labelNames.Nodup

end Descriptor

/-- How the values of a metric behave. -/
inductive MetricType where
  | gauge
  | counter
  | untyped
  deriving DecidableEq, Repr

/-- One value of one metric. -/
structure Sample where
  descriptor : Descriptor
  type : MetricType
  value : Float
  labels : List String
  deriving DecidableEq

namespace Sample

/-- The name of a sample's metric. -/
def name (s : Sample) : String := s.descriptor.name

/-- A sample of a metric. -/
def of (descriptor : Descriptor) (type : MetricType) (value : Float) (labels : List String) :
    Sample :=
  ⟨descriptor, type, value, labels⟩

/-- Every label has a value, and every value a label. -/
def isComplete (s : Sample) : Bool := s.labels.length = s.descriptor.labelNames.length

/-- The complete samples among those sent, in their order. -/
def accepted (samples : List Sample) : List Sample := samples.filter isComplete

/-- The value of a label. -/
def label? (s : Sample) (name : String) : Option String :=
  (s.descriptor.labelNames.idxOf? name).bind (s.labels[·]?)

end Sample

end MysqlMetrics
