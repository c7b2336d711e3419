import MysqlMetrics.Metric.Family
import MysqlMetrics.Decimal.Shortest

/-!
# Text exposition

The text format in which metrics are handed out: for each family its help, its type and a line for
each value. A family without a name or without series can not be shown.

* `Exposition.lines` is the text of families, line by line.
* `Exposition.encode` joins the lines, if every family can be shown.
-/

namespace MysqlMetrics

/-- Why families can not be shown. -/
inductive ExpositionError where
  | noSeries (family : String)
  | noName
  deriving DecidableEq, Repr

/-- The wording of an exposition's fault. -/
def ExpositionError.message : ExpositionError → String
  | .noSeries name => "MetricFamily has no metrics: " ++ name
  | .noName => "MetricFamily has no name"

namespace Exposition

/-- A help on one line: backslash and line feed behind a backslash. -/
def escapeHelp (text : String) : String :=
  String.ofList (text.toList.flatMap fun c =>
    match c with
    | '\\' => ['\\', '\\']
    | '\n' => ['\\', 'n']
    | c => [c])

/-- A label's value between quotes: backslash, line feed and quote behind a backslash. -/
def escapeValue (text : String) : String :=
  String.ofList (text.toList.flatMap fun c =>
    match c with
    | '\\' => ['\\', '\\']
    | '\n' => ['\\', 'n']
    | '"' => ['\\', '"']
    | c => [c])

/-- The word for a type. -/
def typeWord : FamilyType → String
  | .gauge => "gauge"
  | .counter => "counter"
  | .histogram => "histogram"

/-- Labels between braces; nothing if there are none. -/
def labelText (labels : List (String × String)) : String :=
  if labels.isEmpty then ""
  else
    let each := labels.map fun (name, value) => name ++ "=\"" ++ escapeValue value ++ "\""
    "\x7b" ++ ",".intercalate each ++ "\x7d"

/-- A line of a value. -/
def valueLine (name : String) (labels : List (String × String)) (value : String) : String :=
  name ++ labelText labels ++ " " ++ value

/-- The lines of a series: one value, or a count for each bound, the sum and the count. -/
def seriesLines (name : String) (s : Series) : List String :=
  match s.reading with
  | .single value => [valueLine name s.labels (Decimal.render value)]
  | .distribution d =>
    let bucket (bound : String) (count : Nat) :=
      valueLine (name ++ "_bucket") (s.labels ++ [("le", bound)]) (toString count)
    d.buckets.map (fun (bound, count) => bucket (Decimal.render bound) count) ++
      [bucket "+Inf" d.count, valueLine (name ++ "_sum") s.labels (Decimal.render d.sum),
        valueLine (name ++ "_count") s.labels (toString d.count)]

/-- The lines of a family. -/
def familyLines (f : Family) : List String :=
  (if f.help = "" then [] else ["# HELP " ++ f.name ++ " " ++ escapeHelp f.help]) ++
    ["# TYPE " ++ f.name ++ " " ++ typeWord f.type] ++ f.series.flatMap (seriesLines f.name)

/-- The lines of families, in their order. -/
def lines (families : List Family) : List String := families.flatMap familyLines

/-- The fault of the first family that can not be shown. -/
def fault? (families : List Family) : Option ExpositionError :=
  families.findSome? fun f =>
    if f.series.isEmpty then some (.noSeries f.name) else if f.name = "" then some .noName else none

/-- The text of families. -/
def encode (families : List Family) : Except ExpositionError String :=
  match fault? families with
  | some e => .error e
  | none => .ok (String.join ((lines families).map (· ++ "\n")))

end Exposition

end MysqlMetrics
