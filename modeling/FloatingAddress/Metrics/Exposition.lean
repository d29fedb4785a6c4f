import FloatingAddress.Metrics.Basic
import FloatingAddress.Text.Double
import FloatingAddress.Text.Split

/-!
# The text form of metrics

Monitoring systems read metrics as lines of text. The families stand in the order of their names;
a family starts with a line of help and one with its type, followed by a line for every series.
A family without series is left out. Labels are written in the order of their names, and the
series are sorted by their label values in that order.
-/

namespace FloatingAddress.Metrics

/-- What is written about a family besides its series. -/
structure Heading where
  name : String
  help : String
  type : String
  /-- The label names in the order in which series give their values. -/
  labels : List String

/-- A label value with the backslash, the line feed and the quote escaped. -/
def escapeLabel (s : String) : String :=
  String.join (s.toList.map fun c =>
    match c with
    | '\\' => "\\\\"
    | '\n' => "\\n"
    | '"' => "\\\""
    | c => c.toString)

/-- The labels of a series as pairs, by label name. -/
def sortedLabels (heading : Heading) (labels : List String) : List (String × String) :=
  (heading.labels.zip labels).mergeSort fun a b => a.1 ≤ b.1

/-- The order of series: by their label values, one after the other. -/
def labelsLe (a b : List (String × String)) : Bool :=
  (List.compareLex compare (a.map (·.2)) (b.map (·.2))).isLE

def seriesLine (heading : Heading) (labels : List (String × String)) (reading : Int) : String :=
  let written := labels.map fun (name, value) => name ++ "=\"" ++ escapeLabel value ++ "\""
  heading.name ++ "\x7b" ++ ",".intercalate written ++ "\x7d " ++ Text.Double.ofInt reading

def familyLines (heading : Heading) (series : List (Series Int)) : List String :=
  if series.isEmpty then []
  else
    let sorted := (series.map fun s => (sortedLabels heading s.labels, s.reading)).mergeSort
      fun a b => labelsLe a.1 b.1
    s!"# HELP {heading.name} {heading.help}" :: s!"# TYPE {heading.name} {heading.type}" ::
      sorted.map fun (labels, reading) => seriesLine heading labels reading

/-- The series of gauges with whole numbers as readings. -/
def gaugeReadings (family : Family Int64) : List (Series Int) :=
  family.toList.map fun s => { labels := s.labels, reading := s.reading.toInt }

/-- The series of counters with whole numbers as readings. -/
def counterReadings (family : Family Nat) : List (Series Int) :=
  family.toList.map fun s => { labels := s.labels, reading := s.reading }

def rangeLabelNames : List String :=
  ["fiprangename", "fiprange", "harvesterclustername", "harvesternetworkname"]

def guestLabelNames : List String := ["guestclustername", "harvesterclustername"]

def render (m : Metrics) : List String :=
  familyLines ⟨"kubefipoperator_fipranges_capacity", "Usable addresses per FloatingIPRange",
      "gauge", rangeLabelNames⟩ (gaugeReadings m.capacity) ++
  familyLines ⟨"kubefipoperator_fipranges_reserved", "Reserved addresses per FloatingIPRange",
      "gauge", rangeLabelNames⟩ (gaugeReadings m.reserved) ++
  familyLines ⟨"kubefipoperator_guestcluster_events",
      "Guest cluster operations by step and outcome",
      "counter", guestLabelNames ++ ["event", "status"]⟩ (counterReadings m.events) ++
  familyLines ⟨"kubefipoperator_guestcluster_status", "Guest cluster reachability (1 up, 0 down)",
      "gauge", guestLabelNames⟩ (gaugeReadings m.status)

end FloatingAddress.Metrics
