import OptOut.Double.Shortest
import OptOut.Text.Numeral
import Std.Data.TreeMap

/-!
# Metrics

Counts of what was decided and what went wrong, and their text form for a collector: families in
order of name, samples in order of label, each value a double in decimal.
-/

namespace OptOut

/-- A 64-bit count under each label that has been seen. -/
abbrev Counters := Std.TreeMap String UInt64

def Counters.add (counters : Counters) (label : String) (amount : UInt64) : Counters :=
  counters.insert label (counters.getD label 0 + amount)

structure Metrics where
    /-- Replies, by action. -/
    decisions : Counters := ∅
    malformedLines : UInt64 := 0
    /-- Recorded requests, by kind of target. -/
    vanishRequests : Counters := ∅
    /-- Failures to persist, by operation. -/
    storeFailures : Counters := ∅
    members : Nat := 0

namespace Metrics

def countDecision (metrics : Metrics) (action : String) : Metrics :=
  { metrics with decisions := metrics.decisions.add action 1 }

def countMalformedLine (metrics : Metrics) : Metrics :=
  { metrics with malformedLines := metrics.malformedLines + 1 }

def countRequest (metrics : Metrics) (target : String) : Metrics :=
  { metrics with vanishRequests := metrics.vanishRequests.add target 1 }

def countStoreFailures (metrics : Metrics) (operation : String) (count : UInt64) : Metrics :=
  { metrics with storeFailures := metrics.storeFailures.add operation count }

/-- The largest signed number of 64 bits, where the gauge stops. -/
def maximalGauge : Nat := 0x7FFFFFFFFFFFFFFF

def showMembers (metrics : Metrics) (members : Nat) : Metrics :=
  { metrics with members := min members maximalGauge }

/-- One line of the text form. -/
structure Sample where
    label : Option (String × String)
    value : Nat

structure Family where
    name : String
    help : String
    type : String
    samples : List Sample

def labelled (label : String) (counters : Counters) : List Sample :=
  counters.toList.map fun (value, count) => ⟨some (label, value), count.toNat⟩

def families (metrics : Metrics) : List Family := [
  ⟨"vg_policy_decisions_total", "Decisions returned to the relay host", "counter",
    labelled "action" metrics.decisions⟩,
  ⟨"vg_policy_malformed_lines_total", "Host input lines that could not be decoded", "counter",
    [⟨none, metrics.malformedLines.toNat⟩]⟩,
  ⟨"vg_store_failures_total", "Durable store failures", "counter",
    labelled "operation" metrics.storeFailures⟩,
  ⟨"vg_vanish_cache_members", "Senders currently held in the membership cache", "gauge",
    [⟨none, metrics.members⟩]⟩,
  ⟨"vg_vanish_requests_total", "Vanish requests recorded", "counter",
    labelled "target" metrics.vanishRequests⟩]

def escapeLabel (char : Char) : List Char :=
  match char with
  | '\\' => ['\\', '\\']
  | '"' => ['\\', '"']
  | '\n' => ['\\', 'n']
  | _ => [char]

def labelText : Option (String × String) → List Char
  | none => []
  | some (name, value) =>
    '{' :: name.toList ++ ['=', '"'] ++ value.toList.flatMap escapeLabel ++ ['"', '}']

/-- Every value is shown as the double nearest to it. -/
def valueText (value : Nat) : String :=
  Text.decimal (Double.shortest (Double.nearest value))

def Sample.line (name : String) (sample : Sample) : String :=
  name ++ String.ofList (labelText sample.label) ++ " " ++ valueText sample.value

def Family.lines (family : Family) : List String :=
  family.samples.map (Sample.line family.name)

def lines (metrics : Metrics) : List String :=
  metrics.families.flatMap Family.lines

def Family.text (family : Family) : List String :=
  if family.samples.isEmpty then []
  else ("# HELP " ++ family.name ++ " " ++ family.help) ::
    ("# TYPE " ++ family.name ++ " " ++ family.type) :: family.lines

/-- The text form, each family under its help and its type. -/
def text (metrics : Metrics) : String :=
  String.join ((metrics.families.flatMap Family.text).map (· ++ "\n"))

end Metrics

end OptOut
