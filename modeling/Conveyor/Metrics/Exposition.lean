/-
**The text in which metrics are collected.**

Main definitions:

* `Conveyor.Metrics.Registry.lines` — the lines of the text.
-/

import Conveyor.Metrics.Registry

set_option autoImplicit false

namespace Conveyor.Metrics

/-- Whether a character may stand in a plain name of a label. -/
def isLabelChar (isFirst : Bool) (c : Char) : Bool :=
  c.isAlpha || c == '_' || (c.isDigit && !isFirst)

/-- A text without the line break at its end. -/
def withoutBreak (cs : List Char) : List Char :=
  if cs.getLast? = some '\n' then cs.dropLast else cs

/-- A name with an underscore for every character that may not stand in it.  A name that is plain
but for a line break at its end stays as it is. -/
def plainName (allowed : Bool → Char → Bool) (name : String) : String :=
  match name.toList with
  | [] => ""
  | c :: rest =>
    if allowed true c && (withoutBreak rest).all (allowed false) then name
    else
      let keep := fun (isFirst : Bool) (c : Char) => if allowed isFirst c then c else '_'
      String.ofList (keep true c :: rest.map (keep false))

/-- The plain name of a label. -/
def labelName (name : String) : String := plainName isLabelChar name

/-- The plain name of a metric; colons may stand in it. -/
def metricName (name : String) : String :=
  plainName (fun isFirst c => isLabelChar isFirst c || c == ':') name

/-- Escapes a backslash and a line break. -/
def escapeHelp (s : String) : String :=
  String.ofList (s.toList.flatMap fun c =>
    if c = '\\' then ['\\', '\\'] else if c = '\n' then ['\\', 'n'] else [c])

/-- Escapes a backslash, a line break and a double quote. -/
def escapeValue (s : String) : String :=
  String.ofList (s.toList.flatMap fun c =>
    if c = '\\' ∨ c = '"' then ['\\', c] else if c = '\n' then ['\\', 'n'] else [c])

/-- The line of a sample. -/
def Sample.line (s : Sample) : String :=
  let labels := (sortedLabels s.labels).map fun l =>
    labelName l.1 ++ "=\"" ++ escapeValue l.2 ++ "\""
  let row := if labels.isEmpty then "" else "\x7b" ++ ",".intercalate labels ++ "\x7d"
  metricName s.name ++ row ++ " " ++ numberText s.value

/-- The name of a metric as it stands above its samples. -/
def Metric.shownName (m : Metric) : String :=
  metricName (if m.kind = .counter then m.name ++ counterEnding else m.name)

/-- The lines of a metric. -/
def Metric.lines (m : Metric) : List String :=
  ("# HELP " ++ m.shownName ++ " " ++ escapeHelp m.help) ::
    ("# TYPE " ++ m.shownName ++ " " ++ m.kind.name) :: m.samples.map Sample.line

/-- The lines of the text, which line breaks in names divide further. -/
def Registry.lines (r : Registry) : List String :=
  (r.metrics.flatMap fun e => e.2.lines).flatMap (·.splitOn "\n")

end Conveyor.Metrics
