/-
**Metrics: named values that go up and down, with labels.**

A metric has a cell for each row of label values that was ever used; a metric without labels has one
cell from the start.  A counter only goes up, a gauge goes up and down, and a histogram counts
observations below bounds.

Main definitions:

* `Conveyor.Metrics.Definition` — what a metric is called and what it holds;
* `Conveyor.Metrics.Registry` — the metrics in the order in which they were registered;
* `Conveyor.Metrics.Registry.register`, `Conveyor.Metrics.Registry.add`,
  `Conveyor.Metrics.Registry.lower`, `Conveyor.Metrics.Registry.observe` — changing it;
* `Conveyor.Metrics.Registry.samples` — the values that it shows.
-/

import Conveyor.Decimal.Shortest
import Conveyor.Fault
import Conveyor.Text.Number

set_option autoImplicit false

namespace Conveyor.Metrics

/-- The kinds of metrics. -/
inductive Kind where
  | counter
  | gauge
  | histogram
  deriving DecidableEq, Repr

/-- The name of a kind. -/
def Kind.name : Kind → String
  | .counter => "counter"
  | .gauge => "gauge"
  | .histogram => "histogram"

/-- The name of a kind with a capital. -/
def Kind.title : Kind → String
  | .counter => "Counter"
  | .gauge => "Gauge"
  | .histogram => "Histogram"

/-- The kind of a name. -/
def Kind.ofName? : String → Option Kind
  | "counter" => some .counter
  | "gauge" => some .gauge
  | "histogram" => some .histogram
  | _ => none

/-- What a metric is called and what it holds. -/
structure Definition where
  name : String
  help : String
  kind : Kind
  labels : List String := []
  /-- The bounds of a histogram; what counts as nothing stands for the usual ones. -/
  bounds : Datum := .null

/-- What is wrong with a metric or its use. -/
inductive Error where
  | emptyName
  | nothingLeft
  | reservedLabel (label : String)
  | ownLabel (label : String)
  | boundOrder
  | fewBounds
  /-- Bounds that are no row. -/
  | noRow (kind : String)
  /-- A bound that is no number and no text. -/
  | noNumber (kind : String)
  | badNumber (e : Text.NumberError)
  | tooLarge
  | duplicate
  /-- Labels that cannot be told apart from the metric itself. -/
  | selfLabel
  | missingLabels (kind : Kind)
  | withoutLabels (kind : Kind) (name : String)
  | wrongLabels
  | negative
  /-- An amount that cannot be compared with zero. -/
  | unordered (kind : String)
  /-- An amount that cannot be added. -/
  | unaddable (kind : String)
  | unable (kind : Kind) (operation : String)
  deriving DecidableEq, Repr

/-- An error as a fault. -/
def Error.fault : Error → Fault
  | .emptyName => .value "Metric name should not be empty"
  | .nothingLeft => .value "metric name cannot be empty"
  | .reservedLabel l => .value ("Reserved label metric name: " ++ l)
  | .ownLabel l => .value ("Reserved label methe fric name: " ++ l)
  | .boundOrder => .value "Buckets not in sorted order"
  | .fewBounds => .value "Must have at least two buckets"
  | .noRow k => .outside "TypeError" ("'" ++ k ++ "' object is not iterable")
  | .noNumber k =>
    .outside "TypeError" ("float() argument must be a string or a real number, not '" ++ k ++ "'")
  | .badNumber e => .value e.message
  | .tooLarge => .outside "OverflowError" "int too large to convert to float"
  | .selfLabel =>
    .outside "TypeError" "MetricWrapperBase.labels() got multiple values for argument 'self'"
  | .duplicate => .outside "DuplicateTimeseries" ""
  | .missingLabels k => .value (k.name ++ " metric is missing label values")
  | .withoutLabels k n =>
    .value ("No label names were set when constructing " ++ k.name ++ ":" ++ n)
  | .wrongLabels => .value "Incorrect label names"
  | .negative => .value "Counters can only be incremented by non-negative amounts."
  | .unordered k =>
    .outside "TypeError" ("'<' not supported between instances of '" ++ k ++ "' and 'int'")
  | .unaddable k =>
    .outside "TypeError" ("unsupported operand type(s) for +=: 'float' and '" ++ k ++ "'")
  | .unable k operation =>
    .outside "AttributeError" ("'" ++ k.title ++ "' object has no attribute '" ++ operation ++ "'")

/-- The values for a row of labels: the value of a counter or gauge or the sum of a histogram, and
the counts between the bounds of a histogram. -/
structure Cell where
  labelValues : List String
  value : Float := 0
  counts : List Float := []

/-- A registered metric. -/
structure Metric where
  /-- The name without the ending of counters. -/
  name : String
  help : String
  kind : Kind
  labels : List String
  bounds : List Float
  cells : List Cell

/-- The metrics by the names they were registered under, in order. -/
structure Registry where
  metrics : List (String × Metric) := []

/-- A shown value. -/
structure Sample where
  name : String
  labels : List (String × String)
  value : Float

/-! ### Registering -/

/-- The ending of counters. -/
def counterEnding : String := "_total"

/-- A name without an ending. -/
def dropEnding (ending name : String) : String :=
  if ending.toList.isSuffixOf name.toList then
    String.ofList (name.toList.take (name.length - ending.length))
  else name

/-- The endings that the samples of a kind have, and one that is kept free. -/
def Kind.endings : Kind → List String
  | .counter => ["_total", "_created"]
  | .gauge => []
  | .histogram => ["_bucket", "_sum", "_count", "_created"]

/-- The names that a metric takes up. -/
def Metric.taken (m : Metric) : List String := m.name :: m.kind.endings.map (m.name ++ ·)

/-- The bounds of histograms that have none of their own. -/
def usualBounds : List Float :=
  [0.005, 0.01, 0.025, 0.05, 0.075, 0.1, 0.25, 0.5, 0.75, 1.0, 2.5, 5.0, 7.5, 10.0]

/-- The bound above everything. -/
def topBound : Float := 1.0 / 0.0

/-- Whether no number is below the one before it. -/
def ascending : List Float → Bool
  | a :: b :: rest => !(b < a) && ascending (b :: rest)
  | _ => true

/-- A whole number as a float, if it is not too large. -/
def ofWhole (i : Int) : Except Error Float :=
  let x := Float.ofInt i
  if x.isInf then .error .tooLarge else .ok x

/-- A bound: a number, or a text that writes one. -/
def boundOf : Datum → Except Error Float
  | .int i => ofWhole i
  | .bool b => .ok (if b then 1 else 0)
  | .float x => .ok x
  | .text s =>
    match Text.decimal s with
    | .ok x => .ok x
    | .error e => .error (.badNumber e)
  | d => .error (.noNumber d.typeName)

/-- The parts of a row of bounds: the items of a list, the keys of a mapping, the characters of a
text. -/
def boundParts : Datum → Except Error (List Datum)
  | .list items => .ok items
  | .dict entries => .ok (entries.map (·.1))
  | .text s => .ok (s.toList.map fun c => .text c.toString)
  | d => .error (.noRow d.typeName)

/-- The bounds of a histogram, the one above everything included. -/
def boundsOf (d : Datum) : Except Error (List Float) := do
  let bounds ← if d.truthy then (← boundParts d).mapM boundOf else pure usualBounds
  unless ascending bounds do throw .boundOrder
  let closed := match bounds.getLast? with
    | some b => if b == topBound then bounds else bounds ++ [topBound]
    | none => bounds
  if closed.length < 2 then throw .fewBounds
  return closed

/-- Whether the name of a label is kept free: two underscores, and one line. -/
def isReserved (label : String) : Bool :=
  match label.toList with
  | '_' :: '_' :: rest =>
    let after := rest.dropWhile (· != '\n')
    after.isEmpty || after == ['\n']
  | _ => false

/-- A cell without a value. -/
def newCell (bounds : List Float) (labelValues : List String) : Cell :=
  { labelValues, counts := bounds.map fun _ => 0 }

/-- The metric of a definition. -/
def Definition.metric (d : Definition) : Except Error Metric := do
  let bounds ← match d.kind with
    | .histogram => boundsOf d.bounds
    | _ => pure []
  if d.name.isEmpty then throw .emptyName
  for l in d.labels do
    if isReserved l then throw (.reservedLabel l)
    if d.kind = .histogram ∧ l = "le" then throw (.ownLabel l)
  let name := if d.kind = .counter then dropEnding counterEnding d.name else d.name
  if name.isEmpty then throw .nothingLeft
  return { name, help := d.help, kind := d.kind, labels := d.labels, bounds
           cells := if d.labels.isEmpty then [newCell bounds []] else [] }

namespace Registry

/-- The metric of a name. -/
def metric? (r : Registry) (name : String) : Option Metric :=
  (r.metrics.find? (·.1 == name)).map (·.2)

/-- The registry with a metric changed. -/
def put (r : Registry) (name : String) (m : Metric) : Registry :=
  { metrics := r.metrics.map fun e => if e.1 = name then (name, m) else e }

/-- Registers a metric.  A name that is registered already stays as it is. -/
def register (r : Registry) (d : Definition) : Except Error Registry :=
  if (r.metric? d.name).isSome then .ok r
  else do
    let m ← d.metric
    if r.metrics.any fun e => e.2.taken.any (m.taken.contains ·) then throw .duplicate
    return { metrics := r.metrics ++ [(d.name, m)] }

end Registry

/-! ### Changing values -/

/-- The label values of a row of labels, in the order of a metric; none stand for the metric
itself. -/
def Metric.valuesOf (m : Metric) (labels : List (String × String)) : Except Error (List String) :=
  if labels.isEmpty then .ok []
  else if labels.any (·.1 == "self") then .error .selfLabel
  else if m.labels.isEmpty then .error (.withoutLabels m.kind m.name)
  else
    let sorted := fun (ls : List String) => ls.mergeSort fun a b => decide (a ≤ b)
    if sorted (labels.map (·.1)) ≠ sorted m.labels then .error .wrongLabels
    else .ok (m.labels.map fun l => ((labels.find? (·.1 == l)).map (·.2)).getD "")

/-- The metric with a cell for label values; the metric itself has one when it has no labels. -/
def Metric.withCell (m : Metric) (values : List String) : Metric :=
  if values.isEmpty ∨ m.cells.any (·.labelValues == values) then m
  else { m with cells := m.cells ++ [newCell m.bounds values] }

/-- The metric with the cell of label values changed. -/
def Metric.modifyCell (m : Metric) (values : List String) (f : Cell → Cell) : Metric :=
  { m with cells := m.cells.map fun c => if c.labelValues = values then f c else c }

/-- Whether there is a cell for label values. -/
def Metric.holds (m : Metric) (values : List String) : Bool :=
  m.cells.any (·.labelValues == values)

/-- Counts an observation at the first bound that is not below it. -/
def countAt (x : Float) : List Float → List Float → List Float
  | b :: bounds, n :: counts => if x ≤ b then (n + 1) :: counts else n :: countAt x bounds counts
  | _, counts => counts

/-- Whether an amount is below zero. -/
def isNegative : Datum → Except Error Bool
  | .int i => .ok (i < 0)
  | .float x => .ok (x < 0)
  | .bool _ => .ok false
  | d => .error (.unordered d.typeName)

/-- An amount as it is added. -/
def amountOf : Datum → Except Error Float
  | .int i => ofWhole i
  | .float x => .ok x
  | .bool b => .ok (if b then 1 else 0)
  | d => .error (.unaddable d.typeName)

/-- Adds to the cell of label values. -/
def Metric.add (m : Metric) (values : List String) (amount : Datum) : Except Error Metric := do
  if m.kind = .histogram then throw (.unable m.kind "inc")
  unless m.holds values do throw (.missingLabels m.kind)
  if m.kind = .counter then
    if ← isNegative amount then throw .negative
  let x ← amountOf amount
  return m.modifyCell values fun c => { c with value := c.value + x }

/-- Takes one away from the cell of label values. -/
def Metric.lower (m : Metric) (values : List String) : Except Error Metric :=
  if m.kind ≠ .gauge then .error (.unable m.kind "dec")
  else if !m.holds values then .error (.missingLabels m.kind)
  else .ok (m.modifyCell values fun c => { c with value := c.value - 1 })

/-- Observes a value in the cell of label values. -/
def Metric.observe (m : Metric) (values : List String) (amount : Datum) :
    Except Error Metric := do
  if m.kind ≠ .histogram then throw (.unable m.kind "observe")
  unless m.holds values do throw (.missingLabels m.kind)
  let x ← amountOf amount
  return m.modifyCell values fun c =>
    { c with value := c.value + x, counts := countAt x m.bounds c.counts }

namespace Registry

/-- Changes a metric in the cell of a row of labels.  An unknown name changes nothing; a cell that
is named is there from then on, also when the change is refused. -/
def change (r : Registry) (name : String) (labels : List (String × String))
    (f : Metric → List String → Except Error Metric) : Registry × Option Error :=
  match r.metric? name with
  | none => (r, none)
  | some m =>
    match m.valuesOf labels with
    | .error e => (r, some e)
    | .ok values =>
      let m := m.withCell values
      match f m values with
      | .ok changed => (r.put name changed, none)
      | .error e => (r.put name m, some e)

/-- Adds to a counter or a gauge. -/
def add (r : Registry) (name : String) (labels : List (String × String)) (amount : Datum) :
    Registry × Option Error :=
  r.change name labels fun m values => m.add values amount

/-- Takes one away from a gauge. -/
def lower (r : Registry) (name : String) (labels : List (String × String)) :
    Registry × Option Error :=
  r.change name labels Metric.lower

/-- Observes a value in a histogram. -/
def observe (r : Registry) (name : String) (labels : List (String × String)) (amount : Datum) :
    Registry × Option Error :=
  r.change name labels fun m values => m.observe values amount

end Registry

/-! ### Showing values -/

/-- A number of a sample: positive numbers are positional below a million. -/
def numberText (x : Float) : String :=
  if x.isNaN then "NaN"
  else if x.isInf then (if x < 0 then "-Inf" else "+Inf")
  else if 0 < x then Decimal.render ⟨-4, 5⟩ (Decimal.ofFloat x)
  else Decimal.floatText x

/-- The counts below each bound. -/
def below (sum : Float) : List Float → List Float
  | [] => []
  | n :: rest => (sum + n) :: below (sum + n) rest

/-- The samples of a cell. -/
def Metric.cellSamples (m : Metric) (c : Cell) : List Sample :=
  let labels := m.labels.zip c.labelValues
  match m.kind with
  | .counter => [{ name := m.name ++ counterEnding, labels, value := c.value }]
  | .gauge => [{ name := m.name, labels, value := c.value }]
  | .histogram =>
    let sums := below 0 c.counts
    (m.bounds.zip sums).map (fun b =>
      { name := m.name ++ "_bucket", labels := labels ++ [("le", numberText b.1)], value := b.2 })
      ++ [{ name := m.name ++ "_count", labels, value := sums.getLastD 0 }]
      ++ (if 0 ≤ m.bounds.headD 0 then [{ name := m.name ++ "_sum", labels, value := c.value }]
        else [])

/-- The samples of a metric. -/
def Metric.samples (m : Metric) : List Sample := m.cells.flatMap m.cellSamples

/-- The samples of a registry. -/
def Registry.samples (r : Registry) : List Sample := r.metrics.flatMap fun e => e.2.samples

/-- Labels in the order of their names. -/
def sortedLabels (labels : List (String × String)) : List (String × String) :=
  labels.mergeSort fun a b => decide (a.1 ≤ b.1)

/-- The value of the first sample with a name and labels. -/
def Registry.sample? (r : Registry) (name : String) (labels : List (String × Datum)) :
    Option Float := do
  let labels ← labels.mapM fun
    | (l, .text v) => some (l, v)
    | _ => none
  let s ← r.samples.find? fun s =>
    s.name == name && sortedLabels s.labels == sortedLabels labels
  return s.value

end Conveyor.Metrics
