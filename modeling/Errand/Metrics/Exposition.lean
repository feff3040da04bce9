import Errand.Metrics

/-! # Metrics as samples and as text

`Metrics.families` lists every metric with its samples, and `client` is the client that exposes
them. `exposition` writes them in the text format that a collector reads, a heading of two lines
before the samples of each metric; a quote, a backslash or a line feed in a label is written behind
a backslash. The version and the name of the program are labels too and may be any values, but only
texts can be written. -/

namespace Errand

namespace Metrics

/-- A metric with its samples. -/
structure Family where
  name : String
  help : String
  type : String
  samples : List Sample

/-- The first six digits of a number stand before the point; a positive number with more of them
has an exponent of at least two digits. -/
def numberText (x : Float) : String :=
  if x.isNaN then "NaN"
  else if x.isInf then if x > 0 then "+Inf" else "-Inf"
  else
    let s := (Value.floatText x).toList
    let whole := s.takeWhile (· != '.')
    if x > 0 && s.contains '.' && 6 < whole.length then
      let digits := whole ++ (s.dropWhile (· != '.')).drop 1
      let mantissa := (digits.take 1 ++ '.' :: digits.drop 1).reverse.dropWhile
        fun c => c == '0' || c == '.'
      let exponent := whole.length - 1
      .ofList mantissa.reverse ++ (if exponent < 10 then "e+0" else "e+") ++ toString exponent
    else .ofList s

/-- The samples of the durations of one outcome. -/
def durationSamples (entry : String × Durations) : List Sample :=
  let h := durationHistogram
  ((Durations.bounds.zip entry.2.cumulative).map fun (b, n) =>
    ⟨h.bucket [entry.1] (numberText b), .count n⟩) ++
  [⟨h.count [entry.1], .count entry.2.count⟩, ⟨h.sum [entry.1], .amount entry.2.sum⟩]

/-- The sample of the failures of one reason. -/
def failedSample (entry : String × Nat) : Sample := ⟨failedCounter.series [entry.1], .count entry.2⟩

/-- The sample that says what program this is. -/
def programSample (m : Metrics) : Sample :=
  let labels := match m.program with
    | none => []
    | some (version, name) => programLabels version name
  ⟨systemInfo.series labels, .amount 1.0⟩

/-- Every metric with its samples. -/
def families (m : Metrics) : List Family :=
  let counter := fun (k : Counter) samples => (⟨k.name, k.help, "counter", samples⟩ : Family)
  [counter startedCounter [⟨startedCounter.series [], .count m.started⟩],
   counter succeededCounter [⟨succeededCounter.series [], .count m.succeeded⟩],
   counter failedCounter (m.failed.map failedSample),
   ⟨durationHistogram.name, durationHistogram.help, "histogram",
    m.durations.flatMap durationSamples⟩,
   ⟨m.programSample.name, systemInfo.help, "gauge", [m.programSample]⟩]

/-- Every sample. -/
def samples (m : Metrics) : List Sample :=
  m.families.flatMap (·.samples)

/-! ### The client -/

/-- The change that a call makes, if it is one for a metric that is declared. -/
def Update.ofCall? : Call → Option Update
  | .inc k [] =>
    if k = startedCounter then some .started
    else if k = succeededCounter then some .succeeded else none
  | .inc k [reason] => if k = failedCounter then some (.failed reason) else none
  | .observe h [outcome] x => if h = durationHistogram then some (.lasted outcome x) else none
  | .tell i [("name", .text name), ("version", .text version)] =>
    if i = systemInfo then some (.named version name) else none
  | _ => none

/-- The metrics after a call. One for any other metric changes nothing. -/
def applyCall (m : Metrics) (k : Call) : Metrics := ((Update.ofCall? k).map m.apply).getD m

/-- The client that keeps the metrics here. -/
def client : Client where
  State := Metrics
  initial := {}
  call k m := m.applyCall k
  samples := samples
  boundText := numberText

/-! ### The text format -/

/-- A label as the text format writes it. -/
def escapeLabel (s : String) : String :=
  .ofList (s.toList.flatMap fun c =>
    if c = '\\' then ['\\', '\\'] else if c = '\n' then ['\\', 'n']
    else if c = '"' then ['\\', '"'] else [c])

/-- A label with its name, or its value if that is no text. -/
def labelEntry (name : String) (v : Value) : Except Value String :=
  match v.text? with
  | some s => .ok (name ++ "=\"" ++ escapeLabel s ++ "\"")
  | none => .error v

/-- A sample as a line, or the first label that cannot be written. -/
def sampleLine (s : Sample) : Except Value String := do
  let labels ← s.labels.mapM fun e => labelEntry e.1 e.2
  return s.name ++ (if labels.isEmpty then "" else "\x7b" ++ ",".intercalate labels ++ "\x7d") ++
    " " ++ numberText s.value.toFloat

/-- A metric as lines, or the first label that cannot be written. -/
def familyLines (f : Family) : Except Value (List String) := do
  return ("# HELP " ++ f.name ++ " " ++ f.help) :: ("# TYPE " ++ f.name ++ " " ++ f.type) ::
    (← f.samples.mapM sampleLine)

/-- What is told of the program where it cannot be written: every member of its metric. -/
def programText (m : Metrics) : String :=
  "Metric(" ++ systemInfo.name ++ ", " ++ systemInfo.help ++ ", info, , [Sample(name='" ++
    m.programSample.name ++ "', labels=" ++ (Value.dict m.programSample.labels.reverse).quoted ++
    ", value=1.0, timestamp=None, exemplar=None, native_histogram=None)])"

/-- Every metric as lines; the labels of the program may be such that they cannot be written. -/
def exposition (m : Metrics) : Except Fault (List String) :=
  match m.families.mapM familyLines with
  | .ok lines => .ok lines.flatten
  | .error label => .error (.unwritableLabel label m.programText)

end Metrics

end Errand
