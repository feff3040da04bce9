import Errand.Value

/-! # The client that keeps metrics

A program declares its metrics and calls a client whenever one of them changes: a counter goes up, a
histogram observes an amount, or an info is told. What a client keeps of the calls is its own
matter; what it exposes are samples, each of them a series with its reading. A metric has one
series, or several of a histogram, for all values of its labels that were used.

`Client.Documented` is what can be relied on for metrics that were declared. -/

namespace Errand.Metrics

/-! ### Samples -/

/-- What a sample reads: how often something happened, or an amount. -/
inductive Reading where
  | count (n : Nat)
  | amount (x : Float)

/-- A reading as it is exposed. -/
def Reading.toFloat : Reading → Float
  | count n => n.toFloat
  | amount x => x

/-- A name with labels. -/
@[ext]
structure Series where
  name : String
  labels : List (String × Value)

/-- What a series reads. -/
structure Sample extends Series where
  value : Reading

/-- A series shows a number among samples: it has no sample of another reading, and where it has no
sample at all the number is zero. -/
def Series.Shows (s : Series) (samples : List Sample) (n : Nat) : Prop :=
  (∀ x, ⟨s, x⟩ ∈ samples → x = .count n) ∧ ((∀ x, (⟨s, x⟩ : Sample) ∉ samples) → n = 0)

/-! ### Metrics as they are declared -/

/-- The labels of these names with these values. -/
def labelsOf (names values : List String) : List (String × Value) :=
  names.zip (values.map .text)

/-- A counter. Its name ends in `_total`. -/
structure Counter where
  name : String
  help : String
  labelNames : List String := []
  deriving DecidableEq

/-- The series of a counter for some values of its labels. -/
def Counter.series (k : Counter) (values : List String) : Series :=
  ⟨k.name, labelsOf k.labelNames values⟩

/-- A histogram, with the bounds that were asked for. -/
structure Histogram where
  name : String
  help : String
  labelNames : List String
  bounds : List Float
  deriving DecidableEq

namespace Histogram

variable (h : Histogram) (values : List String)

/-- The bounds of the buckets: the last bucket is for everything. -/
def buckets : List Float := h.bounds ++ [1.0 / 0.0]

/-- The name of the buckets. -/
def bucketName : String := h.name ++ "_bucket"

/-- The name of the numbers of amounts. -/
def countName : String := h.name ++ "_count"

/-- The name of the sums of amounts. -/
def sumName : String := h.name ++ "_sum"

/-- The series of a bucket whose bound has a text. -/
def bucket (bound : String) : Series :=
  ⟨h.bucketName, ("le", .text bound) :: labelsOf h.labelNames values⟩

/-- The series of the number of amounts. -/
def count : Series := ⟨h.countName, labelsOf h.labelNames values⟩

/-- The series of the sum of amounts. -/
def sum : Series := ⟨h.sumName, labelsOf h.labelNames values⟩

end Histogram

/-- A metric whose labels are all it tells. -/
structure Info where
  name : String
  help : String
  deriving DecidableEq

/-- The series of an info. -/
def Info.series (i : Info) (labels : List (String × Value)) : Series := ⟨i.name ++ "_info", labels⟩

/-! ### Calls -/

/-- A call of a client. The values of labels come in the order of their names. -/
inductive Call where
  | inc (k : Counter) (values : List String)
  | observe (h : Histogram) (values : List String) (x : Float)
  | tell (i : Info) (labels : List (String × Value))

/-- The series that a call may change. -/
def Call.Touches : Call → Series → Prop
  | inc k values, s => s = k.series values
  | observe h values _, s =>
    s.name ∈ [h.bucketName, h.countName, h.sumName] ∧
      ∀ l ∈ labelsOf h.labelNames values, l ∈ s.labels
  | tell i _, s => s.name = i.name ++ "_info"

namespace Call

variable (h : Histogram) (values : List String) (x : Float)

theorem touches_bucket (bound : String) : (observe h values x).Touches (h.bucket values bound) :=
  ⟨.head _, fun _ hl => .tail _ hl⟩

theorem touches_count : (observe h values x).Touches (h.count values) :=
  ⟨.tail _ (.head _), fun _ hl => hl⟩

theorem touches_sum : (observe h values x).Touches (h.sum values) :=
  ⟨.tail _ (.tail _ (.head _)), fun _ hl => hl⟩

end Call

/-- A client: what it keeps, what a call makes of that, and what it exposes. -/
structure Client where
  State : Type
  initial : State
  call : Call → State → State
  samples : State → List Sample
  /-- The text of a bound. -/
  boundText : Float → String

namespace Client

/-- What is exposed after calls in order. -/
def exposed (c : Client) (calls : List Call) : List Sample :=
  c.samples (calls.foldl (fun s k => c.call k s) c.initial)

/-- What the documentation of a client says of the metrics that were declared, after any calls. -/
structure Documented (c : Client) (counters : List Counter) (histograms : List Histogram) :
    Prop where
  /-- Counters start at zero. -/
  counter_initial : ∀ k ∈ counters, ∀ values, values.length = k.labelNames.length →
    (k.series values).Shows (c.exposed []) 0
  /-- Buckets start at zero. -/
  bucket_initial : ∀ h ∈ histograms, ∀ values, values.length = h.labelNames.length →
    ∀ b ∈ h.buckets, (h.bucket values (c.boundText b)).Shows (c.exposed []) 0
  /-- So do the numbers of amounts. -/
  count_initial : ∀ h ∈ histograms, ∀ values, values.length = h.labelNames.length →
    (h.count values).Shows (c.exposed []) 0
  /-- A counter goes up by one. -/
  counter_inc : ∀ calls, ∀ k ∈ counters, ∀ values n, values.length = k.labelNames.length →
    (k.series values).Shows (c.exposed calls) n →
    (k.series values).Shows (c.exposed (calls ++ [.inc k values])) (n + 1)
  /-- An amount is in every bucket whose bound it does not exceed. -/
  bucket_observe : ∀ calls, ∀ h ∈ histograms, ∀ values n, values.length = h.labelNames.length →
    ∀ x, ∀ b ∈ h.buckets,
    (h.bucket values (c.boundText b)).Shows (c.exposed calls) n →
    (h.bucket values (c.boundText b)).Shows (c.exposed (calls ++ [.observe h values x]))
      (if x ≤ b then n + 1 else n)
  /-- Every amount that is a number is counted. -/
  count_observe : ∀ calls, ∀ h ∈ histograms, ∀ values n, values.length = h.labelNames.length →
    ∀ x : Float, x.isNaN = false →
    (h.count values).Shows (c.exposed calls) n →
    (h.count values).Shows (c.exposed (calls ++ [.observe h values x])) (n + 1)
  /-- A call changes no series but its own. -/
  mem_iff_of_not_touches : ∀ calls (k : Call) (s : Sample), ¬k.Touches s.toSeries →
    (s ∈ c.exposed (calls ++ [k]) ↔ s ∈ c.exposed calls)
  /-- The samples of the name of a counter are the counter, once for each of some values. -/
  counter_series : ∀ calls, ∀ k ∈ counters, ∃ used : List (List String), used.Nodup ∧
    (∀ values ∈ used, values.length = k.labelNames.length) ∧
    ((c.exposed calls).filter (·.name == k.name)).map (·.toSeries) = used.map k.series

end Client

end Errand.Metrics
