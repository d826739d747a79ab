import Camcorder.Notice

/-!
# Throughput

Collects how long each frame took. As soon as a window is full it is summed up in a report and a new window
begins, so every frame belongs to exactly one window.
-/

namespace Camcorder

/-- A length of time. -/
structure Elapsed where
  seconds : Nat := 0
  nanos : Nat := 0
deriving DecidableEq, Repr

namespace Elapsed

def millis (d : Elapsed) : Float :=
  (Float.ofNat d.seconds + Float.ofNat d.nanos / 1000000000.0) * 1000.0

end Elapsed

/-- How long the steps of a frame took. -/
structure FrameTiming where
  /-- Zero for a frame that needs no conversion. -/
  conversion : Elapsed
  encoding : Elapsed
  total : Elapsed
deriving DecidableEq, Repr

/-- The report on a window. Times are in milliseconds. -/
structure ThroughputReport where
  frames : Nat
  meanConversion : Float
  meanEncoding : Float
  meanTotal : Float
  leastTotal : Float
  greatestTotal : Float
  /-- The frames per second that the mean total time amounts to. -/
  rate : Float
  /-- Whether the rate is below the minimum. -/
  low : Bool

/-- The window under way. -/
structure Throughput where
  /-- The number of frames in a window, at least one. -/
  capacity : Nat
  minimumRate : Float
  /-- The frames of the window, in order. -/
  pending : Array FrameTiming := #[]
  /-- The windows reported so far. -/
  windows : Nat := 0

namespace Throughput

/-- The bytes that a frame takes up in a window. -/
def timingSize : Nat := 48

/-- The size of the largest buffer that can be asked for. Whether there is memory for one that can be is left open: no
answer comes of a window for which there is none. -/
def bufferLimit : Nat := signedWordLimit - 1

/-- An empty window of at least one frame, if a buffer for it can be asked for. -/
def create (capacity : Nat) (minimumRate : Float) : Attempt Throughput :=
  let capacity := max capacity 1
  if capacity * timingSize ≤ bufferLimit then .ok { capacity, minimumRate } else Attempt.halt .tooLarge

/-- The sum, in order. -/
def sum (xs : List Float) : Float := xs.foldl (· + ·) 0.0

/-- The greatest finite number. -/
def greatestFloat : Float := 1.7976931348623157e308

/-- The report on the frames of a window. -/
def summarize (timings : List FrameTiming) (minimumRate : Float) : ThroughputReport :=
  let n := Float.ofNat (max timings.length 1)
  let totals := timings.map (·.total.millis)
  let meanTotal := sum totals / n
  let rate := if meanTotal > 0.0 then 1000.0 / meanTotal else 1.0 / 0.0
  { frames := timings.length
    meanConversion := sum (timings.map (·.conversion.millis)) / n
    meanEncoding := sum (timings.map (·.encoding.millis)) / n
    meanTotal
    leastTotal := if timings.isEmpty then 0.0 else totals.foldl min greatestFloat
    greatestTotal := totals.foldl max 0.0
    rate
    low := rate < minimumRate }

/-- Adds a frame. The frame that fills the window yields a report. -/
def record (t : Throughput) (timing : FrameTiming) : Option ThroughputReport × Throughput :=
  let pending := t.pending.push timing
  if pending.size < t.capacity then (none, { t with pending })
  else
    (some (summarize pending.toList t.minimumRate), { t with pending := #[], windows := t.windows + 1 })

/-- What the journal says of a report. -/
def notices (report : Option ThroughputReport) (minimumRate : Float) : Journal :=
  match report with
  | some r => if r.low then [.throughputLow r.rate minimumRate] else []
  | none => []

end Throughput

end Camcorder
