import Camcorder.Json.Records

/-!
# Reports

What the commands print about a recording that has ended, and about the program.
-/

namespace Camcorder.CommandLine

/-- The line about the container. -/
def containerLine (s : Statistics) : String :=
  if s.containerWritten then
    let duration := Decimal.fixed 2 s.duration
    let rate := Decimal.fixed 0 s.averageBitrate
    s!"Container: {duration}s, {s.bytesWritten} bytes, {rate} bps"
  else "Container: not written (no samples)"

/-- The report on a recording: a JSON object on one line, or five lines of text. -/
def recordingReport (s : Statistics) (json : Bool) : List String :=
  if json then [(Exchanged.toJson s).render]
  else
    let c := s.counters
    [s!"Output: {s.outputPath}",
      s!"Frames: {c.framesReceived} received, {c.framesSubmitted} submitted, {c.dropped} dropped",
      s!"  unrecognized {c.droppedUnrecognized}, decode {c.droppedUndecodable}, " ++
        s!"backpressure {c.droppedBackpressure}, mismatch {c.droppedMismatch}",
      s!"Samples written: {c.samplesWritten}",
      containerLine s]

/-- The report on the program: a JSON object on one line, or three lines of text. -/
def productReport (p : Product) (json : Bool) : List String :=
  if json then [(Exchanged.toJson p).render]
  else [s!"{p.name} {p.version}", p.description, s!"Default codec backend: {p.defaultBackend}"]

end Camcorder.CommandLine
