import Camcorder.Timestamp

/-!
# Counters

What became of the frames and the samples of a recording, and the statistics that it ends with.
-/

namespace Camcorder

/-- The counters of a recording. -/
structure Counters where
  framesReceived : Nat := 0
  framesSubmitted : Nat := 0
  droppedUnrecognized : Nat := 0
  droppedUndecodable : Nat := 0
  droppedBackpressure : Nat := 0
  /-- Frames that have not the length of the format the camera reports. -/
  droppedMismatch : Nat := 0
  samplesWritten : Nat := 0
  /-- Samples that came before the container was ready for them. -/
  samplesDropped : Nat := 0
deriving DecidableEq, Repr

namespace Counters

/-- The frames that never reached the encoder. -/
def dropped (c : Counters) : Nat :=
  c.droppedUnrecognized + c.droppedUndecodable + c.droppedBackpressure + c.droppedMismatch

end Counters

/-- What is known of a recording once it has ended. -/
structure Statistics where
  counters : Counters
  /-- The length of the track in seconds, zero if nothing was written. -/
  duration : Float
  bytesWritten : Nat
  /-- Seconds between start and stop. -/
  elapsed : Float
  outputPath : String
  /-- Whether there is a finished container at the output path. -/
  containerWritten : Bool
  startedAt : Timestamp

namespace Statistics

/-- The bits per second of the track. -/
def averageBitrate (s : Statistics) : Float :=
  if s.duration > 0.0 then Float.ofNat s.bytesWritten * 8.0 / s.duration else 0.0

end Statistics

end Camcorder
