import Camcorder.Decimal.Text
import Camcorder.Error
import Camcorder.Frame.Format

/-!
# The journal

While it works, the pipeline writes down what its user should know: a `Notice` names what happened, its level and
wording follow from that. A `Journal` holds the notices in their order.
-/

namespace Camcorder

/-- How serious a notice is. -/
inductive Severity where
  | info
  | warning
  | error
deriving DecidableEq, Repr

namespace Severity

def label : Severity → String
  | .info => "INFO"
  | .warning => "WARN"
  | .error => "ERROR"

end Severity

/-- Something worth telling the user. Frames are numbered from 1, in the order in which they came. -/
inductive Notice where
  /-- The first frame of a recording, with the bytes it begins with and the lengths that raw frames would have. -/
  | firstFrame (size : Nat) (geometry : Geometry) (len420 len422 : Nat) (header : Bytes)
  | arenaNotAllocated
  | arenaMissing
  | layoutNotAccepted (backend : String) (layout : Layout)
  | endNotSeen (emptyPolls : Nat)
  | noSlotForEnd
  | formatRepeated
  | formatRejected (e : RecordingError)
  | sampleRejected (pts : Nat) (e : RecordingError)
  | outputWithoutBuffer (slot : Nat)
  /-- An encoder was given up without being closed, and stopping it failed. -/
  | discardFailed (e : RecordingError)
  | sizeDiffers (reported track : Geometry)
  | sampleBeforeTrack
  | nothingWritten (path : String)
  | partialFileLeft (path : String) (cause : FileError)
  | startIgnored (state : String)
  | startFailed (e : RecordingError)
  | frameIgnored (state : String)
  /-- A frame has not the length of the format that the camera reports. -/
  | frameMismatched (frame size : Nat) (format : FrameFormat)
  | frameDropped (frame : Nat) (e : RecordingError)
  | frameUndecodable (frame : Nat) (format : FrameFormat) (cause : DecodeCause)
  | dumpFailed (path : String) (cause : FileError)
  | frameRejected (frame : Nat) (e : RecordingError)
  | drainFailed (frame : Nat) (e : RecordingError)
  | throughputLow (fps minimum : Float)
  | abandoned
  | finalDrainFailed (e : RecordingError)
  | closeFailed (e : RecordingError)
  | finalizeFailed (e : RecordingError)
  | settingsIgnored (e : RecordingError)
  | pictureSkipped (path : String) (cause : FileError)

namespace Notice

def severity : Notice → Severity
  | .firstFrame .. => .info
  | .formatRejected .. | .discardFailed .. | .startFailed .. | .finalDrainFailed .. | .closeFailed ..
  | .finalizeFailed .. => .error
  | _ => .warning

/-- A number of frames per second, with one place. -/
def rate (x : Float) : String :=
  if x.isNaN then "NaN" else if x.isInf then (if x < 0 then "-inf" else "inf") else Decimal.fixed 1 x

def text : Notice → String
  | .firstFrame size g len420 len422 header =>
    s!"First frame: {size} bytes for {g.width}x{g.height} (4:2:0 = {len420}, 4:2:2 = {len422}), " ++
      s!"header [{header.toSpacedHex}]"
  | .arenaNotAllocated => "Failed to allocate conversion scratch, using per-frame buffers"
  | .arenaMissing => "Conversion scratch unavailable, allocating per frame"
  | .layoutNotAccepted backend layout => s!"{backend} backend does not accept {layout.fourcc} input"
  | .endNotSeen emptyPolls => s!"End-of-stream sample not seen after {emptyPolls} empty polls"
  | .noSlotForEnd => "No input slot for the end-of-stream marker"
  | .formatRepeated => "Encoder reported its output format twice, ignoring"
  | .formatRejected e => s!"Sample sink rejected the output format: {e.message}"
  | .sampleRejected pts e => s!"Dropping encoded sample at {pts} us: {e.message}"
  | .outputWithoutBuffer slot => s!"Output slot {slot} has no buffer"
  | .discardFailed e => s!"Failed to stop encoder on drop: {e.message}"
  | .sizeDiffers reported track =>
    s!"Encoder reports {reported.width}x{reported.height}, container track uses {track.width}x{track.height}"
  | .sampleBeforeTrack => "Encoded sample arrived before the video track was registered, dropping"
  | .nothingWritten path => s!"No samples reached the muxer, discarded {path}"
  | .partialFileLeft path cause => s!"Could not remove partial file {path}: {cause.message}"
  | .startIgnored state => s!"start() ignored: recorder is {state}"
  | .startFailed e => s!"Failed to start recording: {e.message}"
  | .frameIgnored state => s!"write_frame ignored: recorder is {state}"
  | .frameMismatched frame size format =>
    s!"Dropping frame {frame}: {size} bytes do not fit reported format {format.label}"
  | .frameDropped frame e => s!"Dropping frame {frame}: {e.message}"
  | .frameUndecodable frame format cause =>
    s!"Dropping frame {frame}: failed to decode {format.label} frame: {cause.message}"
  | .dumpFailed path cause => s!"Could not save undecodable frame to {path}: {cause.message}"
  | .frameRejected frame e => s!"Encoder rejected frame {frame}: {e.message}"
  | .drainFailed frame e => s!"Encoder drain failed after frame {frame}: {e.message}"
  | .throughputLow fps minimum => s!"Pipeline throughput {rate fps} fps is below {rate minimum} fps"
  | .abandoned => "Recorder dropped while recording, finalizing"
  | .finalDrainFailed e => s!"Failed to drain encoder at stop: {e.message}"
  | .closeFailed e => s!"Failed to stop encoder: {e.message}"
  | .finalizeFailed e => s!"Failed to finalize container: {e.message}"
  | .settingsIgnored e => s!"Failed to load config, using defaults: {e.message}"
  | .pictureSkipped path cause => s!"Skipping {path}: {cause.message}"

/-- The notice as a line of the journal: its level and its wording. -/
def line (n : Notice) : String := s!"{n.severity.label} {n.text}"

end Notice

/-- The notices written so far, in their order. -/
abbrev Journal := List Notice

namespace Journal

/-- Appends a notice. -/
def note (j : Journal) (n : Notice) : Journal := j ++ [n]

end Journal

end Camcorder
