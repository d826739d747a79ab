import Camcorder.Encoding.Format
import Camcorder.Mp4.Container

/-!
# Settings of a recording
-/

namespace Camcorder

/-- Everything that is settled before a recording starts. -/
structure CaptureSettings where
  width : Nat
  height : Nat
  /-- Where the recording goes; a file that is there is removed at the start. -/
  outputPath : String
  /-- Bits per second. -/
  bitrate : Nat := 2000000
  /-- Frames per second, as the encoder and the container are told. -/
  frameRate : Nat := 30
  /-- Seconds between key frames. -/
  keyFrameSeconds : Nat := 2
  /-- Whether the index goes before the samples. -/
  fastStart : Bool := true
  title : Option String := none
  /-- Where the first frames that cannot be decoded are kept. -/
  dumpFolder : Option String := none
  /-- The frames that make up a throughput report. -/
  window : Nat := 30
  /-- The frames per second below which throughput is low. -/
  minimumRate : Float := 15.0
  /-- The only layout that the encoder may take. -/
  layout : Option Layout := none

namespace CaptureSettings

def geometry (c : CaptureSettings) : Geometry := { width := c.width, height := c.height }

/-- What is asked of the encoder. -/
def request (c : CaptureSettings) : StreamRequest where
  width := c.width
  height := c.height
  bitrate := c.bitrate
  frameRate := c.frameRate
  keyFrameSeconds := c.keyFrameSeconds
  layout := c.layout

/-- What the container is told, for a recording made at `date`. -/
def track (c : CaptureSettings) (date : String) : TrackSettings where
  geometry := c.geometry
  frameRate := c.frameRate
  fastStart := c.fastStart
  title := c.title
  date := date

end CaptureSettings

end Camcorder
