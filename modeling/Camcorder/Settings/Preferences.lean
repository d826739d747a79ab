import Camcorder.Capture.Settings

/-!
# Preferences

What a user settles once for all recordings. Dimensions and the output path are not among them; with those,
preferences become the settings of a recording.
-/

namespace Camcorder

structure EncoderPreferences where
  bitrate : Nat := 2000000
  frameRate : Nat := 30
  keyFrameSeconds : Nat := 2
  layout : Option Layout := none
deriving DecidableEq, Repr

structure OutputPreferences where
  fastStart : Bool := true
  title : Option String := none
deriving DecidableEq, Repr

structure DiagnosticPreferences where
  dumpFolder : Option String := none
  window : Nat := 30
  minimumRate : Float := 15.0

structure Preferences where
  encoder : EncoderPreferences := {}
  output : OutputPreferences := {}
  diagnostics : DiagnosticPreferences := {}

namespace Preferences

/-- Whether two preferences are equal, rates being compared as numbers. -/
def same (a b : Preferences) : Bool :=
  a.encoder == b.encoder && a.output == b.output && a.diagnostics.dumpFolder == b.diagnostics.dumpFolder &&
    a.diagnostics.window == b.diagnostics.window && a.diagnostics.minimumRate == b.diagnostics.minimumRate

/-- Why preferences are not fit for use. -/
inductive Flaw where
  | bitrate
  | frameRate
  | keyFrameSeconds
  | window
  | minimumRate
deriving DecidableEq, Repr

def Flaw.message : Flaw → String
  | .bitrate => "Bitrate must be between 10 kbps and 100 Mbps"
  | .frameRate => "Invalid frame rate (must be 1-240)"
  | .keyFrameSeconds => "Key frame interval must be between 1 and 60 seconds"
  | .window => "Stats window must hold at least one frame"
  | .minimumRate => "Minimum healthy FPS must be non-negative"

/-- The first flaw of preferences, if they have any. -/
def flaw? (p : Preferences) : Option Flaw :=
  if p.encoder.bitrate < 10000 ∨ 100000000 < p.encoder.bitrate then some .bitrate
  else if p.encoder.frameRate = 0 ∨ 240 < p.encoder.frameRate then some .frameRate
  else if p.encoder.keyFrameSeconds = 0 ∨ 60 < p.encoder.keyFrameSeconds then some .keyFrameSeconds
  else if p.diagnostics.window = 0 then some .window
  else if p.diagnostics.minimumRate.isNaN || p.diagnostics.minimumRate < 0.0 then some .minimumRate
  else none

/-- The settings of a recording with these dimensions. -/
def capture (p : Preferences) (width height : Nat) (outputPath : String) : CaptureSettings where
  width := width
  height := height
  outputPath := outputPath
  bitrate := p.encoder.bitrate
  frameRate := p.encoder.frameRate
  keyFrameSeconds := p.encoder.keyFrameSeconds
  fastStart := p.output.fastStart
  title := p.output.title
  dumpFolder := p.diagnostics.dumpFolder
  window := p.diagnostics.window
  minimumRate := p.diagnostics.minimumRate
  layout := p.encoder.layout

end Preferences

end Camcorder
