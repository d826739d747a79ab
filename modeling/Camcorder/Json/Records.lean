import Camcorder.Capture.Recorder
import Camcorder.Json.Decode
import Camcorder.Product
import Camcorder.Settings.Preferences

/-!
# JSON forms

How the values that programs exchange with each other are written in JSON, and read again. Each is an object with
its fields in a fixed order, or a name.
-/

namespace Camcorder

open Json (Value Record Decoder)

/-- A type with a JSON form. -/
class Exchanged (α : Type) where
  toJson : α → Value
  ofJson? : Decoder α

namespace Exchanged

/-- The form of a type whose values have names. -/
@[reducible] def named {α : Type} (name : α → String) (ofName? : String → Option α) : Exchanged α where
  toJson a := .ofText (name a)
  ofJson? := Decoder.oneOf ofName?

end Exchanged

instance : Exchanged FrameFormat := .named FrameFormat.name FrameFormat.ofName?

instance : Exchanged Layout := .named Layout.name Layout.ofName?

instance : Exchanged Profile := .named Profile.name Profile.ofName?

instance : Exchanged Level := .named Level.name Level.ofName?

instance : Exchanged RateControl := .named RateControl.name RateControl.ofName?

instance : Exchanged RecorderState := .named RecorderState.name RecorderState.ofName?

open Exchanged (toJson ofJson?)

instance : Exchanged Geometry where
  toJson g := .ofFields [("width", .ofNat g.width), ("height", .ofNat g.height)]
  ofJson? v := do
    let r ← Record.of? ["width", "height"] v
    return { width := ← r.required "width" .halfWord, height := ← r.required "height" .halfWord }

instance : Exchanged StreamFormat where
  toJson f := .ofFields [("width", .ofNat f.width), ("height", .ofNat f.height), ("bitrate", .ofNat f.bitrate),
    ("frame_rate", .ofNat f.frameRate), ("key_frame_interval_secs", .ofNat f.keyFrameSeconds),
    ("layout", toJson f.layout), ("profile", toJson f.profile), ("level", toJson f.level),
    ("rate_control", toJson f.rateControl)]
  ofJson? v := do
    let r ← Record.of? ["width", "height", "bitrate", "frame_rate", "key_frame_interval_secs", "layout", "profile",
      "level", "rate_control"] v
    return {
      width := ← r.required "width" .halfWord
      height := ← r.required "height" .halfWord
      bitrate := ← r.required "bitrate" .halfWord
      frameRate := ← r.required "frame_rate" .halfWord
      keyFrameSeconds := ← r.required "key_frame_interval_secs" .halfWord
      layout := ← r.required "layout" ofJson?
      profile := ← r.required "profile" ofJson?
      level := ← r.required "level" ofJson?
      rateControl := ← r.required "rate_control" ofJson? }

instance : Exchanged CaptureSettings where
  toJson c := .ofFields [("width", .ofNat c.width), ("height", .ofNat c.height),
    ("output_path", .ofText c.outputPath), ("bitrate", .ofNat c.bitrate), ("frame_rate", .ofNat c.frameRate),
    ("key_frame_interval_secs", .ofNat c.keyFrameSeconds), ("fast_start", .bool c.fastStart),
    ("title", .ofOption .ofText c.title), ("debug_dump_dir", .ofOption .ofText c.dumpFolder),
    ("stats_window", .ofNat c.window), ("min_healthy_fps", .ofFloat c.minimumRate),
    ("preferred_layout", .ofOption toJson c.layout)]
  ofJson? v := do
    let r ← Record.of? ["width", "height", "output_path", "bitrate", "frame_rate", "key_frame_interval_secs",
      "fast_start", "title", "debug_dump_dir", "stats_window", "min_healthy_fps", "preferred_layout"] v
    return {
      width := ← r.required "width" .halfWord
      height := ← r.required "height" .halfWord
      outputPath := ← r.required "output_path" .text
      bitrate := ← r.required "bitrate" .halfWord
      frameRate := ← r.required "frame_rate" .halfWord
      keyFrameSeconds := ← r.required "key_frame_interval_secs" .halfWord
      fastStart := ← r.required "fast_start" .bool
      title := ← r.optional "title" .text
      dumpFolder := ← r.optional "debug_dump_dir" .text
      window := ← r.required "stats_window" .word
      minimumRate := ← r.required "min_healthy_fps" .float
      layout := ← r.optional "preferred_layout" ofJson? }

instance : Exchanged Counters where
  toJson c := .ofFields [("frames_received", .ofNat c.framesReceived), ("frames_submitted", .ofNat c.framesSubmitted),
    ("dropped_unrecognized", .ofNat c.droppedUnrecognized), ("dropped_decode", .ofNat c.droppedUndecodable),
    ("dropped_backpressure", .ofNat c.droppedBackpressure), ("dropped_mismatch", .ofNat c.droppedMismatch),
    ("samples_written", .ofNat c.samplesWritten), ("samples_dropped_not_ready", .ofNat c.samplesDropped)]
  ofJson? v := do
    let r ← Record.of? ["frames_received", "frames_submitted", "dropped_unrecognized", "dropped_decode",
      "dropped_backpressure", "dropped_mismatch", "samples_written", "samples_dropped_not_ready"] v
    return {
      framesReceived := ← r.required "frames_received" .word
      framesSubmitted := ← r.required "frames_submitted" .word
      droppedUnrecognized := ← r.required "dropped_unrecognized" .word
      droppedUndecodable := ← r.required "dropped_decode" .word
      droppedBackpressure := ← r.required "dropped_backpressure" .word
      droppedMismatch := ← r.required "dropped_mismatch" .word
      samplesWritten := ← r.required "samples_written" .word
      samplesDropped := ← r.required "samples_dropped_not_ready" .word }

instance : Exchanged Timestamp where
  toJson t := .ofText t.render
  ofJson? v := do Timestamp.read? (← Decoder.text v)

instance : Exchanged Statistics where
  toJson s := .ofFields [("counters", toJson s.counters), ("duration_secs", .ofFloat s.duration),
    ("bytes_written", .ofNat s.bytesWritten), ("elapsed_secs", .ofFloat s.elapsed),
    ("output_path", .ofText s.outputPath), ("container_written", .bool s.containerWritten),
    ("started_at", toJson s.startedAt)]
  ofJson? v := do
    let r ← Record.of? ["counters", "duration_secs", "bytes_written", "elapsed_secs", "output_path",
      "container_written", "started_at"] v
    return {
      counters := ← r.required "counters" ofJson?
      duration := ← r.required "duration_secs" .float
      bytesWritten := ← r.required "bytes_written" .word
      elapsed := ← r.required "elapsed_secs" .float
      outputPath := ← r.required "output_path" .text
      containerWritten := ← r.required "container_written" .bool
      startedAt := ← r.required "started_at" ofJson? }

instance : Exchanged Resources where
  toJson r := .ofFields [("encoder", .bool r.encoder), ("muxer", .bool r.muxer), ("scratch", .bool r.scratch)]
  ofJson? v := do
    let r ← Record.of? ["encoder", "muxer", "scratch"] v
    return {
      encoder := ← r.required "encoder" .bool
      muxer := ← r.required "muxer" .bool
      scratch := ← r.required "scratch" .bool }

instance : Exchanged ThroughputReport where
  toJson r := .ofFields [("frames", .ofNat r.frames), ("avg_conversion_ms", .ofFloat r.meanConversion),
    ("avg_encode_ms", .ofFloat r.meanEncoding), ("avg_total_ms", .ofFloat r.meanTotal),
    ("min_total_ms", .ofFloat r.leastTotal), ("max_total_ms", .ofFloat r.greatestTotal), ("fps", .ofFloat r.rate),
    ("degraded", .bool r.low)]
  ofJson? v := do
    let r ← Record.of? ["frames", "avg_conversion_ms", "avg_encode_ms", "avg_total_ms", "min_total_ms",
      "max_total_ms", "fps", "degraded"] v
    return {
      frames := ← r.required "frames" .word
      meanConversion := ← r.required "avg_conversion_ms" .float
      meanEncoding := ← r.required "avg_encode_ms" .float
      meanTotal := ← r.required "avg_total_ms" .float
      leastTotal := ← r.required "min_total_ms" .float
      greatestTotal := ← r.required "max_total_ms" .float
      rate := ← r.required "fps" .float
      low := ← r.required "degraded" .bool }

instance : Exchanged Product where
  toJson p := .ofFields [("name", .ofText p.name), ("version", .ofText p.version),
    ("description", .ofText p.description), ("default_backend", .ofText p.defaultBackend)]
  ofJson? v := do
    let r ← Record.of? ["name", "version", "description", "default_backend"] v
    return {
      name := ← r.required "name" .text
      version := ← r.required "version" .text
      description := ← r.required "description" .text
      defaultBackend := ← r.required "default_backend" .text }

/-! ## Preferences: everything may be missing, and what is absent is not written -/

/-- A field that is written only if it is there. -/
def presentField {α : Type} (name : String) (f : α → Value) : Option α → List (String × Value)
  | none => []
  | some a => [(name, f a)]

instance : Exchanged EncoderPreferences where
  toJson p := .ofFields ([("bitrate", .ofNat p.bitrate), ("frame_rate", .ofNat p.frameRate),
    ("key_frame_interval_secs", .ofNat p.keyFrameSeconds)] ++ presentField "layout" toJson p.layout)
  ofJson? v := do
    let r ← Record.of? ["bitrate", "frame_rate", "key_frame_interval_secs", "layout"] v
    let d : EncoderPreferences := {}
    return {
      bitrate := ← r.defaulted "bitrate" d.bitrate .halfWord
      frameRate := ← r.defaulted "frame_rate" d.frameRate .halfWord
      keyFrameSeconds := ← r.defaulted "key_frame_interval_secs" d.keyFrameSeconds .halfWord
      layout := ← r.defaulted "layout" d.layout (.nullable ofJson?) }

instance : Exchanged OutputPreferences where
  toJson p := .ofFields (("fast_start", .bool p.fastStart) :: presentField "title" .ofText p.title)
  ofJson? v := do
    let r ← Record.of? ["fast_start", "title"] v
    let d : OutputPreferences := {}
    return {
      fastStart := ← r.defaulted "fast_start" d.fastStart .bool
      title := ← r.defaulted "title" d.title (.nullable .text) }

instance : Exchanged DiagnosticPreferences where
  toJson p := .ofFields (presentField "debug_dump_dir" .ofText p.dumpFolder ++
    [("stats_window", .ofNat p.window), ("min_healthy_fps", .ofFloat p.minimumRate)])
  ofJson? v := do
    let r ← Record.of? ["debug_dump_dir", "stats_window", "min_healthy_fps"] v
    let d : DiagnosticPreferences := {}
    return {
      dumpFolder := ← r.defaulted "debug_dump_dir" d.dumpFolder (.nullable .text)
      window := ← r.defaulted "stats_window" d.window .word
      minimumRate := ← r.defaulted "min_healthy_fps" d.minimumRate .float }

instance : Exchanged Preferences where
  toJson p := .ofFields [("encoder", toJson p.encoder), ("output", toJson p.output),
    ("diagnostics", toJson p.diagnostics)]
  ofJson? v := do
    let r ← Record.of? ["encoder", "output", "diagnostics"] v
    return {
      encoder := ← r.defaulted "encoder" {} ofJson?
      output := ← r.defaulted "output" {} ofJson?
      diagnostics := ← r.defaulted "diagnostics" {} ofJson? }

end Camcorder
