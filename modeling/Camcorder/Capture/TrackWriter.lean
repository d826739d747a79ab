import Camcorder.Capture.Settings
import Camcorder.Encoding.Coder
import Camcorder.Surroundings

/-!
# Writing the track

A `TrackWriter` puts the samples of an encoder into a container. Nothing exists on disk until the parameters of the
stream are known; what comes before is dropped, not kept. In the end the container is finished, or the file is
removed if it has no samples.

Time stamps that do not increase are moved just behind the one before, as the container takes them only in order.
-/

namespace Camcorder

/-- The output of a recording: the file that is open, and the container. -/
structure OpenTrack (γ : Type) where
  /-- The identity of the file. -/
  file : Nat
  container : γ

/-- Writes samples to a container of type `γ`. -/
structure TrackWriter (γ : Type) where
  path : String
  settings : TrackSettings
  track : Option (OpenTrack γ) := none
  parameters : Option CodecParameters := none
  written : Nat := 0
  /-- Samples that came before the track was there. -/
  dropped : Nat := 0
  /-- Whether the journal already says that samples came too early. -/
  noted : Bool := false
  /-- The time stamp of the last sample that was written. -/
  lastPts : Option Nat := none

/-- What became of the container. -/
structure TrackSummary where
  written : Nat := 0
  dropped : Nat := 0
  duration : Float := 0.0
  bytes : Nat := 0
  /-- Whether there is a finished container. -/
  containerWritten : Bool := false

namespace TrackWriter

variable {γ : Type}

/-- A writer for a recording that is made at `date`. -/
def create (c : CaptureSettings) (date : String) : TrackWriter γ where
  path := c.outputPath
  settings := c.track date

/-- Whether the track is there and samples are accepted. -/
def isStarted (w : TrackWriter γ) : Bool := w.track.isSome

variable [Container γ]

/-- Creates the file, then the container in it. -/
def build (w : TrackWriter γ) (disk : FileTree) : Attempt (OpenTrack γ) × FileTree :=
  match disk.create w.path with
  | (.error cause, disk) => (Attempt.refuse (.file (.createOutput w.path) cause), disk)
  | (.ok file, disk) =>
    match Container.build w.settings with
    | .error reason => (Attempt.refuse (.muxing (.trackNotBuilt reason)), disk)
    | .ok container => (.ok { file, container }, disk)

/-- Begins the track of a stream with these parameters. The track keeps the dimensions of the settings. -/
def register (w : TrackWriter γ) (p : CodecParameters) (s : Surroundings) :
    Attempt Unit × TrackWriter γ × Surroundings :=
  if w.isStarted then (Attempt.refuse (.invalidState .trackRegistered), w, s)
  else
    let s := if p.geometry = w.settings.geometry then s else s.note (.sizeDiffers p.geometry w.settings.geometry)
    match w.build s.disk with
    | (.error failure, disk) => (.error failure, w, { s with disk })
    | (.ok track, disk) => (.ok (), { w with track := some track, parameters := some p }, { s with disk })

/-- The time stamp to write for `pts`: itself if it comes after the last one, else the next after that. -/
def nextPts (last : Option Nat) (pts : Nat) : Attempt Nat :=
  match last with
  | some last => if pts ≤ last then Attempt.ofOption .overflow (word? (last + 1)) else .ok pts
  | none => .ok pts

/-- Puts a sample into the container of an open track. -/
def writeTo (w : TrackWriter γ) (track : OpenTrack γ) (sample : Sample) : Attempt Unit × TrackWriter γ :=
  let prepared : Attempt (Nat × Bytes) := do
    let pts ← nextPts w.lastPts sample.info.pts
    return (pts, ← Attempt.ofOption .overflow sample.payload?)
  match prepared with
  | .error failure => (.error failure, w)
  | .ok (pts, payload) =>
    match Container.write track.container (Float.ofNat pts / 1000000.0) payload sample.info.flags.keyFrame with
    | (.error reason, container) =>
      (Attempt.refuse (.muxing (.sampleRefused reason)), { w with track := some { track with container } })
    | (.ok (), container) =>
      (.ok (), { w with
        track := some { track with container }
        lastPts := some pts
        written := w.written + 1 })

/-- Takes a sample. Without a track it is dropped, which the journal says once. -/
def accept (w : TrackWriter γ) (sample : Sample) (s : Surroundings) :
    Attempt Unit × TrackWriter γ × Surroundings :=
  match w.track with
  | none =>
    (Attempt.refuse .muxerNotReady, { w with dropped := w.dropped + 1, noted := true },
      if w.noted then s else s.note .sampleBeforeTrack)
  | some track =>
    let (r, w) := w.writeTo track sample
    (r, w, s)

/-- Removes the file that was begun. -/
def removeFile (w : TrackWriter γ) (s : Surroundings) : Surroundings :=
  match s.disk.remove w.path with
  | .ok disk => { s with disk }
  | .error .notFound => s
  | .error cause => s.note (.partialFileLeft w.path cause)

/-- Finishes the container, or removes the file if nothing was written to it. -/
def finish (w : TrackWriter γ) (s : Surroundings) : Attempt TrackSummary × Surroundings :=
  let summary : TrackSummary := { written := w.written, dropped := w.dropped }
  match w.track with
  | none => (.ok summary, s)
  | some track =>
    if w.written = 0 then (.ok summary, (w.removeFile s).note (.nothingWritten w.path))
    else match Container.finish track.container with
      | .error reason => (Attempt.refuse (.muxing (.notFinished reason)), w.removeFile s)
      | .ok finished =>
        (.ok { summary with
          duration := finished.duration
          bytes := finished.content.size
          containerWritten := true },
        { s with disk := s.disk.store track.file finished.content })

end TrackWriter

/-- A writer and what it reaches: where an encoder delivers its samples. -/
structure WritingDesk (γ : Type) where
  writer : TrackWriter γ
  around : Surroundings

instance {γ : Type} [Container γ] : Sink (WritingDesk γ) where
  register d p :=
    let (r, writer, around) := d.writer.register p d.around
    (r, { writer, around })
  accept d sample :=
    let (r, writer, around) := d.writer.accept sample d.around
    (r, { writer, around })
  note d n := { d with around := d.around.note n }

end Camcorder
