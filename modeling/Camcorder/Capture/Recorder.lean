import Camcorder.Capture.Counters
import Camcorder.Capture.Throughput
import Camcorder.Capture.TrackWriter
import Camcorder.Encoding.Session
import Camcorder.Picture.Converter

/-!
# Recorders

A `Recorder` makes one recording. It is started once, takes frames, and is stopped once. A frame is recognised,
converted, submitted to the encoder and what is encoded by then goes to the container. Trouble with a frame never
stops the recording: the frame is dropped and counted.

The clock and the calendar are read by the caller: `Readings` are what the clock showed while a frame was dealt
with.
-/

namespace Camcorder

/-- The stages of a recorder. The last one is final. -/
inductive RecorderState where
  | idle
  | recording
  | stopped
deriving DecidableEq, Repr

namespace RecorderState

def all : List RecorderState := [.idle, .recording, .stopped]

/-- The word for the state in a sentence. -/
def word : RecorderState → String
  | .idle => "idle"
  | .recording => "recording"
  | .stopped => "stopped"

/-- The name under which reports know the state. -/
def name : RecorderState → String
  | .idle => "Idle"
  | .recording => "Recording"
  | .stopped => "Stopped"

def ofName? (s : String) : Option RecorderState := all.find? fun r => r.name == s

end RecorderState

/-- Which resources a recorder holds. -/
structure Resources where
  encoder : Bool := false
  muxer : Bool := false
  /-- The arena for converted frames. -/
  scratch : Bool := false
deriving DecidableEq, Repr

namespace Resources

def any (r : Resources) : Bool := r.encoder || r.muxer || r.scratch

end Resources

/-- What the clock showed while a frame was dealt with. -/
structure Readings where
  /-- Microseconds since the encoder was opened, when the frame was submitted. -/
  now : Nat := 0
  /-- How long the conversion took, if there was any. -/
  conversion : Elapsed := {}
  encoding : Elapsed := {}
  total : Elapsed := {}
deriving DecidableEq, Repr

/-- A recording under way. -/
structure Recording (σ γ : Type) where
  encoder : Encoder σ
  writer : TrackWriter γ
  converter : Converter
  throughput : Throughput
  startedAt : Timestamp

/-- A recorder with a backend of type `β`, whose instances are of type `σ`, and containers of type `γ`. -/
structure Recorder (β σ γ : Type) where
  settings : CaptureSettings
  backend : β
  decode : (g : Geometry) → Bytes → Except DecodeCause (ColourPicture g) := Jpeg.decode
  /-- Which arenas there is memory for. -/
  memory : Memory := .ample
  state : RecorderState := .idle
  recording : Option (Recording σ γ) := none
  counters : Counters := {}
  /-- How many frames that cannot be decoded were kept, or would have been if there were a place for them. -/
  dumps : Nat := 0

namespace Recorder

variable {β σ γ : Type}

/-- How many frames that cannot be decoded are kept. -/
def maxDumps : Nat := 3

/-- The name of the file that the undecodable frame `k` is kept in. -/
def dumpName (k : Nat) : String := s!"debug_frame_{k}.jpg"

/-- How many bytes of the first frame the journal shows. -/
def headerLength : Nat := 10

def isRecording (r : Recorder β σ γ) : Bool := r.state = .recording

def resources (r : Recorder β σ γ) : Resources :=
  match r.recording with
  | none => {}
  | some x => { encoder := x.encoder.isAllocated, muxer := true, scratch := x.converter.hasArena }

/-- The layout that frames are converted to. -/
def layout (r : Recorder β σ γ) : Option Layout := r.recording.map (·.converter.layout)

/-! ## Starting -/

/-- Removes the file at the output path, if there is one. -/
def clearOutput (c : CaptureSettings) (disk : FileTree) : Attempt FileTree :=
  match disk.remove c.outputPath with
  | .ok disk => .ok disk
  | .error .notFound => .ok disk
  | .error cause => Attempt.refuse (.file (.removeOutput c.outputPath) cause)

variable [Coder σ] [Backend β σ]

/-- An encoder that is configured and opened. -/
def openEncoder (c : CaptureSettings) (backend : β) (j : Journal) : Attempt (Encoder σ × Layout) × β × Journal :=
  match ({} : Encoder σ).configure backend c.request j with
  | (.error failure, _, j) => (.error failure, backend, j)
  | (.ok format, encoder, j) =>
    match encoder.launch backend with
    | (.error failure, _, backend) => (.error failure, backend, j)
    | (.ok (), encoder, backend) => (.ok (encoder, format.layout), backend, j)

/-- Builds all that a recording needs. If a step fails, what was built before it is given up. -/
def openRecording (r : Recorder β σ γ) (startedAt : Timestamp) (s : Surroundings) :
    Attempt (Recording σ γ) × β × Surroundings :=
  match clearOutput r.settings s.disk with
  | .error failure => (.error failure, r.backend, s)
  | .ok disk =>
    match openEncoder r.settings r.backend s.journal with
    | (.error failure, backend, journal) => (.error failure, backend, { disk, journal })
    | (.ok (encoder, layout), backend, journal) =>
      let (converter, journal) := Converter.create r.settings.geometry layout journal r.memory
      let built : Attempt (Recording σ γ) := do
        let converter ← converter
        let throughput ← Throughput.create r.settings.window r.settings.minimumRate
        return {
          encoder
          writer := TrackWriter.create r.settings startedAt.render
          converter := { converter with decode := r.decode }
          throughput
          startedAt }
      match built with
      | .ok recording => (.ok recording, backend, { disk, journal })
      | .error failure =>
        let (backend, journal) := encoder.discard backend journal
        (.error failure, backend, { disk, journal })

/-- Begins the recording. Answers whether it is under way. -/
def start (r : Recorder β σ γ) (startedAt : Timestamp) (s : Surroundings) :
    Attempt Bool × Recorder β σ γ × Surroundings :=
  if r.state = .idle then
    match r.openRecording startedAt s with
    | (.ok recording, backend, s) =>
      (.ok true, { r with backend, recording := some recording, state := .recording }, s)
    | (.error (.error e), backend, s) => (.ok false, { r with backend }, s.note (.startFailed e))
    | (.error (.fault f), backend, s) => (Attempt.halt f, { r with backend }, s)
  else (.ok false, r, s.note (.startIgnored r.state.word))

/-! ## Frames -/

omit [Coder σ] [Backend β σ] in
/-- Keeps a frame that cannot be decoded, if there is a place for it and not too many are kept already. Trouble
with that is noted and has no other effect. -/
def dump (r : Recorder β σ γ) (raw : Bytes) (s : Surroundings) : Recorder β σ γ × Surroundings :=
  if maxDumps ≤ r.dumps then (r, s)
  else
    let counted := { r with dumps := r.dumps + 1 }
    match r.settings.dumpFolder with
    | none => (counted, s)
    | some folder =>
      let path := FileTree.join folder (dumpName r.dumps)
      match s.disk.makeFolders folder with
      | .error cause => (counted, s.note (.dumpFailed path cause))
      | .ok disk =>
        match disk.write path raw with
        | (.ok (), disk) => (counted, { s with disk })
        | (.error cause, disk) => (counted, { s with disk }.note (.dumpFailed path cause))

omit [Coder σ] [Backend β σ] in
/-- Drops a frame that is of no known format, or not of the one that the camera reports. -/
def dropUnrecognized (r : Recorder β σ γ) (raw : Bytes) (hint : Option FrameFormat) (s : Surroundings) :
    Recorder β σ γ × Surroundings :=
  let n := r.counters.framesReceived
  match hint with
  | some format =>
    ({ r with counters := { r.counters with droppedMismatch := r.counters.droppedMismatch + 1 } },
      s.note (.frameMismatched n raw.size format))
  | none =>
    ({ r with counters := { r.counters with droppedUnrecognized := r.counters.droppedUnrecognized + 1 } },
      s.note (.frameDropped n (.frameUnrecognized raw.size)))

omit [Coder σ] [Backend β σ] in
/-- Drops a frame that cannot be converted. -/
def dropUnconverted (r : Recorder β σ γ) (raw : Bytes) (format : FrameFormat) (e : RecordingError)
    (s : Surroundings) : Recorder β σ γ × Surroundings :=
  let n := r.counters.framesReceived
  match e with
  | .decode cause =>
    let r := { r with counters := { r.counters with droppedUndecodable := r.counters.droppedUndecodable + 1 } }
    r.dump raw (s.note (.frameUndecodable n format cause))
  | e =>
    ({ r with counters := { r.counters with droppedUnrecognized := r.counters.droppedUnrecognized + 1 } },
      s.note (.frameDropped n e))

omit [Backend β σ] in
/-- Submits a picture to the encoder, and counts what becomes of it. -/
def submit (r : Recorder β σ γ) (x : Recording σ γ) (picture : Bytes) (now : Nat) (s : Surroundings) :
    Attempt Unit × Recorder β σ γ × Recording σ γ × Surroundings :=
  let (pts, encoder) := x.encoder.stamp now
  let (outcome, encoder) := encoder.submit picture pts
  let x := { x with encoder }
  match outcome with
  | .ok (.queued _) =>
    (.ok (), { r with counters := { r.counters with framesSubmitted := r.counters.framesSubmitted + 1 } }, x, s)
  | .ok .dropped =>
    (.ok (), { r with counters := { r.counters with droppedBackpressure := r.counters.droppedBackpressure + 1 } }, x, s)
  | .error (.error e) => (.ok (), r, x, s.note (.frameRejected r.counters.framesReceived e))
  | .error (.fault f) => (Attempt.halt f, r, x, s)

variable [Container γ]

omit [Backend β σ] in
/-- Passes encoded samples on to the container. -/
def forward (r : Recorder β σ γ) (x : Recording σ γ) (now : Nat) (s : Surroundings) :
    Attempt Unit × Recorder β σ γ × Recording σ γ × Surroundings :=
  let (outcome, encoder, desk) := x.encoder.drain false { writer := x.writer, around := s : WritingDesk γ } now
  let x := { x with encoder, writer := desk.writer }
  let counted := { r with counters := { r.counters with
    samplesWritten := x.writer.written
    samplesDropped := x.writer.dropped } }
  match outcome with
  | .ok _ => (.ok (), counted, x, desk.around)
  | .error (.error e) => (.ok (), counted, x, desk.around.note (.drainFailed r.counters.framesReceived e))
  | .error (.fault f) => (Attempt.halt f, r, x, desk.around)

omit [Backend β σ] in
/-- Encodes a converted frame. -/
def encode (r : Recorder β σ γ) (x : Recording σ γ) (frame : Converted) (clock : Readings) (s : Surroundings) :
    Attempt Unit × Recorder β σ γ × Surroundings :=
  match r.submit x frame.bytes clock.now s with
  | (.error failure, r, x, s) => (.error failure, { r with recording := some x }, s)
  | (.ok (), r, x, s) =>
    match r.forward x clock.now s with
    | (.error failure, r, x, s) => (.error failure, { r with recording := some x }, s)
    | (.ok (), r, x, s) =>
      let (report, throughput) := x.throughput.record {
        conversion := if frame.holder = .input then {} else clock.conversion
        encoding := clock.encoding
        total := clock.total }
      let notices := Throughput.notices report throughput.minimumRate
      (.ok (), { r with recording := some { x with throughput } }, { s with journal := s.journal ++ notices })

omit [Coder σ] [Backend β σ] [Container γ] in
/-- Notes what the first frame looks like. -/
def noteFirst (r : Recorder β σ γ) (raw : Bytes) (g : Geometry) (s : Surroundings) : Attempt Surroundings :=
  if r.counters.framesReceived = 1 then do
    let len420 ← Attempt.ofOption .overflow g.len420?
    let len422 ← Attempt.ofOption .overflow g.len422?
    return s.note (.firstFrame raw.size g len420 len422 (raw.extract 0 headerLength))
  else .ok s

omit [Coder σ] [Backend β σ] [Container γ] in
/-- Recognises and converts a frame that was counted. Answers the picture to encode, or nothing if the frame was
dropped. -/
def prepare (r : Recorder β σ γ) (x : Recording σ γ) (raw : Bytes) (hint : Option FrameFormat) (s : Surroundings) :
    Attempt (Option Converted) × Recorder β σ γ × Recording σ γ × Surroundings :=
  match r.noteFirst raw x.converter.geometry s with
  | .error failure => (.error failure, r, x, s)
  | .ok s =>
    match FrameFormat.classifyAs raw x.converter.geometry hint with
    | .error failure => (.error failure, r, x, s)
    | .ok none =>
      let (r, s) := r.dropUnrecognized raw hint s
      (.ok none, r, x, s)
    | .ok (some format) =>
      let (converted, converter, journal) := x.converter.convert raw format s.journal
      let x := { x with converter }
      let s := { s with journal }
      match converted with
      | .error (.error e) =>
        let (r, s) := r.dropUnconverted raw format e s
        (.ok none, r, x, s)
      | .error (.fault f) => (Attempt.halt f, r, x, s)
      | .ok frame => (.ok (some frame), r, x, s)

omit [Backend β σ] in
/-- Deals with a frame that was counted. -/
def process (r : Recorder β σ γ) (x : Recording σ γ) (raw : Bytes) (hint : Option FrameFormat) (clock : Readings)
    (s : Surroundings) : Attempt Unit × Recorder β σ γ × Surroundings :=
  match r.prepare x raw hint s with
  | (.error failure, r, x, s) => (.error failure, { r with recording := some x }, s)
  | (.ok none, r, x, s) => (.ok (), { r with recording := some x }, s)
  | (.ok (some frame), r, x, s) => r.encode x frame clock s

omit [Coder σ] [Backend β σ] [Container γ] in
/-- Counts a frame that came. -/
def receive (r : Recorder β σ γ) : Recorder β σ γ :=
  { r with counters := { r.counters with framesReceived := r.counters.framesReceived + 1 } }

omit [Backend β σ] in
/-- Takes a frame, of the format that the camera reports if it does. -/
def write (r : Recorder β σ γ) (raw : Bytes) (hint : Option FrameFormat) (clock : Readings) (s : Surroundings) :
    Attempt Unit × Recorder β σ γ × Surroundings :=
  match r.state, r.recording with
  | .recording, some x => r.receive.process x raw hint clock s
  | .recording, none => (.ok (), r, s)
  | _, _ => (.ok (), r, s.note (.frameIgnored r.state.word))

/-! ## Stopping -/

omit [Coder σ] [Backend β σ] [Container γ] in
/-- What the journal says of a request that ended in trouble. -/
def noteFailure {α : Type} (notice : RecordingError → Notice) (outcome : Attempt α) (s : Surroundings) : Surroundings :=
  match outcome with
  | .error (.error e) => s.note (notice e)
  | _ => s

omit [Coder σ] [Backend β σ] in
/-- Finishes the container. After trouble with that there is nothing to say of the track. -/
def conclude (w : TrackWriter γ) (s : Surroundings) : TrackSummary × Surroundings :=
  let (finished, s) := w.finish s
  (finished.toOption.getD {}, noteFailure .finalizeFailed finished s)

/-- Finishes a recording: the encoder is drained to the end and released, and the container finished. Trouble on
the way is noted. -/
def close (r : Recorder β σ γ) (x : Recording σ γ) (now : Nat) (elapsed : Float) (s : Surroundings) :
    Attempt Statistics × Recorder β σ γ × Surroundings :=
  let (drained, encoder, desk) := x.encoder.drain true { writer := x.writer, around := s : WritingDesk γ } now
  match drained with
  | .error (.fault f) =>
    let (backend, journal) := encoder.discard r.backend desk.around.journal
    (Attempt.halt f, { r with backend }, { desk.around with journal })
  | _ =>
    let s := noteFailure .finalDrainFailed drained desk.around
    let (closed, _, backend) := encoder.close r.backend
    let s := noteFailure .closeFailed closed s
    let counters := { r.counters with samplesWritten := desk.writer.written, samplesDropped := desk.writer.dropped }
    let (summary, s) := conclude desk.writer s
    (.ok {
      counters
      duration := summary.duration
      bytesWritten := summary.bytes
      elapsed
      outputPath := r.settings.outputPath
      containerWritten := summary.containerWritten
      startedAt := x.startedAt }, { r with backend, counters }, s)

/-- Ends the recording. Only the first stop of a recording that was started answers with statistics. -/
def stop (r : Recorder β σ γ) (now : Nat) (elapsed : Float) (s : Surroundings) :
    Attempt (Option Statistics) × Recorder β σ γ × Surroundings :=
  let stopped := { r with state := .stopped, recording := none }
  match r.state, r.recording with
  | .stopped, _ => (.ok none, r, s)
  | .idle, _ => (.ok none, { r with state := .stopped }, s)
  | .recording, none => (.ok none, stopped, s)
  | .recording, some x =>
    let (statistics, r, s) := stopped.close x now elapsed s
    (statistics.map some, r, s)

/-- Gives the recorder up: a recording under way is stopped. -/
def discard (r : Recorder β σ γ) (now : Nat) (s : Surroundings) : Recorder β σ γ × Surroundings :=
  if r.isRecording then (r.stop now 0.0 (s.note .abandoned)).2 else (r, s)

end Recorder

end Camcorder
