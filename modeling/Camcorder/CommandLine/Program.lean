import Camcorder.CommandLine.Dump
import Camcorder.CommandLine.Report
import Camcorder.Encoding.Avc
import Camcorder.Mp4.Document
import Camcorder.Settings.Document

/-!
# The program

`run` is the whole program: from its arguments and the files it finds to what it prints, its exit status and the
files it leaves.

The commands are given what the program does not make itself: the compressor behind its encoder, the container, the
decoder of compressed frames, memory, and what the clocks show. `run` settles on those of this library. Unless a clock
says otherwise its time is nominal: dealing with a frame takes a millisecond, and the interval between frames comes on
top of that.
-/

namespace Camcorder.CommandLine

/-- Microseconds from the beginning of the recording to frame `k`, if dealing with a frame takes a millisecond. -/
def Arguments.nominal (a : Arguments) (k : Nat) : Nat := k * (a.interval * 1000 + 1000)

/-- What the clocks show at the end of a recording. -/
structure Closing where
  /-- Microseconds since the encoder was opened. -/
  now : Nat
  /-- Seconds since the recording began. -/
  elapsed : Float

/-- What the clocks show in a run with the arguments that it is given. -/
structure Clock where
  /-- When the recording begins. -/
  startedAt : Timestamp
  /-- While frame `k` is dealt with. -/
  frame : Arguments → (k : Nat) → Readings := fun a k => { now := a.nominal k }
  /-- When the recording ends, after `n` frames. -/
  closing : Arguments → (n : Nat) → Closing := fun a n =>
    { now := a.nominal n, elapsed := Float.ofNat (a.nominal n) / 1000000.0 }

/-- What a recorder has from elsewhere. -/
structure Means where
  /-- How compressed frames are decoded. -/
  decode : (g : Geometry) → Bytes → Except DecodeCause (ColourPicture g) := Jpeg.decode
  /-- Which arenas there is memory for. -/
  memory : Memory := .ample

/-- The recorder of the program, with a compressor of type `ε` and a container of type `γ`. -/
abbrev ProgramRecorder (ε γ : Type) := Recorder (Avc ε) (Avc.Instance ε) γ

/-- What a command does: it succeeds with the lines to print, or fails; either way it leaves its surroundings. -/
abbrev Command := Surroundings → Except CommandFailure (List String) × Surroundings

/-- A recorder and its surroundings while frames are handed to it. -/
structure Session (ε γ : Type) where
  recorder : ProgramRecorder ε γ
  around : Surroundings

namespace Session

variable {ε γ : Type} [Compressor ε]

/-- Opens a session: preferences are loaded and the recorder is started. -/
def start (means : Means) (clock : Clock) (a : Arguments) (g : Geometry) (outputPath : String) (s : Surroundings) :
    Except CommandFailure (Session ε γ) × Surroundings :=
  let settings : Except CommandFailure CaptureSettings := do
    let preferences ← match a.preferences with
      | some path => (Preferences.load path s.disk).mapError .settings
      | none => .ok {}
    match preferences.flaw? with
    | some flaw => .error (.unfitSettings flaw)
    | none => .ok (preferences.capture g.width g.height outputPath)
  match settings with
  | .error failure => (.error failure, s)
  | .ok settings =>
    let recorder : ProgramRecorder ε γ :=
      { settings, backend := {}, decode := means.decode, memory := means.memory }
    match recorder.start clock.startedAt s with
    | (.ok true, recorder, s) => (.ok { recorder, around := s }, s)
    | (.ok false, _, s) => (.error .notStarted, s)
    | (.error (.fault f), _, s) => (.error (.fault f), s)
    | (.error (.error _), _, s) => (.error .notStarted, s)

variable [Container γ]

/-- Hands frame `k` over. -/
def take (clock : Clock) (a : Arguments) (format : Option FrameFormat) (k : Nat) (frame : Bytes) (x : Session ε γ) :
    Except CommandFailure Unit × Session ε γ :=
  match x.recorder.write frame format (clock.frame a k) x.around with
  | (.ok (), recorder, around) => (.ok (), { recorder, around })
  | (.error (.fault f), recorder, around) => (.error (.fault f), { recorder, around })
  | (.error (.error _), recorder, around) => (.ok (), { recorder, around })

/-- What the clocks show if the session ends now. -/
def closing (clock : Clock) (a : Arguments) (x : Session ε γ) : Closing :=
  clock.closing a x.recorder.counters.framesReceived

/-- Stops the recorder and reports. -/
def finish (clock : Clock) (a : Arguments) (x : Session ε γ) :
    Except CommandFailure (List String) × Surroundings :=
  let c := x.closing clock a
  match x.recorder.stop c.now c.elapsed x.around with
  | (.ok (some statistics), _, around) => (.ok (recordingReport statistics a.json), around)
  | (.ok none, _, around) => (.error .notRecording, around)
  | (.error (.fault f), _, around) => (.error (.fault f), around)
  | (.error (.error _), _, around) => (.error .notRecording, around)

/-- Gives the recorder up after a failure. -/
def abandon (clock : Clock) (a : Arguments) (failure : CommandFailure) (x : Session ε γ) :
    Except CommandFailure (List String) × Surroundings :=
  (.error failure, (x.recorder.discard (x.closing clock a).now x.around).2)

/-- Ends a session after all frames, or after the failure of one. -/
def conclude (clock : Clock) (a : Arguments) : Except CommandFailure Unit × Session ε γ →
    Except CommandFailure (List String) × Surroundings
  | (.ok (), x) => x.finish clock a
  | (.error failure, x) => x.abandon clock a failure

end Session

/-- The operands of a recording command. -/
structure RecordingOperands where
  source : String
  geometry : Geometry
  outputPath : String

namespace RecordingOperands

/-- Reads the operands; those beyond the fourth are passed over. -/
def read (command : RecordingCommand) (operands : List String) : Except CommandFailure RecordingOperands :=
  match operands with
  | source :: width :: height :: outputPath :: _ => do
    let width ← (Decimal.readNumeral halfWordLimit width).mapError (.argument ∘ .numeral)
    let height ← (Decimal.readNumeral halfWordLimit height).mapError (.argument ∘ .numeral)
    return { source, geometry := { width, height }, outputPath }
  | _ => .error (.missingOperands command)

end RecordingOperands

/-- Reads what a recording command is asked to do. -/
def readOrder (command : RecordingCommand) (tokens : List String) :
    Except CommandFailure (Arguments × RecordingOperands) := do
  let a ← (Arguments.read tokens).mapError .argument
  return (a, ← RecordingOperands.read command a.operands)

/-! ## Commands -/

section Commands

variable (ε γ : Type) [Compressor ε] [Container γ] (means : Means) (clock : Clock)

variable {ε γ} in
/-- Hands the frames of the dump to the recorder. -/
def playDump (clock : Clock) (a : Arguments) (o : RecordingOperands) (len : Nat) (x : Session ε γ) :
    Except CommandFailure (List String) × Surroundings :=
  match x.around.disk.read o.source with
  | .ok dump =>
    if len_pos : 0 < len then
      Session.conclude clock a (Dump.feed dump len len_pos a.limit (Session.take clock a a.format) 0 x)
    else x.abandon clock a (.fault .endless)
  | .error cause =>
    if cause = .isADirectory ∧ a.limit = some 0 then x.finish clock a else x.abandon clock a (.file cause)

/-- Records a dump of raw frames. -/
def recordDump (tokens : List String) : Command := fun s =>
  let order : Except CommandFailure (Arguments × RecordingOperands × Nat) := do
    let (a, o) ← readOrder .dump tokens
    let size ← (s.disk.size o.source).mapError .file
    return (a, o, ← Dump.frameLength a.format o.geometry size)
  match order with
  | .error failure => (.error failure, s)
  | .ok (a, o, len) =>
    match (Session.start means clock a o.geometry o.outputPath s :
        Except CommandFailure (Session ε γ) × Surroundings) with
    | (.error failure, s) => (.error failure, s)
    | (.ok x, _) => playDump clock a o len x

/-- Whether a file with this name is taken for a JPEG image. -/
def isPicture (name : String) : Bool :=
  match FileTree.extension? name with
  | some e => ["jpg", "jpeg"].contains (e.map Char.toLower)
  | none => false

/-- The paths of the pictures in a directory, in order. -/
def picturePaths (folder : String) (disk : FileTree) : Except CommandFailure (List String) := do
  let names ← (disk.list folder).mapError .file
  let paths := (names.filter isPicture).map (FileTree.join folder)
  if paths.isEmpty then .error (.noPictures folder) else .ok paths

variable {ε γ} in
/-- Hands the picture at `path` over, as frame `k`. A picture that cannot be read is skipped. -/
def takePicture (clock : Clock) (a : Arguments) (x : Session ε γ) (path : String) (k : Nat) :
    Except CommandFailure Unit × Session ε γ :=
  match x.around.disk.read path with
  | .ok picture => x.take clock a (some .compressed) k picture
  | .error cause => (.ok (), { x with around := x.around.note (.pictureSkipped path cause) })

variable {ε γ} in
/-- Hands pictures over, from frame `k` on, until one fails. -/
def playPictures (clock : Clock) (a : Arguments) : List String → Nat → Session ε γ →
    Except CommandFailure Unit × Session ε γ
  | [], _, x => (.ok (), x)
  | path :: paths, k, x =>
    match takePicture clock a x path k with
    | (.ok (), x) => playPictures clock a paths (k + 1) x
    | (.error failure, x) => (.error failure, x)

/-- Records the pictures in a directory. -/
def recordPictures (tokens : List String) : Command := fun s =>
  let order : Except CommandFailure (Arguments × RecordingOperands × List String) := do
    let (a, o) ← readOrder .pictures tokens
    let paths ← picturePaths o.source s.disk
    return (a, o, match a.limit with
      | some limit => paths.take limit
      | none => paths)
  match order with
  | .error failure => (.error failure, s)
  | .ok (a, o, paths) =>
    match (Session.start means clock a o.geometry o.outputPath s :
        Except CommandFailure (Session ε γ) × Surroundings) with
    | (.error failure, s) => (.error failure, s)
    | (.ok x, _) => Session.conclude clock a (playPictures clock a paths 0 x)

/-- Tells about the program. -/
def showProduct (tokens : List String) : Command := fun s =>
  (.ok (productReport product (tokens.contains Argument.jsonSwitch)), s)

/-- The command that the arguments name. -/
def command : List String → Command
  | [] => fun s => (.error .noCommand, s)
  | name :: tokens =>
    if name = "record" then recordDump ε γ means clock tokens
    else if name = "record-jpeg" then recordPictures ε γ means clock tokens
    else if name = "info" then showProduct tokens
    else fun s => (.error (.unknownCommand name), s)

end Commands

/-- What a run leaves. -/
structure Outcome where
  status : Nat
  output : List String
  errors : List String
  around : Surroundings

/-- Runs the program with the arguments that follow its name. -/
def run (clock : Clock) (args : List String) (disk : FileTree) : Outcome :=
  match command Cadence Mp4.Movie {} clock args { disk } with
  | (.ok output, around) => { status := 0, output, errors := [], around }
  | (.error failure, around) => { status := failure.status, output := [], errors := failure.lines, around }

end Camcorder.CommandLine
