import Camcorder.Encoding.Coder
import Camcorder.Encoding.Compressor

/-!
# The H.264 backend

Drives a compressor that works at once: a picture is compressed when it is queued, and the result is parked in an
output slot until it is taken. The first access unit with parameter sets yields two outputs, the parameters and
the unit itself; so an input slot is handed out only while there is room for two outputs.
-/

namespace Camcorder

/-- The H.264 backend with compressors of type `ε`. -/
structure Avc (ε : Type) where
deriving DecidableEq, Repr

namespace Avc

/-- The name of the backend, that of its compressor. -/
def backendName : String := "openh264"

def inputSlots : Nat := 4

def outputSlots : Nat := 8

/-- The most outputs that one picture yields. -/
def outputsPerInput : Nat := 2

structure InputSlot where
  data : Bytes
  /-- Whether the user holds it. -/
  claimed : Bool := false
deriving DecidableEq, Repr

structure OutputSlot where
  data : Bytes := #[]
  info : SampleInfo := {}
  /-- Whether it holds an output that is not released yet. -/
  inUse : Bool := false
deriving DecidableEq, Repr

/-- What an instance will answer to a poll. -/
inductive Event where
  | format
  | sample (slot : Nat)
deriving DecidableEq, Repr

/-- An instance. -/
structure Instance (ε : Type) where
  compressor : ε
  format : StreamFormat
  /-- The bytes of a picture. -/
  length : Nat
  inputs : Array InputSlot
  /-- The input slots that can be claimed; the one released last is handed out first. -/
  freeInputs : List Nat := List.range inputSlots
  outputs : Array OutputSlot := Array.replicate outputSlots {}
  /-- The events to come, in order. -/
  pending : List Event := []
  parameters : Option CodecParameters := none
  started : Bool := false
  endQueued : Bool := false

namespace Instance

variable {ε : Type}

/-- The number of output slots that are free. -/
def freeOutputs (s : Instance ε) : Nat := s.outputs.countP (!·.inUse)

/-- Claims an input slot, while the stream goes on and there is room for its outputs. -/
def claim (s : Instance ε) : Option Nat × Instance ε :=
  if !s.started || s.endQueued || s.freeOutputs < outputsPerInput then (none, s)
  else match s.freeInputs with
    | [] => (none, s)
    | i :: rest =>
      (some i, { s with freeInputs := rest, inputs := s.inputs.modify i fun slot => { slot with claimed := true } })

/-- The buffer of an input slot that the user holds. -/
def buffer? (s : Instance ε) (i : Nat) : Option Bytes :=
  (s.inputs[i]?).bind fun slot => if slot.claimed then some slot.data else none

/-- Writes at the front of the buffer of an input slot that the user holds. -/
def fill (s : Instance ε) (i : Nat) (data : Bytes) : Instance ε :=
  { s with inputs := s.inputs.modify i fun slot =>
      if slot.claimed then { slot with data := Bytes.overwrite slot.data data } else slot }

/-- Parks an output in the first free slot and announces it. -/
def park (s : Instance ε) (data : Bytes) (pts : Nat) (flags : SampleFlags) : Attempt Unit × Instance ε :=
  match s.outputs.findIdx? (!·.inUse) with
  | none => (Attempt.refuse (.encoding .outputSlotsExhausted), s)
  | some i =>
    (.ok (), { s with
      outputs := s.outputs.modify i fun _ => { data, info := { size := data.size, pts, flags }, inUse := true }
      pending := s.pending ++ [.sample i] })

/-- The parameter sets as a sample of their own. -/
def configUnit (p : CodecParameters) : Bytes :=
  AnnexB.startCode ++ p.sps ++ AnnexB.startCode ++ p.pps

/-- Settles the parameters of the stream, if an access unit is the first to have them: they are announced and
parked as a sample. -/
def settle (s : Instance ε) (unit : Bytes) (pts : Nat) : Attempt Unit × Instance ε :=
  if s.parameters.isSome then (.ok (), s)
  else match AnnexB.parameterSets unit s.format.geometry with
    | none => (.ok (), s)
    | some p =>
      let s := { s with parameters := some p, pending := s.pending ++ [Event.format] }
      s.park (configUnit p) pts { codecConfig := true }

/-- Parks an access unit, after the parameters if it is the first to have them. A picture that was skipped yields
nothing. -/
def take (s : Instance ε) (unit : AccessUnit) (pts : Nat) : Attempt Unit × Instance ε :=
  if unit.kind.isAbsent || unit.data.isEmpty then (.ok (), s)
  else match s.settle unit.data pts with
    | (.error failure, s) => (.error failure, s)
    | (.ok (), s) => s.park unit.data pts { keyFrame := unit.kind.isKey }

/-- Compresses a picture. -/
def encode [Compressor ε] (s : Instance ε) (picture : Bytes) (pts : Nat) : Attempt Unit × Instance ε :=
  match Planes.ofPicture? s.format.layout s.format.width s.format.height picture with
  | none => (Attempt.halt .outOfBounds, s)
  | some planes =>
    match Compressor.encode s.compressor planes with
    | (none, compressor) => (Attempt.refuse (.encoding .encoderFailed), { s with compressor })
    | (some unit, compressor) => { s with compressor }.take unit pts

/-- Takes an input slot back; it can be claimed again. -/
def giveBack (s : Instance ε) (i : Nat) : Instance ε :=
  { s with
    freeInputs := i :: s.freeInputs
    inputs := s.inputs.modify i fun slot => { slot with claimed := false } }

/-- Takes an input slot back from the user and deals with what is in it. -/
def queue [Compressor ε] (s : Instance ε) (i len pts : Nat) (flags : SampleFlags) : Attempt Unit × Instance ε :=
  match s.buffer? i with
  | none => (Attempt.refuse (.invalidState (.slotNotDequeued i)), s)
  | some picture =>
    let (r, s) :=
      if flags.endOfStream then { s with endQueued := true }.park #[] pts { endOfStream := true }
      else if len ≠ s.length then (Attempt.refuse (.encoding (.invalidFrameSize s.length len)), s)
      else s.encode picture pts
    (r, s.giveBack i)

/-- Answers with the next event. -/
def poll (s : Instance ε) : Output × Instance ε :=
  match s.pending with
  | [] => (.nothing, s)
  | .format :: rest => (.format, { s with pending := rest })
  | .sample i :: rest => (.sample i ((s.outputs[i]?).map OutputSlot.info |>.getD {}), { s with pending := rest })

/-- The bytes of an output slot in use. -/
def output? (s : Instance ε) (i : Nat) : Option Bytes :=
  (s.outputs[i]?).bind fun slot => if slot.inUse then some slot.data else none

/-- Frees an output slot. -/
def release (s : Instance ε) (i : Nat) : Instance ε :=
  { s with outputs := s.outputs.modify i fun slot => { slot with inUse := false } }

/-- Stops: what was not taken is lost. -/
def stop (s : Instance ε) : Instance ε :=
  { s with started := false, pending := [], outputs := s.outputs.map fun slot => { slot with inUse := false } }

end Instance

instance {ε : Type} [Compressor ε] : Coder (Instance ε) where
  start s := (.ok (), { s with started := true })
  claim s _ := s.claim
  room? s i := (s.buffer? i).map Array.size
  fill := Instance.fill
  queue := Instance.queue
  poll s _ := s.poll
  slot? := Instance.output?
  parameters? s := s.parameters
  release := Instance.release
  stop s := (.ok (), s.stop)
  left s := s.pending.length
  left_poll_lt s _ := by
    simp only [Instance.poll]
    split <;> simp_all
  left_poll_le s _ := by
    simp only [Instance.poll]
    split <;> simp_all
  left_release_le s _ := Nat.le_refl _

/-- Makes an instance with a new compressor. -/
def create {ε : Type} [Compressor ε] (f : StreamFormat) : Attempt (Instance ε) :=
  if f.width = 0 ∨ f.height = 0 ∨ f.width % 2 ≠ 0 ∨ f.height % 2 ≠ 0 then
    Attempt.refuse (.configuration (.uncodableDimensions backendName f.width f.height))
  else do
    let period ← Attempt.ofOption .overflow (halfWord? (max f.frameRate 1 * max f.keyFrameSeconds 1))
    match Compressor.create f period with
    | .error reason => Attempt.refuse (.configuration (.compressorRefused reason))
    | .ok compressor =>
      let length ← Attempt.ofOption .overflow f.inputLength?
      return { compressor, format := f, length, inputs := Array.replicate inputSlots { data := Bytes.fill length 0 } }

instance {ε : Type} [Compressor ε] : Backend (Avc ε) (Instance ε) where
  name _ := backendName
  layouts _ := [.semiPlanar, .planar]
  create b f := (create f, b)
  destroy b _ := b

end Avc

end Camcorder
