import Camcorder.AnnexB
import Camcorder.Encoding.Coder

/-!
# The loopback backend

A backend that does not compress: each picture comes back as an access unit in the slot it went into, after a
start of a picture that names its kind. The first unit also carries parameter sets. A slot stays busy until its
output is released, so output that nobody takes shows as a lack of input slots.

It can be set up to misbehave in three ways: to refuse every instance, to announce the format before every sample,
and to swallow the marker that ends the stream. It counts its instances.
-/

namespace Camcorder

/-- The loopback backend: how it is set up, and its instances. -/
structure Loopback where
  layouts : List Layout := [.semiPlanar, .planar]
  /-- How many slots an instance has. -/
  slots : Nat := 4
  /-- Whether it refuses every instance. -/
  refuses : Bool := false
  /-- Whether instances announce the format before every sample. -/
  repeatsFormat : Bool := false
  /-- Whether instances answer the end of the stream with a sample. -/
  echoesEnd : Bool := true
  /-- The instances that are allocated. -/
  live : Nat := 0
  /-- The instances made so far. -/
  created : Nat := 0
deriving DecidableEq, Repr

namespace Loopback

def sps : Bytes := #[0x67, 0x42, 0xC0, 0x1F]

def pps : Bytes := #[0x68, 0xCE, 0x3C, 0x80]

/-- What precedes the first picture: the parameter sets and the start of a key picture. -/
def firstHeader : Bytes :=
  AnnexB.startCode ++ sps ++ AnnexB.startCode ++ pps ++ AnnexB.startCode ++ #[0x65]

/-- What precedes every other picture. -/
def laterHeader : Bytes := AnnexB.startCode ++ #[0x41]

/-- A slot: the buffer it is filled through, and the output it turns into. -/
structure Slot where
  input : Bytes
  output : Bytes := #[]
  info : SampleInfo := {}
  /-- Claimed, queued or waiting to be released. -/
  busy : Bool := false
deriving DecidableEq, Repr

/-- What an instance will answer to a poll. -/
inductive Event where
  | format
  | sample (slot : Nat)
deriving DecidableEq, Repr

/-- An instance. -/
structure Instance where
  width : Nat
  height : Nat
  slots : Array Slot
  /-- The events to come, in order. -/
  pending : List Event := []
  formatSent : Bool := false
  repeatsFormat : Bool
  echoesEnd : Bool
  started : Bool := false
  /-- The pictures encoded so far. -/
  samples : Nat := 0
deriving DecidableEq, Repr

namespace Instance

/-- Claims the first slot that is not busy. -/
def claim (s : Instance) : Option Nat × Instance :=
  if s.started then
    match s.slots.findIdx? (!·.busy) with
    | some i => (some i, { s with slots := s.slots.modify i fun slot => { slot with busy := true } })
    | none => (none, s)
  else (none, s)

/-- Writes at the front of the buffer of a slot. -/
def fill (s : Instance) (i : Nat) (data : Bytes) : Instance :=
  { s with slots := s.slots.modify i fun slot => { slot with input := Bytes.overwrite slot.input data } }

/-- Gives a slot back. -/
def release (s : Instance) (i : Nat) : Instance :=
  { s with slots := s.slots.modify i fun slot => { slot with busy := false } }

/-- Puts an output into a slot and announces it. -/
def emit (s : Instance) (i : Nat) (output : Bytes) (pts : Nat) (flags : SampleFlags) : Instance :=
  { s with
    slots := s.slots.modify i fun slot => { slot with output, info := { size := output.size, pts, flags } }
    pending := s.pending ++ [.sample i] }

/-- Turns the picture in a slot into an access unit. -/
def encode (s : Instance) (i : Nat) (slot : Slot) (len pts : Nat) : Instance :=
  let first := s.samples == 0
  let announced :=
    if !s.formatSent || s.repeatsFormat then { s with pending := s.pending ++ [.format], formatSent := true } else s
  let header := if first then firstHeader else laterHeader
  let unit := header ++ slot.input.extract 0 len
  { announced with samples := s.samples + 1 }.emit i unit pts { keyFrame := first }

/-- Takes a slot back from the user, if it was claimed. -/
def queue (s : Instance) (i len pts : Nat) (flags : SampleFlags) : Attempt Unit × Instance :=
  match s.slots[i]? with
  | some slot =>
    if !slot.busy then (Attempt.refuse (.invalidState (.slotNotDequeued i)), s)
    else if flags.endOfStream then
      (.ok (), if s.echoesEnd then s.emit i #[] pts { endOfStream := true } else s.release i)
    else (.ok (), s.encode i slot len pts)
  | none => (Attempt.refuse (.invalidState (.slotNotDequeued i)), s)

/-- Answers with the next event. -/
def poll (s : Instance) : Output × Instance :=
  match s.pending with
  | [] => (.nothing, s)
  | .format :: rest => (.format, { s with pending := rest })
  | .sample i :: rest => (.sample i ((s.slots[i]?).map Slot.info |>.getD {}), { s with pending := rest })

end Instance

instance : Coder Instance where
  start s := (.ok (), { s with started := true })
  claim s _ := s.claim
  room? s i := (s.slots[i]?).map fun slot => slot.input.size
  fill := Instance.fill
  queue := Instance.queue
  poll s _ := s.poll
  slot? s i := (s.slots[i]?).map Slot.output
  parameters? s := if s.formatSent then some { width := s.width, height := s.height, sps, pps } else none
  release := Instance.release
  stop s := (.ok (), { s with started := false, pending := [] })
  left s := s.pending.length
  left_poll_lt s _ := by
    simp only [Instance.poll]
    split <;> simp_all
  left_poll_le s _ := by
    simp only [Instance.poll]
    split <;> simp_all
  left_release_le s _ := Nat.le_refl _

/-- Makes an instance, with a buffer of the length of a picture in every slot. -/
def create (b : Loopback) (f : StreamFormat) : Attempt Instance × Loopback :=
  if b.refuses then (Attempt.refuse (.configuration (.instanceRefused "loopback")), b)
  else
    let b := { b with live := b.live + 1, created := b.created + 1 }
    match Attempt.ofOption .overflow f.inputLength? with
    | .error failure => (.error failure, b)
    | .ok len =>
      (.ok {
        width := f.width
        height := f.height
        slots := Array.replicate b.slots { input := Bytes.fill len 0 }
        repeatsFormat := b.repeatsFormat
        echoesEnd := b.echoesEnd }, b)

instance : Backend Loopback Instance where
  name _ := "loopback"
  layouts := Loopback.layouts
  create := create
  destroy b _ := { b with live := b.live - 1 }

end Loopback

end Camcorder
