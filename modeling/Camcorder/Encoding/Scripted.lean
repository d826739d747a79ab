import Camcorder.Encoding.Coder

/-!
# Scripted encoders

A backend whose instances follow a script: which answers they give to polls, how many slots and what buffers they
have, and which requests fail. It records every request, so that one can see what a session asks of an encoder,
and have it meet answers that no real encoder gives.
-/

namespace Camcorder

namespace Scripted

/-- What becomes of a queued input. -/
inductive QueueAnswer where
  | accept
  | refuse
  | breakDown
deriving DecidableEq, Repr

/-- The answer to a poll; a sample is in the slot whose number is the position of the answer in the script. -/
inductive Reply where
  | nothing
  | format
  | sample (info : SampleInfo) (data : Option Bytes)
deriving DecidableEq, Repr

/-- What the instances of a backend do. -/
structure Script where
  layouts : List Layout := [.semiPlanar, .planar]
  refusesCreation : Bool := false
  refusesStart : Bool := false
  refusesStop : Bool := false
  /-- How many input slots are handed out, each of them once. -/
  slots : Nat := 4
  /-- The size of the input buffers; that of a picture if absent. -/
  bufferLength : Option Nat := none
  hasBuffers : Bool := true
  queue : QueueAnswer := .accept
  /-- The answers to the polls in order; after the last one there is nothing. -/
  replies : List Reply := []
  parameters : Option CodecParameters := none
deriving DecidableEq, Repr

/-- A request that an instance or the backend was given. -/
inductive Request where
  | create (width height : Nat) (layout : Layout)
  | start
  | claim (wait : Nat) (slot : Option Nat)
  /-- An input handed back, with the bytes that its buffer begins with. -/
  | queue (slot len pts : Nat) (flags : SampleFlags) (head : Bytes)
  | poll (wait : Nat)
  | release (slot : Nat)
  | stop
  | destroy
deriving DecidableEq, Repr

/-- An instance. -/
structure Instance where
  script : Script
  /-- The number of slots handed out. -/
  claimed : Nat := 0
  buffers : Array Bytes
  /-- The number of polls answered from the script. -/
  polled : Nat := 0
  /-- The requests so far. -/
  record : List Request := []
deriving DecidableEq, Repr

namespace Instance

def log (s : Instance) (r : Request) : Instance := { s with record := s.record ++ [r] }

/-- How many bytes of a queued input are recorded. -/
def headLength : Nat := 4

def start (s : Instance) : Attempt Unit × Instance :=
  (if s.script.refusesStart then Attempt.refuse (.encoding (.other "scripted start")) else .ok (), s.log .start)

/-- Hands out the next slot, as long as there is one. -/
def claim (s : Instance) (wait : Nat) : Option Nat × Instance :=
  if s.claimed < s.script.slots then
    (some s.claimed, { s with claimed := s.claimed + 1 }.log (.claim wait (some s.claimed)))
  else (none, s.log (.claim wait none))

def buffer? (s : Instance) (slot : Nat) : Option Bytes :=
  if s.script.hasBuffers then s.buffers[slot]? else none

def fill (s : Instance) (slot : Nat) (data : Bytes) : Instance :=
  { s with buffers := s.buffers.modify slot fun b => Bytes.overwrite b data }

def queue (s : Instance) (slot len pts : Nat) (flags : SampleFlags) : Attempt Unit × Instance :=
  let head := (s.buffers.getD slot #[]).extract 0 (min len headLength)
  (match s.script.queue with
    | .accept => .ok ()
    | .refuse => Attempt.refuse (.encoding (.other "scripted queue"))
    | .breakDown => Attempt.halt .instanceBroke,
    s.log (.queue slot len pts flags head))

def poll (s : Instance) (wait : Nat) : Output × Instance :=
  let s := s.log (.poll wait)
  match s.script.replies[s.polled]? with
  | none => (.nothing, s)
  | some reply =>
    (match reply with
      | .nothing => .nothing
      | .format => .format
      | .sample info _ => .sample s.polled info, { s with polled := s.polled + 1 })

def slot? (s : Instance) (slot : Nat) : Option Bytes :=
  match s.script.replies[slot]? with
  | some (.sample _ data) => data
  | _ => none

def stop (s : Instance) : Attempt Unit × Instance :=
  (if s.script.refusesStop then Attempt.refuse (.encoding (.other "scripted stop")) else .ok (), s.log .stop)

end Instance

instance : Coder Instance where
  start := Instance.start
  claim := Instance.claim
  room? s slot := (s.buffer? slot).map Array.size
  fill := Instance.fill
  queue := Instance.queue
  poll := Instance.poll
  slot? := Instance.slot?
  parameters? s := s.script.parameters
  release s slot := s.log (.release slot)
  stop := Instance.stop
  left s := s.script.replies.length - s.polled
  left_poll_lt s wait := by
    simp only [Instance.poll, Instance.log]
    split
    · simp
    · rename_i h
      have := (List.getElem?_eq_some_iff.1 h).1
      intro _
      simp only at *
      omega
  left_poll_le s wait := by
    simp only [Instance.poll, Instance.log]
    split <;> simp only <;> omega
  left_release_le s slot := Nat.le_refl _

end Scripted

/-- The scripted backend. -/
structure Scripted where
  script : Scripted.Script := {}
  /-- The requests to the backend and to the instances it has destroyed. -/
  record : List Scripted.Request := []
deriving DecidableEq, Repr

namespace Scripted

def create (b : Scripted) (f : StreamFormat) : Attempt Instance × Scripted :=
  let b := { b with record := b.record ++ [.create f.width f.height f.layout] }
  if b.script.refusesCreation then (Attempt.refuse (.configuration (.other "scripted create")), b)
  else match Attempt.ofOption .overflow f.inputLength? with
    | .error failure => (.error failure, b)
    | .ok len =>
      let buffer := Bytes.fill (b.script.bufferLength.getD len) 0
      (.ok { script := b.script, buffers := Array.replicate b.script.slots buffer }, b)

instance : Backend Scripted Instance where
  name _ := "scripted"
  layouts b := b.script.layouts
  create := create
  destroy b s := { b with record := b.record ++ s.record ++ [.destroy] }

end Scripted

end Camcorder
