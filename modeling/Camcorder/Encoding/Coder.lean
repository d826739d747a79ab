import Camcorder.Encoding.Format
import Camcorder.Encoding.Sample
import Camcorder.Notice

/-!
# The slot protocol

An encoder instance, a `Coder`, owns input and output slots. Its user claims an input slot, fills it and queues
it; polls for outputs, reads and releases them; and stops the instance at the end. A `Backend` makes and destroys
instances. A `Sink` is where the samples go.

Not every sequence of requests makes sense, but every one has an answer. What a coder promises is that its outputs
come to an end: `left` bounds how many of them can be polled before something is queued again. The promise is part of
the protocol, and a coder comes with its proof, because a drain polls as long as there is something to take. So what is
said of every backend is said of every backend with such a bound. The encoders here have one, and so has every script
of answers; nothing else about a coder is taken for granted.
-/

namespace Camcorder

/-- The answer to a poll. -/
inductive Output where
  /-- There is nothing to take yet. -/
  | nothing
  /-- The parameters of the stream are settled. -/
  | format
  /-- A sample is in an output slot. -/
  | sample (slot : Nat) (info : SampleInfo)
deriving DecidableEq, Repr

/-- An instance of an encoder. Waits are in milliseconds. The last four fields are the promise that polling comes to an
end: a sample or an announcement that is taken leaves fewer to come, and neither a poll nor a release brings more. -/
class Coder (σ : Type) where
  start : σ → Attempt Unit × σ
  /-- Claims a free input slot, if one is free within `wait`. -/
  claim : σ → (wait : Nat) → Option Nat × σ
  /-- The size of the buffer of an input slot, if it can be written to. -/
  room? : σ → (slot : Nat) → Option Nat
  /-- Writes bytes at the front of the buffer of an input slot. -/
  fill : σ → (slot : Nat) → Bytes → σ
  /-- Hands an input slot back, `len` bytes of it to be encoded. -/
  queue : σ → (slot len pts : Nat) → SampleFlags → Attempt Unit × σ
  poll : σ → (wait : Nat) → Output × σ
  /-- The bytes of an output slot. -/
  slot? : σ → (slot : Nat) → Option Bytes
  /-- The parameters of the stream, once they are settled. -/
  parameters? : σ → Option CodecParameters
  /-- Gives an output slot back. -/
  release : σ → (slot : Nat) → σ
  stop : σ → Attempt Unit × σ
  /-- A bound on the outputs to come without further input. -/
  left : σ → Nat
  left_poll_lt : ∀ s wait, (poll s wait).1 ≠ .nothing → left (poll s wait).2 < left s
  left_poll_le : ∀ s wait, left (poll s wait).2 ≤ left s
  left_release_le : ∀ s slot, left (release s slot) ≤ left s

/-- Where encoder instances come from. -/
class Backend (β : Type) (σ : outParam Type) where
  name : β → String
  /-- The layouts that its instances take as input. -/
  layouts : β → List Layout
  create : β → StreamFormat → Attempt σ × β
  destroy : β → σ → β

/-- Where the output of an encoder goes. It also hears what the encoder has to report. -/
class Sink (κ : Type) where
  register : κ → CodecParameters → Attempt Unit × κ
  accept : κ → Sample → Attempt Unit × κ
  note : κ → Notice → κ

end Camcorder
