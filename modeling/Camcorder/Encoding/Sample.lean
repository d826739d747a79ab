import Camcorder.Bytes
import Camcorder.Frame.Geometry

/-!
# Encoded samples

What comes out of an encoder: the parameters of the stream, once, and samples, each a part of an output slot with
a time stamp in microseconds and flags.
-/

namespace Camcorder

/-- What is known of a sample besides its bytes. -/
structure SampleFlags where
  keyFrame : Bool := false
  /-- The sample holds parameters, no picture. -/
  codecConfig : Bool := false
  endOfStream : Bool := false
deriving DecidableEq, Repr

namespace SampleFlags

def none : SampleFlags := {}

/-- The flags as a number, one bit for each. -/
def bits (f : SampleFlags) : Nat :=
  (if f.keyFrame then 1 else 0) + (if f.codecConfig then 2 else 0) + (if f.endOfStream then 4 else 0)

/-- The flags that are in `a` or in `b`. -/
def union (a b : SampleFlags) : SampleFlags where
  keyFrame := a.keyFrame || b.keyFrame
  codecConfig := a.codecConfig || b.codecConfig
  endOfStream := a.endOfStream || b.endOfStream

/-- Whether all flags of `b` are in `a`, and there are any. -/
def contains (a b : SampleFlags) : Bool := b != none && a.union b == a

end SampleFlags

/-- The parameters of a stream. -/
structure CodecParameters where
  width : Nat
  height : Nat
  /-- The sequence parameter set, without a start code. -/
  sps : Bytes
  /-- The picture parameter set, without a start code. -/
  pps : Bytes
deriving DecidableEq, Repr

namespace CodecParameters

def geometry (p : CodecParameters) : Geometry := { width := p.width, height := p.height }

end CodecParameters

/-- Which part of an output slot is a sample, and what is known of it. -/
structure SampleInfo where
  offset : Nat := 0
  size : Nat := 0
  pts : Nat := 0
  flags : SampleFlags := {}
deriving DecidableEq, Repr

/-- A sample in its slot. -/
structure Sample where
  /-- The whole slot. -/
  data : Bytes
  info : SampleInfo
deriving DecidableEq, Repr

namespace Sample

/-- The bytes of the sample, as far as the slot has them; `none` if a 64-bit word cannot hold the end of it. -/
def payload? (s : Sample) : Option Bytes := do
  let stop ← word? (s.info.offset + s.info.size)
  let stop := min stop s.data.size
  return s.data.extract (min s.info.offset stop) stop

end Sample

end Camcorder
