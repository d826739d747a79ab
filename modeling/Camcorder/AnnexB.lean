import Camcorder.Encoding.Sample

/-!
# Byte streams of NAL units

In a byte stream, each NAL unit follows a start code: two zeros and a one, with more zeros before them or not. The
low five bits of its first byte are its type.

`units` cuts a stream at the last two zeros of each start code, and keeps the start codes; `parameterSets` finds
the parameter sets among them. `payloads` gives what stands between start codes of three or four bytes, as a
container stores it.
-/

namespace Camcorder.AnnexB

/-- The four-byte start code. -/
def startCode : Bytes := #[0, 0, 0, 1]

/-- The type of the NAL unit that begins with this byte. -/
def unitType (b : UInt8) : Nat := b.toNat % 32

def spsType : Nat := 7

def ppsType : Nat := 8

/-! ## Units with their start codes -/

/-- Where start codes begin in the bytes from position `i` on, `zeros` zeros having come directly before. A one
after two zeros or more is the end of a start code, which begins two places before it. -/
def startsFrom : List UInt8 → (i zeros : Nat) → List Nat
  | [], _, _ => []
  | b :: rest, i, zeros =>
    if b = 0 then startsFrom rest (i + 1) (zeros + 1)
    else if b = 1 ∧ 2 ≤ zeros then (i - 2) :: startsFrom rest (i + 1) 0
    else startsFrom rest (i + 1) 0

/-- The parts of `data` from each of the positions to the next one, and from the last one to the end. -/
def cutAt (data : Bytes) : List Nat → List Bytes
  | [] => []
  | [i] => [data.extract i data.size]
  | i :: j :: rest => data.extract i j :: cutAt data (j :: rest)

/-- The NAL units of a stream, each with its start code. What comes before the first one is left out. -/
def units (data : Bytes) : List Bytes := cutAt data (startsFrom data.toList 0 0)

/-- What follows the start code at the front of a list. -/
def afterStartCode (unit : List UInt8) : List UInt8 :=
  match unit.dropWhile (· == 0) with
  | 1 :: rest => if 2 ≤ (unit.takeWhile (· == 0)).length then rest else unit
  | _ => unit

/-- The unit without its start code. -/
def strip (unit : Bytes) : Bytes := (afterStartCode unit.toList).toArray

/-- The first unit of a type, without its start code. -/
def firstOfType? (type : Nat) (units : List Bytes) : Option Bytes :=
  (units.map strip).find? fun u => (u[0]?).map unitType == some type

/-- The first sequence and the first picture parameter set of a stream, if it has both. -/
def parameterSets (data : Bytes) (g : Geometry) : Option CodecParameters := do
  let sps ← firstOfType? spsType (units data)
  let pps ← firstOfType? ppsType (units data)
  return { width := g.width, height := g.height, sps, pps }

/-! ## Units between start codes -/

/-- Adds the unit in the making to those that are complete, unless it is empty. -/
def close (current : Option (List UInt8)) (done : List Bytes) : List Bytes :=
  match current with
  | some (b :: bs) => (b :: bs).reverse.toArray :: done
  | _ => done

/-- Cuts the bytes at start codes. `current` is the unit in the making, in reverse, and absent before the first
start code; `done` are the complete ones, the last of them first. -/
def split : List UInt8 → (current : Option (List UInt8)) → (done : List Bytes) → List Bytes
  | 0 :: 0 :: 0 :: 1 :: rest, current, done => split rest (some []) (close current done)
  | 0 :: 0 :: 1 :: rest, current, done => split rest (some []) (close current done)
  | b :: rest, current, done => split rest (current.map (b :: ·)) done
  | [], current, done => (close current done).reverse

/-- The NAL units of a stream without their start codes. Where there are none, the stream is taken for a unit. -/
def payloads (data : Bytes) : List Bytes :=
  match split data.toList none [] with
  | [] => [data]
  | found => found

end Camcorder.AnnexB
