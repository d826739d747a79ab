import Camcorder.CommandLine.Failure

/-!
# Dumps of raw frames

A dump is a file of raw frames, one after the other, without anything between them. All have one length, which
follows from their format or, if that is not given, from the size of the file.
-/

namespace Camcorder.CommandLine.Dump

/-- A length that was computed, or the fault of one that no word can hold. -/
def computed : Option Nat → Except CommandFailure Nat
  | some n => .ok n
  | none => .error (.fault .overflow)

/-- Whether a file of `size` bytes is made of frames of `len` bytes, and of one at least. -/
def isMadeOf (size len : Nat) : Bool := 0 < len && len ≤ size && size % len == 0

/-- The length of the frames in a dump of `size` bytes. Without a format the length that divides the size decides,
that of 4:2:2 first. -/
def frameLength (format : Option FrameFormat) (g : Geometry) (size : Nat) : Except CommandFailure Nat :=
  match format with
  | some .semiPlanar420 => computed g.len420?
  | some .packed422 | some .planar422 => computed g.len422?
  | some .compressed => .error .compressedDump
  | none => do
    let long ← computed g.len422?
    let short ← computed g.len420?
    if isMadeOf size long then .ok long
    else if isMadeOf size short then .ok short
    else .error (.unevenDump size g)

/-- Hands the frames of a dump to `take`, in order and with their numbers, from number `next` on. It ends with the
frame that reaches the limit, with the last whole frame, or with the first failure. -/
def feed {σ ε : Type} (dump : Bytes) (len : Nat) (len_pos : 0 < len) (limit : Option Nat)
    (take : Nat → Bytes → σ → Except ε Unit × σ) (next : Nat) (s : σ) : Except ε Unit × σ :=
  if limit.any (· ≤ next) then (.ok (), s)
  else if _h : next * len + len ≤ dump.size then
    match take next (dump.extract (next * len) (next * len + len)) s with
    | (.ok (), s) => feed dump len len_pos limit take (next + 1) s
    | (.error e, s) => (.error e, s)
  else (.ok (), s)
termination_by dump.size - next * len
decreasing_by
  rw [Nat.add_mul, Nat.one_mul]
  omega

end Camcorder.CommandLine.Dump
