import Camcorder.Bytes
import Camcorder.Error
import Camcorder.Frame.Geometry

/-!
# Formats of captured frames

A camera hands over frames in one of four formats. `classify` recognises the format of a buffer from its length
and its content, `classifyAs` trusts what the camera says as long as the length agrees.
-/

namespace Camcorder

/-- The pixel format of a captured frame. -/
inductive FrameFormat where
  /-- 4:2:0 with interleaved chroma: a luma plane, then U and V samples in turn. -/
  | semiPlanar420
  /-- 4:2:2 with the samples Y U Y V of each pair of pixels together. -/
  | packed422
  /-- 4:2:2 in three planes: luma, then U and V of half the width. -/
  | planar422
  /-- A JPEG image. -/
  | compressed
deriving DecidableEq, Repr

namespace FrameFormat

def all : List FrameFormat := [.semiPlanar420, .packed422, .planar422, .compressed]

/-- The four- or five-letter name under which cameras offer the format. -/
def label : FrameFormat → String
  | .semiPlanar420 => "NV12"
  | .packed422 => "YUYV"
  | .planar422 => "I422"
  | .compressed => "MJPEG"

/-- The name under which reports know the format. -/
def name : FrameFormat → String
  | .semiPlanar420 => "SemiPlanar420"
  | .packed422 => "Packed422"
  | .planar422 => "Planar422"
  | .compressed => "Compressed"

def ofName? (s : String) : Option FrameFormat := all.find? fun f => f.name == s

theorem ofName?_name (f : FrameFormat) : ofName? f.name = some f := by
  cases f <;> rfl

/-- The two bytes with which every JPEG image begins. -/
def startOfImage : Bytes := #[0xFF, 0xD8]

/-- Whether a buffer of `len` bytes can be a frame of this format. -/
def acceptsLength (f : FrameFormat) (len : Nat) (g : Geometry) : Attempt Bool :=
  match f with
  | .semiPlanar420 => do return len == (← Attempt.ofOption .overflow g.len420?)
  | .packed422 | .planar422 => do return len == (← Attempt.ofOption .overflow g.len422?)
  | .compressed => .ok (startOfImage.size ≤ len)

/-! ## Recognition -/

/-- How many bytes of a 4:2:2 frame are looked at: a row of the widest frame. -/
def probeLength : Nat := 3840

/-- The sum of the bytes, as counted in double precision, divided by their number; zero if there are none. -/
def average (bytes : List UInt8) : Float :=
  if bytes.isEmpty then 0.0
  else Float.ofNat (total (bytes.map UInt8.toNat)) / Float.ofNat bytes.length

/-- The elements at even positions, and those at odd positions. -/
def alternate {α : Type} : List α → List α × List α
  | [] => ([], [])
  | a :: l => let (evens, odds) := alternate l; (a :: odds, evens)

/-- The averages of the bytes at even and at odd positions of the probed part. -/
def scanlineAverages (data : Bytes) : Float × Float :=
  let (evens, odds) := alternate (data.extract 0 probeLength).toList
  (average evens, average odds)

/-- Whether the odd bytes look like chroma samples. In a packed frame they do: chroma stays near 128 while luma
spans the whole range, so the two averages lie apart. A planar frame begins with nothing but luma. -/
def looksPacked (data : Bytes) : Bool :=
  let (even, odd) := scanlineAverages data
  (even - odd).abs ≥ 5.0

/-- The format of a buffer, if it is that of a frame. -/
def classify (data : Bytes) (g : Geometry) : Attempt (Option FrameFormat) := do
  if data.isEmpty then return none
  if data.size == (← Attempt.ofOption .overflow g.len420?) then return some .semiPlanar420
  if data.size == (← Attempt.ofOption .overflow g.len422?) then
    return some (if looksPacked data then .packed422 else .planar422)
  if Bytes.startsWith data startOfImage then return some .compressed
  return none

/-- The format of a buffer that the camera says is of format `hint`: that one if the length agrees, and what
`classify` finds otherwise. -/
def classifyAs (data : Bytes) (g : Geometry) (hint : Option FrameFormat) : Attempt (Option FrameFormat) := do
  match hint with
  | some f => if ← f.acceptsLength data.size g then return some f else classify data g
  | none => classify data g

end FrameFormat

end Camcorder
