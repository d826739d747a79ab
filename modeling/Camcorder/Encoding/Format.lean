import Camcorder.Frame.Geometry
import Camcorder.Picture.Layout

/-!
# Stream formats

What is asked of an encoder is a `StreamRequest`; what a backend is told to allocate is a `StreamFormat`, in which
every choice is made.
-/

namespace Camcorder

/-- The H.264 profile of a stream. -/
inductive Profile where
  | baseline
deriving DecidableEq, Repr

namespace Profile

def name : Profile → String
  | .baseline => "Baseline"

def ofName? (s : String) : Option Profile := [baseline].find? fun p => p.name == s

end Profile

/-- The H.264 level of a stream, which bounds the size of its pictures. -/
inductive Level where
  | level31
  | level40
  | level51
deriving DecidableEq, Repr

namespace Level

def all : List Level := [.level31, .level40, .level51]

def name : Level → String
  | .level31 => "Level31"
  | .level40 => "Level40"
  | .level51 => "Level51"

def ofName? (s : String) : Option Level := all.find? fun l => l.name == s

/-- The number of blocks of 16 × 16 pixels that cover a picture. -/
def macroblocks (g : Geometry) : Nat := (g.width + 15) / 16 * ((g.height + 15) / 16)

/-- The lowest of the three levels that admits pictures of these dimensions; the highest one is also taken for
pictures too large for it. -/
def ofGeometry (g : Geometry) : Level :=
  if macroblocks g ≤ 3600 then .level31
  else if macroblocks g ≤ 8192 then .level40
  else .level51

end Level

/-- How the encoder spends its bits. -/
inductive RateControl where
  | constantBitrate
deriving DecidableEq, Repr

namespace RateControl

def name : RateControl → String
  | .constantBitrate => "ConstantBitrate"

def ofName? (s : String) : Option RateControl := [constantBitrate].find? fun r => r.name == s

end RateControl

/-- What is asked of an encoder. -/
structure StreamRequest where
  width : Nat
  height : Nat
  bitrate : Nat
  frameRate : Nat
  /-- Seconds between key frames. -/
  keyFrameSeconds : Nat
  /-- The layout that the input must have; without one, the first that suits the backend. -/
  layout : Option Layout
deriving DecidableEq, Repr

/-- What a backend needs to know to allocate an encoder. -/
structure StreamFormat where
  width : Nat
  height : Nat
  bitrate : Nat
  frameRate : Nat
  keyFrameSeconds : Nat
  layout : Layout
  profile : Profile := .baseline
  level : Level
  rateControl : RateControl := .constantBitrate
deriving DecidableEq, Repr

namespace StreamFormat

def geometry (f : StreamFormat) : Geometry := { width := f.width, height := f.height }

/-- The bytes of an input picture; `none` if a 64-bit word cannot hold the product it is computed by. -/
def inputLength? (f : StreamFormat) : Option Nat := do
  let area ← word? (f.width * f.height)
  let tripled ← word? (area * 3)
  return tripled / 2

end StreamFormat

end Camcorder
