import Camcorder.Frame.Geometry

/-!
# Test patterns

Frames of a moving diagonal gradient, shaped like what a camera sends: luma spreads over its range while chroma
stays near its middle. The number of a frame shifts the picture, so that no two neighbours are equal.
-/

namespace Camcorder.Pattern

/-- The luma of pixel (`x`, `y`) in frame `n`. -/
def luma (n x y : Nat) : UInt8 := UInt8.ofNat (16 + (x + y + n) % 64)

/-- The U value of frame `n`. -/
def blue (n : Nat) : UInt8 := UInt8.ofNat (128 + n % 8)

/-- The V value of frame `n`. -/
def red (n : Nat) : UInt8 := UInt8.ofNat (128 - n % 8)

/-- The frame in packed 4:2:2: luma samples at the even places, and U and V in turn at the odd ones. -/
def packed422 (n : Nat) (g : Geometry) : Bytes :=
  Array.ofFn (n := g.pixels * 2) fun i =>
    let pixel := i.val / 2
    let x := pixel % g.width
    if i.val % 2 == 0 then luma n x (pixel / g.width)
    else if x % 2 == 0 then blue n else red n

/-- The frame in planar 4:2:2. Two neighbours in a row have the same luma. What is left over with an odd width is
neutral. -/
def planar422 (n : Nat) (g : Geometry) : Bytes :=
  let chroma := g.width / 2 * g.height
  Array.ofFn (n := g.pixels * 2) fun i =>
    if i.val < g.pixels then luma n (i.val % g.width / 2) (i.val / g.width)
    else if i.val < g.pixels + chroma then blue n
    else if i.val < g.pixels + 2 * chroma then red n
    else 128

/-- The frame in semi-planar 4:2:0. -/
def semiPlanar420 (n : Nat) (g : Geometry) : Bytes :=
  Array.ofFn (n := g.pixels * 3 / 2) fun i =>
    if i.val < g.pixels then luma n (i.val % g.width) (i.val / g.width)
    else if (i.val - g.pixels) % 2 == 0 then blue n else red n

end Camcorder.Pattern
