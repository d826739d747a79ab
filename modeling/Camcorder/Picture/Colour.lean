import Camcorder.Frame.Geometry

/-!
# Colour pictures

A picture with three bytes for each pixel, and its scaling to other dimensions. The scaled value of a sample is a
weighted mean of the samples near it; the weights fall off linearly with the distance, over one sample when the
picture grows and over as many samples as are merged when it shrinks. Rows are merged first, then columns.
-/

namespace Camcorder

/-- A picture of red, green and blue samples, row by row. -/
structure ColourPicture (g : Geometry) where
  samples : Bytes
  size_samples : samples.size = g.pixels * 3

namespace ColourPicture

/-- The byte nearest to `x`, a half being rounded up. -/
def roundByte (x : Float) : UInt8 := (x + 0.5).toUInt8

/-- The picture with these samples; `f` is given the column, the row and the channel. -/
def ofSamples (g : Geometry) (f : Nat → Nat → Nat → UInt8) : ColourPicture g where
  samples := Array.ofFn (n := g.pixels * 3) fun i =>
    f (i.val / 3 % g.width) (i.val / 3 / g.width) (i.val % 3)
  size_samples := Array.size_ofFn

/-- The sample of a pixel and channel, zero outside the picture. -/
def sample {g : Geometry} (p : ColourPicture g) (x y channel : Nat) : UInt8 :=
  p.samples.getD ((y * g.width + x) * 3 + channel) 0

/-- The least whole number that is not below `x`. -/
def ceilNat (x : Float) : Nat :=
  let whole := x.toUInt64.toNat
  if Float.ofNat whole < x then whole + 1 else whole

/-- The first of the samples that make up sample number `i` of a line that is scaled from `old` to `new` samples,
and their weights, which sum to one. -/
def weights (old new i : Nat) : Nat × List Float :=
  let ratio := Float.ofNat old / Float.ofNat new
  let reach := max 1.0 ratio
  let centre := (Float.ofNat i + 0.5) * ratio
  let first := min (centre - reach).toUInt64.toNat (old - 1)
  let last := max (min (ceilNat (centre + reach)) old) (first + 1)
  let raw := (List.range (last - first)).map fun k =>
    max 0.0 (1.0 - (Float.ofNat (first + k) - (centre - 0.5)).abs / reach)
  let total := raw.foldl (· + ·) 0.0
  (first, raw.map (· / total))

/-- The weighted mean of the samples `f first`, `f (first + 1)`, … -/
def blend (w : Nat × List Float) (f : Nat → Float) : Float :=
  (w.2.zipIdx w.1).foldl (fun sum (weight, i) => sum + f i * weight) 0.0

/-- The picture in other dimensions. -/
def scale {g : Geometry} (p : ColourPicture g) (target : Geometry) : ColourPicture target :=
  let rows := Array.ofFn (n := target.height) fun y => weights g.height target.height y
  let columns := Array.ofFn (n := target.width) fun x => weights g.width target.width x
  let merged := Array.ofFn (n := g.width * target.height * 3) fun i =>
    let x := i.val / 3 % g.width
    blend (rows.getD (i.val / 3 / g.width) (0, [])) fun y => Float.ofNat (p.sample x y (i.val % 3)).toNat
  ofSamples target fun x y channel => roundByte <|
    blend (columns.getD x (0, [])) fun x' => merged.getD ((y * g.width + x') * 3 + channel) 0.0

end ColourPicture

end Camcorder
