import Camcorder.Bytes
import Camcorder.Picture.Layout

/-!
# Filling 4:2:0 pictures

A 4:2:0 picture of `w` × `h` pixels is a luma plane of `w * h` samples followed by the samples of a grid of
chroma cells, `w / 2` wide and `h / 2` high, in one of two layouts. With odd dimensions some bytes are left over
at the end; they hold neutral chroma.

Each conversion takes the luma samples and the chroma cells from its own kind of source and writes them into a
given buffer; it fails when an access falls outside the source or the buffer. Those from captured formats go through
`fillLuma`, `fillChroma` and `padTail`, so that what they write differs in the samples only. A picture of red, green and
blue samples is taken pixel by pixel, each with all that is computed from it.
-/

namespace Camcorder

/-- The chroma value of grey. -/
def neutralChroma : UInt8 := 128

/-- The dimensions and the layout of a 4:2:0 picture. -/
structure PlaneMap where
  width : Nat
  height : Nat
  layout : Layout
deriving DecidableEq, Repr

namespace PlaneMap

/-- The number of luma samples. -/
def lumaSize (p : PlaneMap) : Nat := p.width * p.height

/-- Chroma cells in a row. -/
def chromaWidth (p : PlaneMap) : Nat := p.width / 2

/-- Rows of chroma cells. -/
def chromaHeight (p : PlaneMap) : Nat := p.height / 2

/-- The number of chroma cells. -/
def cells (p : PlaneMap) : Nat := p.chromaWidth * p.chromaHeight

/-- Where the samples end and the padding begins. -/
def sampleEnd (p : PlaneMap) : Nat := p.lumaSize + 2 * p.cells

/-- The place of the luma sample of pixel (`x`, `y`). -/
def lumaIndex (p : PlaneMap) (x y : Nat) : Nat := y * p.width + x

/-- The place of the U sample of the cell with number `k`, counted along the rows. -/
def uIndex (p : PlaneMap) (k : Nat) : Nat :=
  match p.layout with
  | .semiPlanar => p.lumaSize + 2 * k
  | .planar => p.lumaSize + k

/-- The place of the V sample of the cell with number `k`. -/
def vIndex (p : PlaneMap) (k : Nat) : Nat :=
  match p.layout with
  | .semiPlanar => p.lumaSize + 2 * k + 1
  | .planar => p.lumaSize + p.cells + k

/-- Writes both samples of the cell at (`row`, `col`). -/
def putCell (p : PlaneMap) (row col : Nat) (u v : UInt8) (out : Bytes) : Option Bytes := do
  let k := row * p.chromaWidth + col
  let out ← Bytes.put? out (p.uIndex k) u
  Bytes.put? out (p.vIndex k) v

/-- Writes the luma samples, row by row. -/
def fillLuma (p : PlaneMap) (sample : Nat → Nat → Option UInt8) (out : Bytes) : Option Bytes :=
  Bytes.sweep p.height (fun y => Bytes.sweep p.width fun x out => do
    Bytes.put? out (p.lumaIndex x y) (← sample x y)) out

/-- Writes the chroma cells, row by row. -/
def fillChroma (p : PlaneMap) (cell : Nat → Nat → Option (UInt8 × UInt8)) (out : Bytes) : Option Bytes :=
  Bytes.sweep p.chromaHeight (fun row => Bytes.sweep p.chromaWidth fun col out => do
    let (u, v) ← cell row col
    p.putCell row col u v out) out

/-- Fills what follows the chroma samples with neutral chroma. -/
def padTail (p : PlaneMap) (out : Bytes) : Bytes :=
  out.extract 0 p.sampleEnd ++ Bytes.fill (out.size - p.sampleEnd) neutralChroma

/-! ## From captured formats -/

/-- A byte of a row of the source; the row as a whole has to exist. -/
def rowByte? (src : Bytes) (stride row i : Nat) : Option UInt8 :=
  if row * stride + stride ≤ src.size then src[row * stride + i]? else none

/-- From packed 4:2:2. The luma sample of a pixel is the first byte of its pair; a pair of pixels shares the
second bytes as its U and V. Chroma comes from the even rows. -/
def ofPacked422 (p : PlaneMap) (src out : Bytes) : Option Bytes := do
  let stride := p.width * 2
  guard (p.lumaSize ≤ out.size)
  let out ← p.fillLuma (fun x y => rowByte? src stride y (2 * x)) out
  let out ← p.fillChroma (fun row col => do
    return (← rowByte? src stride (2 * row) (4 * col + 1), ← rowByte? src stride (2 * row) (4 * col + 3))) out
  return p.padTail out

/-- From planar 4:2:2. The luma plane is taken as it is, and of the chroma planes the even rows. -/
def ofPlanar422 (p : PlaneMap) (src out : Bytes) : Option Bytes := do
  let plane := p.chromaWidth * p.height
  guard (p.lumaSize ≤ out.size)
  let out ← p.fillLuma (fun x y => src[p.lumaIndex x y]?) out
  let us ← Bytes.slice? src p.lumaSize plane
  let vs ← Bytes.slice? src (p.lumaSize + plane) plane
  let out ← p.fillChroma (fun row col => do
    let i := 2 * row * p.chromaWidth + col
    return (← us[i]?, ← vs[i]?)) out
  return p.padTail out

/-- From semi-planar 4:2:0 to the planar layout: the U and V samples are told apart. -/
def ofSemiPlanar420 (width height : Nat) (src out : Bytes) : Option Bytes := do
  let p : PlaneMap := { width, height, layout := .planar }
  guard (p.lumaSize ≤ out.size)
  let out ← p.fillLuma (fun x y => src[p.lumaIndex x y]?) out
  let out ← p.fillChroma (fun row col => do
    let i := p.lumaSize + 2 * (row * p.chromaWidth + col)
    return (← src[i]?, ← src[i + 1]?)) out
  return p.padTail out

/-! ## From red, green and blue -/

/-- A number between 0 and 255, the nearest to `n`. -/
def clampByte (n : Int) : UInt8 := UInt8.ofNat (min (max n 0) 255).toNat

/-- The BT.601 luma of a colour, in 8-bit fixed point. -/
def luma (r g b : Int) : Int := (66 * r + 129 * g + 25 * b + 128) / 256 + 16

/-- The BT.601 blue difference of a colour, in 8-bit fixed point. -/
def blueDifference (r g b : Int) : Int := (-38 * r - 74 * g + 112 * b + 128) / 256 + 128

/-- The BT.601 red difference of a colour, in 8-bit fixed point. -/
def redDifference (r g b : Int) : Int := (112 * r - 94 * g - 18 * b + 128) / 256 + 128

/-- The colour of pixel (`x`, `y`) of a picture of three bytes for each pixel. -/
def colour? (p : PlaneMap) (rgb : Bytes) (x y : Nat) : Option (Int × Int × Int) := do
  let i := p.lumaIndex x y * 3
  return ((← rgb[i]?).toNat, (← rgb[i + 1]?).toNat, (← rgb[i + 2]?).toNat)

/-- Writes the luma sample of pixel (`x`, `y`), and the chroma cell whose top left pixel it is. The last column and
the last row of odd dimensions belong to no cell. -/
def putPixel (p : PlaneMap) (rgb : Bytes) (x y : Nat) (out : Bytes) : Option Bytes := do
  let (r, g, b) ← p.colour? rgb x y
  let out ← Bytes.put? out (p.lumaIndex x y) (clampByte (luma r g b))
  if y % 2 = 0 ∧ x % 2 = 0 ∧ y / 2 < p.chromaHeight ∧ x / 2 < p.chromaWidth then
    p.putCell (y / 2) (x / 2) (clampByte (blueDifference r g b)) (clampByte (redDifference r g b)) out
  else return out

/-- From three bytes for each pixel, one pixel after the other. The chroma of a cell is that of its top left pixel. -/
def ofRgb (p : PlaneMap) (rgb out : Bytes) : Option Bytes := do
  let out ← Bytes.sweep p.height (fun y => Bytes.sweep p.width fun x => p.putPixel rgb x y) out
  return p.padTail out

end PlaneMap

end Camcorder
