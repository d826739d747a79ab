import Camcorder.Jpeg.Block
import Camcorder.Jpeg.Header
import Camcorder.Picture.Colour

/-!
# JPEG images

The scan of a baseline image is a sequence of units, each holding some blocks of every component. `Image.read`
reads all blocks; the sample of a component at a pixel is then looked up in the block that covers it.
-/

namespace Camcorder.Jpeg

/-! ## Scan data -/

/-- Scan data on its way through `cut`: the parts that are complete and the part in the making, all of them in
reverse, whether the last byte was the first of an escape, and whether the scan has ended. -/
structure Cut where
  parts : List (List UInt8) := []
  current : List UInt8 := []
  escaped : Bool := false
  ended : Bool := false

/-- Takes one byte. After `FF`, a zero stands for `FF` itself, a restart marker ends a part and any other marker
ends the scan. -/
def Cut.step (c : Cut) (b : UInt8) : Cut :=
  if c.ended then c
  else if c.escaped then
    if b == 0 then { c with current := 0xFF :: c.current, escaped := false }
    else if b == 0xFF then c
    else if 0xD0 ≤ b && b ≤ 0xD7 then { parts := c.current :: c.parts }
    else { c with ended := true }
  else if b == 0xFF then { c with escaped := true }
  else { c with current := b :: c.current }

/-- The parts of the scan data that begins at `start`, as bits. -/
def scanParts (data : Bytes) (start : Nat) : List (List Bool) :=
  let c := (data.extract start data.size).foldl Cut.step {}
  ((c.current :: c.parts).reverse).map fun part => part.reverse.flatMap bitsOf

/-! ## Units -/

/-- A component with all that is needed to read its blocks. -/
structure Channel where
  across : Nat
  down : Nat
  quantizer : Array Nat
  dc : Code
  ac : Code

/-- How far reading has come: the mean of the last block of each channel, the bits ahead, and the blocks. -/
structure Progress where
  means : Array Int
  bits : List Bool
  blocks : Array Bytes

/-- Reads a block of channel number `i`. -/
def Progress.readBlock? (s : Progress) (i : Nat) (c : Channel) : Option Progress := do
  let (block, mean, bits) ← Jpeg.readBlock? c.dc c.ac c.quantizer (s.means.getD i 0) s.bits
  return { means := s.means.setIfInBounds i mean, bits, blocks := s.blocks.push block.samples }

/-- Takes `s` through `f` as often as `n` says. -/
def iterate? {α : Type} (f : α → Option α) : Nat → α → Option α
  | 0, s => some s
  | n + 1, s => (f s).bind (iterate? f n)

/-- Reads a unit: of each channel in turn, its blocks. -/
def Progress.readUnit? (channels : List Channel) (s : Progress) : Option Progress :=
  channels.zipIdx.foldlM (fun s (c, i) => iterate? (·.readBlock? i c) (c.across * c.down) s) s

/-- Reads the parts of a scan; `units` are to come, at most `limit` in each part. Each part begins with means of
zero. -/
def readParts? (channels : List Channel) (limit : Nat) :
    List (List Bool) → (units : Nat) → (blocks : Array Bytes) → Option (Array Bytes)
  | _, 0, blocks => some blocks
  | [], _ + 1, _ => none
  | bits :: parts, units + 1, blocks => do
    let n := min limit (units + 1)
    let start : Progress := { means := Array.replicate channels.length 0, bits, blocks }
    let done ← iterate? (Progress.readUnit? channels) n start
    readParts? channels limit parts (units + 1 - n) done.blocks

/-! ## Images -/

/-- A decoded image: its dimensions, its channels and their blocks in the order of the scan. -/
structure Image where
  geometry : Geometry
  channels : List Channel
  blocks : Array Bytes

namespace Image

/-- `n / d`, rounded up. -/
def ceilDiv (n d : Nat) : Nat := (n + d - 1) / d

/-- The most blocks that a channel has in a unit, in each direction. -/
def span (channels : List Channel) : Nat × Nat :=
  channels.foldl (fun (a, d) c => (max a c.across, max d c.down)) (1, 1)

/-- How many units stand side by side. -/
def unitsAcross (g : Geometry) (channels : List Channel) : Nat :=
  ceilDiv g.width (8 * (span channels).1)

/-- The number of units of an image. -/
def units (g : Geometry) (channels : List Channel) : Nat :=
  unitsAcross g channels * ceilDiv g.height (8 * (span channels).2)

/-- The channels that the segments define. A single component has one block in each unit. -/
def channels? (h : Header) : Option (List Channel) :=
  h.components.mapM fun c => do
    let choice ← h.scan.find? (·.id == c.id)
    return {
      across := if h.components.length == 1 then 1 else c.across
      down := if h.components.length == 1 then 1 else c.down
      quantizer := ← h.quantizers.lookup c.quantizer
      dc := ← h.dcCodes.lookup choice.dc
      ac := ← h.acCodes.lookup choice.ac }

/-- Reads an image of one or three components. -/
def read (data : Bytes) : Except DecodeCause Image := do
  let (h, start) ← Header.read data
  let geometry : Geometry := { width := h.width, height := h.height }
  if h.components.length != 1 && h.components.length != 3 then throw .inconsistent
  if geometry.pixels == 0 || h.scan.length != h.components.length then throw .inconsistent
  match channels? h with
  | none => throw .inconsistent
  | some channels =>
    let units := units geometry channels
    let limit := if h.restartInterval == 0 then units else h.restartInterval
    match readParts? channels limit (scanParts data start) units #[] with
    | none => throw .cutShort
    | some blocks => return { geometry, channels, blocks }

/-- The sample of channel number `i` that covers pixel (`x`, `y`). -/
def sample (image : Image) (i x y : Nat) : UInt8 :=
  match image.channels[i]? with
  | none => 0
  | some c =>
    let (a, d) := span image.channels
    let x := x * c.across / a
    let y := y * c.down / d
    let perUnit := total (image.channels.map fun c => c.across * c.down)
    let before := total ((image.channels.take i).map fun c => c.across * c.down)
    let unit := y / (8 * c.down) * unitsAcross image.geometry image.channels + x / (8 * c.across)
    let block := unit * perUnit + before + y / 8 % c.down * c.across + x / 8 % c.across
    (image.blocks.getD block #[]).getD (y % 8 * 8 + x % 8) 0

/-- A channel of the colour with the given luma, blue and red difference. -/
def colourByte (luma blue red : UInt8) (channel : Nat) : UInt8 :=
  let y := Float.ofNat luma.toNat
  let cb := Float.ofNat blue.toNat - 128.0
  let cr := Float.ofNat red.toNat - 128.0
  ColourPicture.roundByte <| match channel with
    | 0 => y + 1.402 * cr
    | 1 => y - 0.344136 * cb - 0.714136 * cr
    | _ => y + 1.772 * cb

/-- The picture of an image. One component alone is a picture in grey. -/
def picture (image : Image) : ColourPicture image.geometry :=
  if image.channels.length == 1 then .ofSamples _ fun x y _ => image.sample 0 x y
  else .ofSamples _ fun x y channel =>
    colourByte (image.sample 0 x y) (image.sample 1 x y) (image.sample 2 x y) channel

end Image

/-- The picture of a JPEG image, scaled if it has not the dimensions asked for. -/
def decode (g : Geometry) (data : Bytes) : Except DecodeCause (ColourPicture g) := do
  let image ← Image.read data
  if h : image.geometry = g then return h ▸ image.picture
  else return image.picture.scale g

end Camcorder.Jpeg
