import Camcorder.Frame.Pattern
import Camcorder.Jpeg.Image

/-!
# Images of flat blocks

Writes JPEG images in which every block has one colour. A block then has no coefficients but its mean, a quantizer
of 8 makes the mean the sample itself, and two small codes suffice: twelve words of four bits for the sizes of the
differences, and a single word for the end of a block.
-/

namespace Camcorder.Jpeg.Flat

/-- The code of the sizes of differences. -/
def sizes : Code where
  counts := [0, 0, 0, 12] ++ List.replicate 12 0
  symbols := Array.ofFn (n := 12) fun i => UInt8.ofNat i.val

/-- The code with which blocks end. -/
def ends : Code where
  counts := 1 :: List.replicate 15 0
  symbols := #[0]

/-- `n` in `size` bits, the most significant first. -/
def natBits (size n : Nat) : List Bool :=
  (List.range size).map fun i => n.testBit (size - 1 - i)

/-- The number of bits of a magnitude. -/
def bitLength (n : Nat) : Nat := if n = 0 then 0 else n.log2 + 1

/-- The bits of a block whose mean differs by `difference` from that of the block before. -/
def blockBits (difference : Int) : List Bool :=
  let size := bitLength difference.natAbs
  let value := if difference < 0 then (Nat.pow 2 size - 1 : Nat) - difference.natAbs else difference.natAbs
  natBits 4 size ++ natBits size value ++ [false]

/-- The bytes with these bits, the last one filled up with ones, and a zero after every `FF`. -/
def packBits : List Bool → Bytes → Bytes
  | a :: b :: c :: d :: e :: f :: g :: h :: rest, out =>
    packBits rest (push out [a, b, c, d, e, f, g, h])
  | [], out => out
  | last, out => push out (last ++ List.replicate (8 - last.length) true)
where
  push (out : Bytes) (bits : List Bool) : Bytes :=
    let v := UInt8.ofNat (bits.foldl (fun n bit => 2 * n + bit.toNat) 0)
    if v == 0xFF then (out.push v).push 0 else out.push v

/-- A segment: its marker, its length and its body. -/
def segment (marker : UInt8) (body : Bytes) : Bytes :=
  #[0xFF, marker] ++ Bytes.be16 (body.size + 2) ++ body

/-- The body of a segment that defines one code. -/
def codeBody (kind : UInt8) (c : Code) : Bytes :=
  #[kind] ++ (c.counts.map UInt8.ofNat).toArray ++ c.symbols

/-- The image of `g` in which the blocks have the values that `mean` gives for the component, the column and the
row; there are three components. -/
def encode (g : Geometry) (mean : Nat → Nat → Nat → UInt8) : Bytes :=
  let across := Image.ceilDiv g.width 8
  let value (component block : Nat) : Int :=
    (mean component (block % across) (block / across)).toNat - 128
  let difference (component block : Nat) : Int :=
    value component block - (if block = 0 then 0 else value component (block - 1))
  let blocks := across * Image.ceilDiv g.height 8
  let bits := (List.range blocks).flatMap fun block =>
    blockBits (difference 0 block) ++ blockBits (difference 1 block) ++ blockBits (difference 2 block)
  #[0xFF, 0xD8] ++
    segment 0xDB (#[0, 8] ++ Bytes.fill 63 1) ++
    segment 0xC0 (#[8] ++ Bytes.be16 g.height ++ Bytes.be16 g.width ++
      #[3, 1, 0x11, 0, 2, 0x11, 0, 3, 0x11, 0]) ++
    segment 0xC4 (codeBody 0x00 sizes) ++
    segment 0xC4 (codeBody 0x10 ends) ++
    segment 0xDA #[3, 1, 0, 2, 0, 3, 0, 0, 63, 0] ++
    packBits bits #[] ++
    #[0xFF, 0xD9]

end Camcorder.Jpeg.Flat

namespace Camcorder.Pattern

/-- The frame as a JPEG image. -/
def compressed (n : Nat) (g : Geometry) : Bytes :=
  Jpeg.Flat.encode g fun component column row =>
    match component with
    | 0 => luma n (8 * column) (8 * row)
    | 1 => blue n
    | _ => red n

end Camcorder.Pattern
