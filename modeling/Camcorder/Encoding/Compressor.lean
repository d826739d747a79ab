import Camcorder.AnnexB
import Camcorder.Encoding.Format

/-!
# Compressors

The compression of a single picture is taken as given: a `Compressor` turns planes into an access unit, or into
none. `Cadence` is a compressor that keeps the order of key pictures and other ones, and writes units without
picture data.
-/

namespace Camcorder

/-- The three planes of a 4:2:0 picture. -/
structure Planes where
  y : Bytes
  u : Bytes
  v : Bytes
deriving DecidableEq, Repr

namespace Planes

/-- The bytes at even positions and those at odd positions. -/
def deinterleave (b : Bytes) : Bytes × Bytes :=
  (Array.ofFn (n := b.size / 2) fun i => b.getD (2 * i.val) 0,
    Array.ofFn (n := b.size / 2) fun i => b.getD (2 * i.val + 1) 0)

/-- The planes of a picture of `width` × `height` in a layout, if the bytes suffice. -/
def ofPicture? (layout : Layout) (width height : Nat) (data : Bytes) : Option Planes := do
  let luma := width * height
  let chroma := width / 2 * (height / 2)
  let y ← Bytes.slice? data 0 luma
  match layout with
  | .planar => return { y, u := ← Bytes.slice? data luma chroma, v := ← Bytes.slice? data (luma + chroma) chroma }
  | .semiPlanar =>
    let (u, v) := deinterleave (← Bytes.slice? data luma (2 * chroma))
    return { y, u, v }

end Planes

/-- What a compressor made of a picture. -/
inductive PictureKind where
  /-- A key picture that starts a sequence anew. -/
  | idr
  /-- A key picture within a sequence. -/
  | intra
  | predicted
  /-- A picture of which only some parts are predicted. -/
  | mixed
  | skipped
  | invalid
deriving DecidableEq, Repr

namespace PictureKind

/-- Whether decoding can begin at the picture. -/
def isKey : PictureKind → Bool
  | .idr | .intra => true
  | _ => false

/-- Whether there is no picture at all. -/
def isAbsent : PictureKind → Bool
  | .skipped | .invalid => true
  | _ => false

end PictureKind

/-- A picture as an encoder hands it out. -/
structure AccessUnit where
  kind : PictureKind
  data : Bytes
deriving DecidableEq, Repr

/-- Compresses one picture after the other. -/
class Compressor (ε : Type) where
  /-- A compressor for a stream with a key picture every `period` pictures, or why there is none. -/
  create : StreamFormat → (period : Nat) → Except String ε
  /-- Compresses a picture; `none` if that fails. -/
  encode : ε → Planes → Option AccessUnit × ε

/-- A compressor that counts pictures. -/
structure Cadence where
  /-- The distance of key pictures. -/
  period : Nat
  /-- The pictures so far. -/
  count : Nat := 0
deriving DecidableEq, Repr

namespace Cadence

/-- The parameter sets that the first unit carries. -/
def parameterUnits : Bytes :=
  AnnexB.startCode ++ #[0x67, 0x42, 0xC0, 0x1F] ++ AnnexB.startCode ++ #[0x68, 0xCE, 0x3C, 0x80]

/-- The unit for the next picture. -/
def next (c : Cadence) : AccessUnit :=
  let slice (header : UInt8) : Bytes := AnnexB.startCode ++ #[header, 0x80]
  if c.count % c.period = 0 then
    { kind := .idr, data := (if c.count = 0 then parameterUnits else #[]) ++ slice 0x65 }
  else { kind := .predicted, data := slice 0x41 }

instance : Compressor Cadence where
  create _ period := .ok { period }
  encode c _ := (some c.next, { c with count := c.count + 1 })

end Cadence

end Camcorder
