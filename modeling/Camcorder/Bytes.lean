import Camcorder.Decimal.Text
import Camcorder.Word

/-!
# Byte strings

A byte string is an array of bytes. Every read and write here carries its bounds: what falls outside the
string is `none`, so an index computation that goes astray is visible to whoever called it.

Big-endian fields, the hexadecimal form of a byte and the sweep over a range of positions live here as well.
-/

namespace Camcorder

/-- A string of bytes. -/
abbrev Bytes := Array UInt8

namespace Bytes

/-- The part of `len` bytes that begins at `start`, if all of it exists. -/
def slice? (b : Bytes) (start len : Nat) : Option Bytes :=
  if start + len ≤ b.size then some (b.extract start (start + len)) else none

/-- `b` with the byte at `i` replaced, if there is one. -/
def put? (b : Bytes) (i : Nat) (v : UInt8) : Option Bytes :=
  if h : i < b.size then some (b.set i v) else none

/-- `n` bytes of value `v`. -/
def fill (n : Nat) (v : UInt8) : Bytes := Array.replicate n v

/-- Whether `b` begins with `start`. -/
def startsWith (b start : Bytes) : Bool :=
  start.size ≤ b.size && (b.extract 0 start.size == start)

/-- Writes `front` over the first bytes of `b`; the size of `b` stays. -/
def overwrite (b front : Bytes) : Bytes :=
  front.extract 0 (min front.size b.size) ++ b.extract front.size b.size

/-- Takes `out` through `f 0`, `f 1`, … `f (n - 1)`, and fails as soon as one of them does. -/
def sweep (n : Nat) (f : Nat → Bytes → Option Bytes) (out : Bytes) : Option Bytes :=
  (List.range n).foldlM (fun b i => f i b) out

theorem size_put? {b c : Bytes} {i : Nat} {v : UInt8} (h : b.put? i v = some c) : c.size = b.size := by
  simp only [put?] at h
  split at h
  · cases h; simp
  · cases h

theorem sweep_zero (f : Nat → Bytes → Option Bytes) (out : Bytes) : sweep 0 f out = some out := rfl

theorem sweep_succ (n : Nat) (f : Nat → Bytes → Option Bytes) (out : Bytes) :
    sweep (n + 1) f out = (sweep n f out).bind (f n) := by
  simp only [sweep, List.range_succ, List.foldlM_append, List.foldlM_cons, List.foldlM_nil, bind_pure]
  rfl

/-! ## Fields -/

/-- The last 16 bits of `n`, most significant byte first. -/
def be16 (n : Nat) : Bytes := #[UInt8.ofNat (n / 256), UInt8.ofNat n]

/-- The last 32 bits of `n`, most significant byte first. -/
def be32 (n : Nat) : Bytes :=
  #[UInt8.ofNat (n / 0x1000000), UInt8.ofNat (n / 0x10000), UInt8.ofNat (n / 256), UInt8.ofNat n]

/-- The number written most significant byte first. -/
def toNatBE (b : Bytes) : Nat := b.foldl (fun n v => n * 256 + v.toNat) 0

/-- The 16-bit number at `i`. -/
def readBE16? (b : Bytes) (i : Nat) : Option Nat := (b.slice? i 2).map toNatBE

/-- The 32-bit number at `i`. -/
def readBE32? (b : Bytes) (i : Nat) : Option Nat := (b.slice? i 4).map toNatBE

/-! ## Text -/

/-- The UTF-8 bytes of a text. -/
def ofText (s : String) : Bytes := s.toUTF8.data

/-- The text with these UTF-8 bytes, if they are well formed. -/
def toText? (b : Bytes) : Option String := String.fromUTF8? ⟨b⟩

/-- Two hexadecimal digits for each byte. -/
def hexChars (capital : Bool) (v : UInt8) : List Char :=
  [Decimal.hexDigit capital (v.toNat / 16), Decimal.hexDigit capital (v.toNat % 16)]

/-- The bytes in lower-case hexadecimal digits. -/
def toHex (b : Bytes) : String :=
  String.ofList (b.toList.flatMap (hexChars false))

/-- The bytes in capital hexadecimal digits, with a blank between them. -/
def toSpacedHex (b : Bytes) : String :=
  " ".intercalate (b.toList.map fun v => String.ofList (hexChars true v))

end Bytes

end Camcorder
