import Mathlib
import Camcorder.Proofs.Picture.Contents

/-!
# Conversions, place by place

A conversion comes to an end exactly when the source is as large as its extent and the buffer has room for the picture
(`Converter.isSome_fill_iff`). The samples of the captured formats stand in a frame as they are; where each of them goes
is `Sampling.samples_in_place`, for pictures of all dimensions, odd ones and zero included.
-/

namespace Camcorder

theorem Bytes.slice?_inv {b part : Bytes} {start len : Nat} (sliced : b.slice? start len = some part) :
    start + len ≤ b.size ∧ ∀ i, i < len → part[i]? = b[start + i]? := by
  unfold slice? at sliced
  split at sliced
  · rename_i fits
    cases sliced
    refine ⟨fits, ?_⟩
    intro i inside
    rw [Array.getElem?_extract, if_pos (by omega)]
  · cases sliced

/-- The last row and the last column of a grid that is not empty. -/
theorem last_of_grid {width height : Nat} (some' : 0 < width * height) :
    width - 1 < width ∧ height - 1 < height ∧ (height - 1) * width + (width - 1) + 1 = width * height := by
  have wide : 0 < width := Nat.pos_of_mul_pos_right some'
  have high : 0 < height := Nat.pos_of_mul_pos_left some'
  refine ⟨by omega, by omega, ?_⟩
  obtain ⟨n, rfl⟩ := Nat.exists_eq_add_of_le' high
  rw [Nat.add_sub_cancel, Nat.mul_add, Nat.mul_one, Nat.mul_comm n width]
  omega

namespace PlaneMap

variable {p : PlaneMap}

/-- A byte that is read of a row is in the row, and the row in the source. -/
theorem rowByte?_eq_some {src : Bytes} {stride row i : Nat} {v : UInt8} (read : rowByte? src stride row i = some v) :
    row * stride + stride ≤ src.size ∧ src[row * stride + i]? = some v := by
  unfold rowByte? at read
  split at read
  · rename_i whole
    exact ⟨whole, read⟩
  · cases read

/-- The three bytes of the colour of a pixel. -/
theorem colour?_eq_some {rgb : Bytes} {x y : Nat} {c : Int × Int × Int} (read : p.colour? rgb x y = some c) :
    ∃ r g b : UInt8, rgb[p.lumaIndex x y * 3]? = some r ∧ rgb[p.lumaIndex x y * 3 + 1]? = some g ∧
      rgb[p.lumaIndex x y * 3 + 2]? = some b ∧ c = ((r.toNat : Int), (g.toNat : Int), (b.toNat : Int)) := by
  obtain ⟨r, red, rest⟩ := Option.bind_eq_some_iff.mp read
  obtain ⟨g, green, rest⟩ := Option.bind_eq_some_iff.mp rest
  obtain ⟨b, blue, last⟩ := Option.bind_eq_some_iff.mp rest
  cases last
  exact ⟨r, g, b, red, green, blue, rfl⟩

end PlaneMap

namespace Converter

variable {g : Geometry} {layout : Layout} {out out' : Bytes}

/-- The last byte of a semi-planar frame belongs to a sample, so a frame of which all samples are read has them all. -/
theorem sampleEnd_le_of_read {data : Bytes}
    (luma : ∀ x y, x < g.width → y < g.height → ∃ v, Source.luma g (.semiPlanar420 data) x y = some v)
    (chroma : ∀ row col, row < g.height / 2 → col < g.width / 2 →
      ∃ c, Source.chroma g (.semiPlanar420 data) row col = some c) :
    (pictureMap g .semiPlanar).sampleEnd ≤ data.size := by
  have shows : (pictureMap g .semiPlanar).Shows (Source.luma g (.semiPlanar420 data))
      (Source.chroma g (.semiPlanar420 data)) data := by
    constructor
    · intro x y hx hy
      obtain ⟨v, read⟩ := luma x y hx hy
      exact ⟨v, read, read⟩
    · intro row col hr hc
      obtain ⟨c, read⟩ := chroma row col hr hc
      obtain ⟨u, first, rest⟩ := Option.bind_eq_some_iff.mp read
      obtain ⟨v, second, last⟩ := Option.bind_eq_some_iff.mp rest
      cases last
      exact ⟨u, v, read, first, second⟩
  exact shows.sampleEnd_le

/-- A source that a buffer was filled from has all that a picture takes up. -/
theorem extent_le_of_fill {source : Source} (filled : fill g layout source out = some out') :
    source.extent g ≤ source.data.size := by
  obtain ⟨_, _, shows, _⟩ := fill_shows filled
  cases source with
  | semiPlanar420 data =>
    refine sampleEnd_le_of_read (fun x y hx hy => ?_) (fun row col hr hc => ?_)
    · obtain ⟨v, read, _⟩ := shows.luma x y hx hy
      exact ⟨v, read⟩
    · obtain ⟨u, v, read, _⟩ := shows.chroma row col hr hc
      exact ⟨(u, v), read⟩
  | packed422 data =>
    change g.width * g.height * 2 ≤ data.size
    rcases Nat.eq_zero_or_pos (g.width * g.height) with none | some'
    · omega
    · -- The last row was read, which exists as a whole only if all rows do.
      obtain ⟨hx, hy, last⟩ := last_of_grid some'
      obtain ⟨v, read, _⟩ := shows.luma _ _ hx hy
      obtain ⟨whole, _⟩ := PlaneMap.rowByte?_eq_some read
      have rows : (g.height - 1) * (g.width * 2) + g.width * 2 = g.width * g.height * 2 := by
        rw [← last, ← Nat.mul_assoc]
        omega
      omega
  | planar422 data =>
    -- Both chroma planes are taken out of the frame as a whole.
    obtain ⟨_, _, steps⟩ := Option.bind_eq_some_iff.mp filled
    obtain ⟨_, _, steps⟩ := Option.bind_eq_some_iff.mp steps
    obtain ⟨_, _, steps⟩ := Option.bind_eq_some_iff.mp steps
    obtain ⟨_, sliced, _⟩ := Option.bind_eq_some_iff.mp steps
    obtain ⟨fits, _⟩ := Bytes.slice?_inv sliced
    have fits : g.pixels + g.width / 2 * g.height + g.width / 2 * g.height ≤ data.size := fits
    change g.pixels + 2 * (g.width / 2 * g.height) ≤ data.size
    omega
  | rgb data =>
    change g.width * g.height * 3 ≤ data.size
    rcases Nat.eq_zero_or_pos (g.width * g.height) with none | some'
    · omega
    · obtain ⟨hx, hy, last⟩ := last_of_grid some'
      obtain ⟨v, read, _⟩ := shows.luma _ _ hx hy
      obtain ⟨c, colour, _⟩ := Option.bind_eq_some_iff.mp read
      obtain ⟨_, _, _, _, _, blue, _⟩ := PlaneMap.colour?_eq_some colour
      obtain ⟨inside, _⟩ := Array.getElem?_eq_some_iff.mp blue
      have inside : ((g.height - 1) * g.width + (g.width - 1)) * 3 + 2 < data.size := inside
      omega

/-- When a buffer can be filled: exactly when the source is large enough and there is room for the picture. -/
theorem isSome_fill_iff (g : Geometry) (layout : Layout) (source : Source) (out : Bytes) :
    (fill g layout source out).isSome = true ↔
      source.extent g ≤ source.data.size ∧ (pictureMap g layout).sampleEnd ≤ out.size := by
  constructor
  · intro done
    obtain ⟨out', filled⟩ := Option.isSome_iff_exists.mp done
    obtain ⟨room, _⟩ := fill_shows filled
    exact ⟨extent_le_of_fill filled, room⟩
  · rintro ⟨enough, room⟩
    obtain ⟨out', filled, _⟩ := fill_some_of_extent layout enough room
    rw [filled]
    rfl

end Converter

/-! ## Captured formats -/

/-- The captured formats whose samples stand in a frame as they are. -/
inductive Sampling where
  | packed422
  | planar422
  | semiPlanar420
deriving DecidableEq, Repr

namespace Sampling

/-- The samples of a frame of the format. -/
def source (f : Sampling) (frame : Bytes) : Converter.Source :=
  match f with
  | .packed422 => .packed422 frame
  | .planar422 => .planar422 frame
  | .semiPlanar420 => .semiPlanar420 frame

/-- Converts a frame of the format. -/
def convert (f : Sampling) (p : PlaneMap) (frame out : Bytes) : Option Bytes :=
  match f with
  | .packed422 => p.ofPacked422 frame out
  | .planar422 => p.ofPlanar422 frame out
  | .semiPlanar420 => PlaneMap.ofSemiPlanar420 p.width p.height frame out

/-- How the picture is laid out. A semi-planar frame always becomes a planar picture. -/
def picture (f : Sampling) (p : PlaneMap) : PlaneMap :=
  match f with
  | .semiPlanar420 => { p with layout := .planar }
  | _ => p

/-- The bytes that a frame must have. -/
def extent (f : Sampling) (p : PlaneMap) : Nat :=
  match f with
  | .packed422 => 2 * (p.width * p.height)
  | .planar422 => p.width * p.height + 2 * (p.width / 2 * p.height)
  | .semiPlanar420 => p.width * p.height + 2 * (p.width / 2 * (p.height / 2))

/-- Where the luma sample of pixel (`x`, `y`) is in a frame. -/
def lumaPlace (f : Sampling) (p : PlaneMap) (x y : Nat) : Nat :=
  match f with
  | .packed422 => 2 * (y * p.width + x)
  | .planar422 | .semiPlanar420 => y * p.width + x

/-- Where the U sample of the chroma cell at (`row`, `col`) is in a frame. A 4:2:2 frame has chroma samples for every
row of pixels, of which the even rows are taken. -/
def uPlace (f : Sampling) (p : PlaneMap) (row col : Nat) : Nat :=
  match f with
  | .packed422 => 2 * row * (2 * p.width) + 4 * col + 1
  | .planar422 => p.width * p.height + (2 * row * (p.width / 2) + col)
  | .semiPlanar420 => p.width * p.height + 2 * (row * (p.width / 2) + col)

/-- Where the V sample of the cell is. -/
def vPlace (f : Sampling) (p : PlaneMap) (row col : Nat) : Nat :=
  match f with
  | .packed422 => 2 * row * (2 * p.width) + 4 * col + 3
  | .planar422 => p.width * p.height + p.width / 2 * p.height + (2 * row * (p.width / 2) + col)
  | .semiPlanar420 => p.width * p.height + 2 * (row * (p.width / 2) + col) + 1

/-- The buffer holds the picture of the frame: all samples are in their places, and what follows them is neutral. -/
structure Pictures (f : Sampling) (p : PlaneMap) (frame out : Bytes) : Prop where
  luma : ∀ x y, x < p.width → y < p.height → out[y * p.width + x]? = frame[f.lumaPlace p x y]?
  u : ∀ row col, row < p.height / 2 → col < p.width / 2 →
    out[(f.picture p).uIndex (row * (p.width / 2) + col)]? = frame[f.uPlace p row col]?
  v : ∀ row col, row < p.height / 2 → col < p.width / 2 →
    out[(f.picture p).vIndex (row * (p.width / 2) + col)]? = frame[f.vPlace p row col]?
  tail : ∀ i, p.sampleEnd ≤ i → i < out.size → out[i]? = some 128

variable {f : Sampling} {p : PlaneMap} {frame out out' : Bytes}

/-- Every conversion fills the planes from a source. -/
theorem convert_eq_fill (f : Sampling) (p : PlaneMap) (frame out : Bytes) :
    f.convert p frame out =
      Converter.fill { width := p.width, height := p.height } p.layout (f.source frame) out := by
  cases f <;> rfl

/-- The brightness that is read of a source is in the frame. -/
theorem luma_source {x y : Nat} {v : UInt8}
    (read : (f.source frame).luma { width := p.width, height := p.height } x y = some v) :
    frame[f.lumaPlace p x y]? = some v := by
  cases f with
  | packed422 =>
    obtain ⟨_, read⟩ := PlaneMap.rowByte?_eq_some read
    have place : packed422.lumaPlace p x y = y * (p.width * 2) + 2 * x := by
      change 2 * (y * p.width + x) = y * (p.width * 2) + 2 * x
      ring
    rw [place]
    exact read
  | planar422 => exact read
  | semiPlanar420 => exact read

/-- The cell that is read of a source is in the frame. -/
theorem chroma_source {row col : Nat} {u v : UInt8} (hr : row < p.height / 2) (hc : col < p.width / 2)
    (read : (f.source frame).chroma { width := p.width, height := p.height } row col = some (u, v)) :
    frame[f.uPlace p row col]? = some u ∧ frame[f.vPlace p row col]? = some v := by
  cases f with
  | packed422 =>
    obtain ⟨u', first, rest⟩ := Option.bind_eq_some_iff.mp read
    obtain ⟨v', second, last⟩ := Option.bind_eq_some_iff.mp rest
    cases last
    obtain ⟨_, first⟩ := PlaneMap.rowByte?_eq_some first
    obtain ⟨_, second⟩ := PlaneMap.rowByte?_eq_some second
    have stride : p.width * 2 = 2 * p.width := Nat.mul_comm _ _
    dsimp only at first second
    rw [stride, ← Nat.add_assoc] at first second
    exact ⟨first, second⟩
  | planar422 =>
    obtain ⟨us, slicedU, rest⟩ := Option.bind_eq_some_iff.mp read
    obtain ⟨vs, slicedV, rest⟩ := Option.bind_eq_some_iff.mp rest
    obtain ⟨u', first, rest⟩ := Option.bind_eq_some_iff.mp rest
    obtain ⟨v', second, last⟩ := Option.bind_eq_some_iff.mp rest
    cases last
    obtain ⟨_, sameU⟩ := Bytes.slice?_inv slicedU
    obtain ⟨_, sameV⟩ := Bytes.slice?_inv slicedV
    have inside : 2 * row * (p.width / 2) + col < p.width / 2 * p.height := row_add_lt hc (by omega)
    exact ⟨(sameU _ inside).symm.trans first, (sameV _ inside).symm.trans second⟩
  | semiPlanar420 =>
    obtain ⟨u', first, rest⟩ := Option.bind_eq_some_iff.mp read
    obtain ⟨v', second, last⟩ := Option.bind_eq_some_iff.mp rest
    cases last
    exact ⟨first, second⟩

theorem extent_source (f : Sampling) (p : PlaneMap) (frame : Bytes) :
    (f.source frame).extent { width := p.width, height := p.height } = f.extent p := by
  cases f with
  | packed422 => exact Nat.mul_comm _ _
  | planar422 => rfl
  | semiPlanar420 => rfl

/-- What a conversion leaves in the buffer. -/
theorem pictures_of_convert (converted : f.convert p frame out = some out') :
    out'.size = out.size ∧ f.Pictures p frame out' := by
  rw [convert_eq_fill] at converted
  obtain ⟨_, size, shows, padded⟩ := Converter.fill_shows converted
  have picture : Converter.pictureMap { width := p.width, height := p.height } ((f.source frame).target p.layout) =
      f.picture p := by
    cases f <;> rfl
  refine ⟨size, ⟨?_, ?_, ?_, padded⟩⟩
  · intro x y hx hy
    obtain ⟨v, read, here⟩ := shows.luma x y hx hy
    rw [luma_source read]
    exact here
  · intro row col hr hc
    obtain ⟨u, v, read, here, _⟩ := shows.chroma row col hr hc
    rw [(chroma_source hr hc read).1, ← picture]
    exact here
  · intro row col hr hc
    obtain ⟨u, v, read, _, here⟩ := shows.chroma row col hr hc
    rw [(chroma_source hr hc read).2, ← picture]
    exact here

/-- Two bytes for each pixel are as many as any of the formats takes up. -/
theorem extent_le_double (f : Sampling) (p : PlaneMap) : f.extent p ≤ 2 * (p.width * p.height) := by
  have plane : 2 * (p.width / 2 * p.height) ≤ p.width * p.height := by
    rw [← Nat.mul_assoc]
    exact Nat.mul_le_mul_right p.height (Nat.mul_div_le p.width 2)
  have cells : p.width / 2 * (p.height / 2) ≤ p.width / 2 * p.height :=
    Nat.mul_le_mul_left _ (Nat.div_le_self p.height 2)
  cases f with
  | packed422 => exact Nat.le_refl _
  | planar422 =>
    change p.width * p.height + 2 * (p.width / 2 * p.height) ≤ 2 * (p.width * p.height)
    omega
  | semiPlanar420 =>
    change p.width * p.height + 2 * (p.width / 2 * (p.height / 2)) ≤ 2 * (p.width * p.height)
    omega

/-- **Samples in their places.** For every format, layout and dimensions, odd ones and zero included, and for every
frame and buffer: a conversion stays within the frame and the buffer exactly when both are large enough. The buffer then
keeps its length and holds the picture of the frame. As long as two bytes for each pixel can be counted in a word, so can
all places in the frame and in the picture. -/
theorem samples_in_place (f : Sampling) (p : PlaneMap) (frame out : Bytes) :
    ((f.convert p frame out).isSome = true ↔ f.extent p ≤ frame.size ∧ p.sampleEnd ≤ out.size) ∧
      (∀ out', f.convert p frame out = some out' → out'.size = out.size ∧ f.Pictures p frame out') ∧
      (2 * (p.width * p.height) < wordLimit → f.extent p < wordLimit ∧ p.sampleEnd < wordLimit) := by
  refine ⟨?_, fun out' converted => pictures_of_convert converted, ?_⟩
  · have data : (f.source frame).data = frame := by cases f <;> rfl
    rw [convert_eq_fill, Converter.isSome_fill_iff, extent_source, data]
    exact Iff.rfl
  · intro fits
    -- A semi-planar frame takes up what a picture does.
    have picture : p.sampleEnd ≤ 2 * (p.width * p.height) := extent_le_double .semiPlanar420 p
    have extent := f.extent_le_double p
    omega

end Sampling

end Camcorder
