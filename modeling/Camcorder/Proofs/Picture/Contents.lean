import Mathlib
import Camcorder.Proofs.Picture.Filling

/-!
# What a filled picture holds

A conversion puts every luma sample and every chroma cell of its source in place and ends the picture with neutral
chroma: `Converter.fill_shows`. Every byte of a picture is one of these, so two pictures of one length that show the
same are equal (`PlaneMap.Shows.unique`), and what a buffer held before it was filled does not matter
(`Converter.fill_forgets`).
-/

namespace Camcorder

namespace Bytes

/-- What is put at a place is there afterwards, and the rest is as it was. -/
theorem put?_eq_some {b b' : Bytes} {i : Nat} {v : UInt8} (h : b.put? i v = some b') :
    b'.size = b.size ∧ b'[i]? = some v ∧ ∀ j, j ≠ i → b'[j]? = b[j]? := by
  have size := size_put? h
  unfold put? at h
  split at h
  · rename_i lt
    cases h
    refine ⟨size, ?_, ?_⟩
    · rw [Array.getElem?_set_self]
    · intro j other
      exact Array.getElem?_set_ne lt other.symm
  · cases h

/-- What holds at the start of a sweep and is kept by each of its steps holds at the end. -/
theorem sweep_induct {P : Nat → Bytes → Prop} {n : Nat} {f : Nat → Bytes → Option Bytes} {out out' : Bytes}
    (swept : sweep n f out = some out') (start : P 0 out)
    (step : ∀ i b b', i < n → P i b → f i b = some b' → P (i + 1) b') : P n out' := by
  induction n generalizing out' with
  | zero =>
    rw [sweep_zero] at swept
    cases swept
    exact start
  | succ n ih =>
    rw [sweep_succ] at swept
    obtain ⟨b, before, last⟩ := Option.bind_eq_some_iff.mp swept
    have held : P n b := ih before fun i b b' hi => step i b b' (Nat.lt_succ_of_lt hi)
    exact step n b out' (Nat.lt_succ_self n) held last

/-- A sweep over a grid, row by row. `R row col` is what the step at that cell establishes; no other step may destroy
it. `I` is kept by all of them. -/
theorem sweep_grid {I : Bytes → Prop} {R : Nat → Nat → Bytes → Prop} {rows cols : Nat}
    {f : Nat → Nat → Bytes → Option Bytes} {out out' : Bytes}
    (swept : sweep rows (fun row => sweep cols (f row)) out = some out') (start : I out)
    (step : ∀ row col b b', row < rows → col < cols → I b → f row col b = some b' →
      I b' ∧ R row col b' ∧
        ∀ row' col', row' < rows → col' < cols → (row' ≠ row ∨ col' ≠ col) → R row' col' b → R row' col' b') :
    I out' ∧ ∀ row col, row < rows → col < cols → R row col out' := by
  refine sweep_induct (P := fun n b => I b ∧ ∀ row col, row < n → col < cols → R row col b) swept ?_ ?_
  · exact ⟨start, fun row col none => absurd none (Nat.not_lt_zero row)⟩
  · intro n b b' hn held inner
    -- Within the row, the rows above stay as they are and the cells come one after the other.
    have whole := sweep_induct
      (P := fun m b => I b ∧ (∀ row col, row < n → col < cols → R row col b) ∧ ∀ col, col < m → R n col b)
      inner ⟨held.1, held.2, fun col none => absurd none (Nat.not_lt_zero col)⟩ ?_
    · refine ⟨whole.1, ?_⟩
      intro row col hrow hcol
      by_cases last : row = n
      · subst last
        exact whole.2.2 col hcol
      · exact whole.2.1 row col (by omega) hcol
    · rintro m b b' hm ⟨inv, above, before⟩ stepped
      obtain ⟨inv', here, kept⟩ := step n m b b' hn hm inv stepped
      refine ⟨inv', ?_, ?_⟩
      · intro row col hrow hcol
        exact kept row col (by omega) hcol (.inl (by omega)) (above row col hrow hcol)
      · intro col hcol
        by_cases last : col = m
        · subst last
          exact here
        · exact kept n col hn (by omega) (.inr last) (before col (by omega))

end Bytes

/-! ## Places -/

/-- A position in a picture has one row and one column. -/
theorem row_add_inj {x x' y y' width : Nat} (hx : x < width) (hx' : x' < width)
    (same : y * width + x = y' * width + x') : y = y' ∧ x = x' := by
  have row (x y : Nat) (h : x < width) : (y * width + x) / width = y := by
    rw [Nat.mul_comm, Nat.mul_add_div (by omega), Nat.div_eq_of_lt h, Nat.add_zero]
  have rows : y = y' := by
    rw [← row x y hx, same, row x' y' hx']
  subst rows
  exact ⟨rfl, by omega⟩

/-- Every number below the size of a picture is such a position. -/
theorem exists_row_add {i width height : Nat} (h : i < width * height) :
    ∃ x y, x < width ∧ y < height ∧ i = y * width + x := by
  have wide : 0 < width := Nat.pos_of_mul_pos_right (Nat.zero_lt_of_lt h)
  refine ⟨i % width, i / width, Nat.mod_lt i wide, Nat.div_lt_of_lt_mul h, ?_⟩
  rw [Nat.mul_comm]
  exact (Nat.div_add_mod i width).symm

namespace PlaneMap

variable {p : PlaneMap}

/-- The places of the samples of a chroma cell lie between the luma samples and the padding. -/
theorem cell_bounds {k : Nat} (hk : k < p.cells) :
    (p.lumaSize ≤ p.uIndex k ∧ p.uIndex k < p.sampleEnd) ∧ p.lumaSize ≤ p.vIndex k ∧ p.vIndex k < p.sampleEnd := by
  have whole := p.size_samples
  unfold uIndex vIndex
  cases p.layout with
  | semiPlanar => exact ⟨⟨by dsimp only; omega, by dsimp only; omega⟩, by dsimp only; omega, by dsimp only; omega⟩
  | planar => exact ⟨⟨by dsimp only; omega, by dsimp only; omega⟩, by dsimp only; omega, by dsimp only; omega⟩

/-- No two samples of chroma cells have one place. -/
theorem cell_places {k : Nat} (hk : k < p.cells) (k' : Nat) :
    p.uIndex k ≠ p.vIndex k' ∧ (k ≠ k' → p.uIndex k ≠ p.uIndex k' ∧ p.vIndex k ≠ p.vIndex k') := by
  unfold uIndex vIndex
  cases p.layout with
  | semiPlanar => exact ⟨by dsimp only; omega, fun other => ⟨by dsimp only; omega, by dsimp only; omega⟩⟩
  | planar => exact ⟨by dsimp only; omega, fun other => ⟨by dsimp only; omega, by dsimp only; omega⟩⟩

/-- The number of a chroma cell. -/
def cellNumber (p : PlaneMap) (row col : Nat) : Nat := row * p.chromaWidth + col

theorem cellNumber_lt {row col : Nat} (hr : row < p.chromaHeight) (hc : col < p.chromaWidth) :
    p.cellNumber row col < p.cells := row_add_lt hc hr

/-- Every place before the padding is that of a luma sample, or of a sample of a chroma cell. -/
theorem place_cases (p : PlaneMap) {i : Nat} (h : i < p.sampleEnd) :
    (∃ x y, x < p.width ∧ y < p.height ∧ i = p.lumaIndex x y) ∨
    ∃ row col, row < p.chromaHeight ∧ col < p.chromaWidth ∧
      (i = p.uIndex (p.cellNumber row col) ∨ i = p.vIndex (p.cellNumber row col)) := by
  have whole := p.size_samples
  by_cases early : i < p.lumaSize
  · exact .inl (exists_row_add early)
  · right
    -- The number of the cell, and which of its samples it is, is told by the layout.
    have cell : ∃ k, k < p.cells ∧ (i = p.uIndex k ∨ i = p.vIndex k) := by
      unfold uIndex vIndex
      cases p.layout with
      | semiPlanar => exact ⟨(i - p.lumaSize) / 2, by omega, by dsimp only; omega⟩
      | planar =>
        by_cases first : i < p.lumaSize + p.cells
        · exact ⟨i - p.lumaSize, by omega, .inl (by dsimp only; omega)⟩
        · exact ⟨i - p.lumaSize - p.cells, by omega, .inr (by dsimp only; omega)⟩
    obtain ⟨k, hk, place⟩ := cell
    obtain ⟨col, row, hc, hr, number⟩ := exists_row_add hk
    refine ⟨row, col, hr, hc, ?_⟩
    rw [cellNumber, ← number]
    exact place

/-! ## Contents -/

/-- The picture has the luma samples and the chroma cells in their places. -/
structure Shows (p : PlaneMap) (sample : Nat → Nat → Option UInt8) (cell : Nat → Nat → Option (UInt8 × UInt8))
    (out : Bytes) : Prop where
  luma : ∀ x y, x < p.width → y < p.height → ∃ v, sample x y = some v ∧ out[p.lumaIndex x y]? = some v
  chroma : ∀ row col, row < p.chromaHeight → col < p.chromaWidth →
    ∃ u v, cell row col = some (u, v) ∧ out[p.uIndex (p.cellNumber row col)]? = some u ∧
      out[p.vIndex (p.cellNumber row col)]? = some v

/-- What follows the samples of a picture is neutral. -/
def Padded (p : PlaneMap) (out : Bytes) : Prop := ∀ i, p.sampleEnd ≤ i → i < out.size → out[i]? = some neutralChroma

variable {sample : Nat → Nat → Option UInt8} {cell : Nat → Nat → Option (UInt8 × UInt8)} {out out' : Bytes}

/-- A buffer that shows a picture has room for it. -/
theorem Shows.sampleEnd_le (h : p.Shows sample cell out) : p.sampleEnd ≤ out.size := by
  rcases Nat.eq_zero_or_pos p.sampleEnd with none | some'
  · omega
  · -- The last place is that of a sample, which is there.
    have there : ∃ v, out[p.sampleEnd - 1]? = some v := by
      rcases p.place_cases (i := p.sampleEnd - 1) (by omega) with ⟨x, y, hx, hy, place⟩ | ⟨row, col, hr, hc, place⟩
      · obtain ⟨v, _, here⟩ := h.luma x y hx hy
        exact ⟨v, place ▸ here⟩
      · obtain ⟨u, v, _, first, second⟩ := h.chroma row col hr hc
        rcases place with place | place
        · exact ⟨u, place ▸ first⟩
        · exact ⟨v, place ▸ second⟩
    obtain ⟨v, here⟩ := there
    obtain ⟨inside, _⟩ := Array.getElem?_eq_some_iff.mp here
    omega

/-- Two padded pictures of one length that show the same are equal. -/
theorem Shows.unique (h : p.Shows sample cell out) (h' : p.Shows sample cell out') (padded : p.Padded out)
    (padded' : p.Padded out') (size : out.size = out'.size) : out = out' := by
  apply Array.ext_getElem?
  intro i
  by_cases late : p.sampleEnd ≤ i
  · by_cases inside : i < out.size
    · rw [padded i late inside, padded' i late (by omega)]
    · rw [Array.getElem?_eq_none (by omega), Array.getElem?_eq_none (by omega)]
  · rcases p.place_cases (Nat.lt_of_not_le late) with ⟨x, y, hx, hy, rfl⟩ | ⟨row, col, hr, hc, place⟩
    · obtain ⟨v, source, here⟩ := h.luma x y hx hy
      obtain ⟨v', source', here'⟩ := h'.luma x y hx hy
      rw [here, here', ← source, ← source']
    · obtain ⟨u, v, source, first, second⟩ := h.chroma row col hr hc
      obtain ⟨u', v', source', first', second'⟩ := h'.chroma row col hr hc
      rw [source] at source'
      cases source'
      rcases place with rfl | rfl
      · rw [first, first']
      · rw [second, second']

/-- After the brightness is filled in, every sample is in its place. -/
theorem fillLuma_shows (filled : p.fillLuma sample out = some out') :
    out'.size = out.size ∧
      ∀ x y, x < p.width → y < p.height → ∃ v, sample x y = some v ∧ out'[p.lumaIndex x y]? = some v := by
  unfold fillLuma at filled
  have swept := Bytes.sweep_grid (I := fun b => b.size = out.size)
    (R := fun y x b => ∃ v, sample x y = some v ∧ b[p.lumaIndex x y]? = some v) filled rfl ?_
  · exact ⟨swept.1, fun x y hx hy => swept.2 y x hy hx⟩
  · intro y x b b' hy hx size stepped
    obtain ⟨v, source, put⟩ := Option.bind_eq_some_iff.mp stepped
    obtain ⟨same, here, others⟩ := Bytes.put?_eq_some put
    refine ⟨same.trans size, ⟨v, source, here⟩, ?_⟩
    rintro y' x' hy' hx' other ⟨w, source', there⟩
    refine ⟨w, source', ?_⟩
    rw [others _ ?_, there]
    intro clash
    obtain ⟨rows, cols⟩ := row_add_inj hx' hx clash
    omega

/-- A cell is put in its two places, and the rest is as it was. -/
theorem putCell_eq_some {row col : Nat} {u v : UInt8} (hr : row < p.chromaHeight) (hc : col < p.chromaWidth)
    (put : p.putCell row col u v out = some out') :
    out'.size = out.size ∧ out'[p.uIndex (p.cellNumber row col)]? = some u ∧
      out'[p.vIndex (p.cellNumber row col)]? = some v ∧
      ∀ i, i ≠ p.uIndex (p.cellNumber row col) → i ≠ p.vIndex (p.cellNumber row col) → out'[i]? = out[i]? := by
  obtain ⟨b, first, second⟩ := Option.bind_eq_some_iff.mp put
  obtain ⟨size, here, others⟩ := Bytes.put?_eq_some first
  obtain ⟨size', here', others'⟩ := Bytes.put?_eq_some second
  have apart := (cell_places (cellNumber_lt hr hc) (p.cellNumber row col)).1
  refine ⟨size'.trans size, ?_, here', ?_⟩
  · rw [others' _ apart]
    exact here
  · intro i notU notV
    rw [others' i notV, others i notU]

/-- After the colours are filled in, every cell is in its place, and the brightness is as it was. -/
theorem fillChroma_shows (filled : p.fillChroma cell out = some out') :
    (out'.size = out.size ∧ ∀ i, i < p.lumaSize → out'[i]? = out[i]?) ∧
      ∀ row col, row < p.chromaHeight → col < p.chromaWidth →
        ∃ u v, cell row col = some (u, v) ∧ out'[p.uIndex (p.cellNumber row col)]? = some u ∧
          out'[p.vIndex (p.cellNumber row col)]? = some v := by
  unfold fillChroma at filled
  -- The luma samples stay, and so do the cells that were written before.
  refine Bytes.sweep_grid (I := fun b => b.size = out.size ∧ ∀ i, i < p.lumaSize → b[i]? = out[i]?)
    (R := fun row col b => ∃ u v, cell row col = some (u, v) ∧ b[p.uIndex (p.cellNumber row col)]? = some u ∧
      b[p.vIndex (p.cellNumber row col)]? = some v) filled ⟨rfl, fun _ _ => rfl⟩ ?_
  rintro row col b b' hr hc ⟨size, luma⟩ stepped
  obtain ⟨⟨u, v⟩, source, put⟩ := Option.bind_eq_some_iff.mp stepped
  obtain ⟨same, first, second, others⟩ := putCell_eq_some hr hc put
  have bounds := cell_bounds (cellNumber_lt hr hc)
  refine ⟨⟨same.trans size, ?_⟩, ⟨u, v, source, first, second⟩, ?_⟩
  · intro i early
    rw [others i (by omega) (by omega)]
    exact luma i early
  · rintro row' col' hr' hc' other ⟨u', v', source', first', second'⟩
    have numbers : p.cellNumber row' col' ≠ p.cellNumber row col := by
      intro clash
      obtain ⟨rows, cols⟩ := row_add_inj hc' hc clash
      omega
    obtain ⟨uv, same⟩ := cell_places (cellNumber_lt hr' hc') (p.cellNumber row col)
    obtain ⟨uu, vv⟩ := same numbers
    have vu := (cell_places (cellNumber_lt hr hc) (p.cellNumber row' col')).1.symm
    refine ⟨u', v', source', ?_, ?_⟩
    · rw [others _ uu uv]
      exact first'
    · rw [others _ vu vv]
      exact second'

theorem getElem?_padTail (room : p.sampleEnd ≤ out.size) {i : Nat} (early : i < p.sampleEnd) :
    (p.padTail out)[i]? = out[i]? := by
  have front : (out.extract 0 p.sampleEnd).size = p.sampleEnd := by
    rw [Array.size_extract]
    omega
  unfold padTail
  rw [Array.getElem?_append_left (by omega), Array.getElem?_extract]
  simp [early]

/-- What comes after the samples is neutral. -/
theorem padded_padTail (room : p.sampleEnd ≤ out.size) : p.Padded (p.padTail out) := by
  intro i late inside
  have front : (out.extract 0 p.sampleEnd).size = p.sampleEnd := by
    rw [Array.size_extract]
    omega
  rw [size_padTail room] at inside
  unfold padTail Bytes.fill
  rw [Array.getElem?_append_right (by omega), Array.getElem?_replicate, if_pos (by omega)]

/-- What a buffer shows is still there once it is padded. -/
theorem Shows.padTail (room : p.sampleEnd ≤ out.size) (h : p.Shows sample cell out) :
    (p.padTail out).size = out.size ∧ p.Shows sample cell (p.padTail out) ∧ p.Padded (p.padTail out) := by
  have whole := p.size_samples
  refine ⟨size_padTail room, ⟨?_, ?_⟩, padded_padTail room⟩
  · intro x y hx hy
    have early : p.lumaIndex x y < p.lumaSize := row_add_lt hx hy
    obtain ⟨v, source, here⟩ := h.luma x y hx hy
    refine ⟨v, source, ?_⟩
    rw [getElem?_padTail room (by omega)]
    exact here
  · intro row col hr hc
    have bounds := cell_bounds (cellNumber_lt hr hc)
    obtain ⟨u, v, source, here, here'⟩ := h.chroma row col hr hc
    refine ⟨u, v, source, ?_, ?_⟩
    · rw [getElem?_padTail room bounds.1.2]
      exact here
    · rw [getElem?_padTail room bounds.2.2]
      exact here'

/-- Once the luma samples and the chroma cells are filled in, the buffer shows them. -/
theorem shows_of_filled {b : Bytes} (first : p.fillLuma sample out = some b) (second : p.fillChroma cell b = some out') :
    out'.size = out.size ∧ p.Shows sample cell out' := by
  obtain ⟨size, luma⟩ := fillLuma_shows first
  obtain ⟨⟨size', kept⟩, chroma⟩ := fillChroma_shows second
  refine ⟨size'.trans size, ?_, chroma⟩
  intro x y hx hy
  obtain ⟨v, source, here⟩ := luma x y hx hy
  have early : p.lumaIndex x y < p.lumaSize := row_add_lt hx hy
  refine ⟨v, source, ?_⟩
  rw [kept _ early]
  exact here

/-- What the steps that the conversions of captured formats end with make of a buffer, which must have had room. -/
theorem fillAll_shows
    (filled : ((p.fillLuma sample out).bind fun out => (p.fillChroma cell out).bind fun out => some (p.padTail out)) =
      some out') :
    p.sampleEnd ≤ out.size ∧ out'.size = out.size ∧ p.Shows sample cell out' ∧ p.Padded out' := by
  obtain ⟨b, first, rest⟩ := Option.bind_eq_some_iff.mp filled
  obtain ⟨c, second, last⟩ := Option.bind_eq_some_iff.mp rest
  cases last
  obtain ⟨size, shows⟩ := shows_of_filled first second
  have room := shows.sampleEnd_le
  obtain ⟨same, shows, padded⟩ := shows.padTail room
  exact ⟨by omega, by omega, shows, padded⟩

/-! ## Pixel by pixel -/

/-- The luma sample of pixel (`x`, `y`) of a picture of three bytes for each pixel. -/
def colourLuma (p : PlaneMap) (rgb : Bytes) (x y : Nat) : Option UInt8 := do
  let (r, g, b) ← p.colour? rgb x y
  return clampByte (luma r g b)

/-- The chroma cell at (`row`, `col`) of such a picture. -/
def colourCell (p : PlaneMap) (rgb : Bytes) (row col : Nat) : Option (UInt8 × UInt8) := do
  let (r, g, b) ← p.colour? rgb (2 * col) (2 * row)
  return (clampByte (blueDifference r g b), clampByte (redDifference r g b))

/-- Whether pixel (`x`, `y`) is the top left pixel of a chroma cell. -/
def IsCorner (p : PlaneMap) (x y : Nat) : Prop :=
  y % 2 = 0 ∧ x % 2 = 0 ∧ y / 2 < p.chromaHeight ∧ x / 2 < p.chromaWidth

/-- The buffer has the luma sample of pixel (`x`, `y`), and the chroma cell of which it is the top left pixel. -/
structure ShowsPixel (p : PlaneMap) (rgb : Bytes) (x y : Nat) (out : Bytes) : Prop where
  luma : ∃ v, p.colourLuma rgb x y = some v ∧ out[p.lumaIndex x y]? = some v
  chroma : p.IsCorner x y → ∃ u v, p.colourCell rgb (y / 2) (x / 2) = some (u, v) ∧
    out[p.uIndex (p.cellNumber (y / 2) (x / 2))]? = some u ∧ out[p.vIndex (p.cellNumber (y / 2) (x / 2))]? = some v

/-- A pixel is put in its places, and the rest is as it was. -/
theorem putPixel_shows {rgb : Bytes} {x y : Nat} (hx : x < p.width) (hy : y < p.height)
    (put : p.putPixel rgb x y out = some out') :
    out'.size = out.size ∧ p.ShowsPixel rgb x y out' ∧
      ∀ i, i ≠ p.lumaIndex x y →
        (p.IsCorner x y → i ≠ p.uIndex (p.cellNumber (y / 2) (x / 2)) ∧ i ≠ p.vIndex (p.cellNumber (y / 2) (x / 2))) →
        out'[i]? = out[i]? := by
  obtain ⟨⟨r, g, b⟩, colour, rest⟩ := Option.bind_eq_some_iff.mp put
  obtain ⟨c, first, rest⟩ := Option.bind_eq_some_iff.mp rest
  obtain ⟨size, here, others⟩ := Bytes.put?_eq_some first
  have sample : p.colourLuma rgb x y = some (clampByte (luma r g b)) := by
    rw [colourLuma, colour]
    rfl
  split at rest
  · rename_i corner
    obtain ⟨even, even', hr, hc⟩ := corner
    have double : 2 * (x / 2) = x ∧ 2 * (y / 2) = y := by omega
    have cell : p.colourCell rgb (y / 2) (x / 2) =
        some (clampByte (blueDifference r g b), clampByte (redDifference r g b)) := by
      rw [colourCell, double.1, double.2, colour]
      rfl
    obtain ⟨size', hu, hv, others'⟩ := putCell_eq_some hr hc rest
    have early : p.lumaIndex x y < p.lumaSize := row_add_lt hx hy
    have bounds := cell_bounds (cellNumber_lt hr hc)
    refine ⟨size'.trans size, ⟨⟨_, sample, ?_⟩, fun _ => ⟨_, _, cell, hu, hv⟩⟩, ?_⟩
    · rw [others' _ (by omega) (by omega)]
      exact here
    · intro i notHere notCell
      obtain ⟨notU, notV⟩ := notCell ⟨even, even', hr, hc⟩
      rw [others' i notU notV, others i notHere]
  · rename_i corner
    cases rest
    exact ⟨size, ⟨⟨_, sample, here⟩, fun other => absurd other corner⟩, fun i notHere _ => others i notHere⟩

/-- A pixel that was taken before stays when another one is taken. -/
theorem ShowsPixel.putPixel {rgb : Bytes} {x y x' y' : Nat} (hx : x < p.width) (hy : y < p.height)
    (put : p.putPixel rgb x y out = some out') (hx' : x' < p.width) (hy' : y' < p.height) (other : y' ≠ y ∨ x' ≠ x)
    (h : p.ShowsPixel rgb x' y' out) : p.ShowsPixel rgb x' y' out' := by
  obtain ⟨_, _, others⟩ := putPixel_shows hx hy put
  have early : p.lumaIndex x y < p.lumaSize := row_add_lt hx hy
  have early' : p.lumaIndex x' y' < p.lumaSize := row_add_lt hx' hy'
  refine ⟨?_, ?_⟩
  · obtain ⟨v, source, here⟩ := h.luma
    refine ⟨v, source, ?_⟩
    rw [others, here]
    · intro clash
      obtain ⟨rows, cols⟩ := row_add_inj hx' hx clash
      omega
    · rintro ⟨_, _, hr, hc⟩
      have bounds := cell_bounds (cellNumber_lt hr hc)
      omega
  · intro corner'
    obtain ⟨u, v, source, first, second⟩ := h.chroma corner'
    obtain ⟨even', even'', hr', hc'⟩ := corner'
    have bounds' := cell_bounds (cellNumber_lt hr' hc')
    -- Two corners that differ belong to different cells, whose samples are in different places.
    have apart (corner : p.IsCorner x y) :
        p.cellNumber (y' / 2) (x' / 2) ≠ p.cellNumber (y / 2) (x / 2) := by
      obtain ⟨even, even₂, _, hc⟩ := corner
      intro clash
      obtain ⟨rows, cols⟩ := row_add_inj hc' hc clash
      omega
    refine ⟨u, v, source, ?_, ?_⟩
    · rw [others, first]
      · omega
      · intro corner
        obtain ⟨uv, same⟩ := cell_places (cellNumber_lt hr' hc') (p.cellNumber (y / 2) (x / 2))
        exact ⟨(same (apart corner)).1, uv⟩
    · rw [others, second]
      · omega
      · intro corner
        have vu := (cell_places (cellNumber_lt corner.2.2.1 corner.2.2.2) (p.cellNumber (y' / 2) (x' / 2))).1.symm
        obtain ⟨_, same⟩ := cell_places (cellNumber_lt hr' hc') (p.cellNumber (y / 2) (x / 2))
        exact ⟨vu, (same (apart corner)).2⟩

/-- What taking one pixel after the other makes of a buffer, which must have had room. -/
theorem ofRgb_shows {rgb : Bytes} (filled : p.ofRgb rgb out = some out') :
    p.sampleEnd ≤ out.size ∧ out'.size = out.size ∧ p.Shows (p.colourLuma rgb) (p.colourCell rgb) out' ∧
      p.Padded out' := by
  obtain ⟨c, swept, last⟩ := Option.bind_eq_some_iff.mp filled
  cases last
  have swept := Bytes.sweep_grid (I := fun b => b.size = out.size) (R := fun y x b => p.ShowsPixel rgb x y b) swept rfl ?_
  · obtain ⟨size, pixels⟩ := swept
    have shows : p.Shows (p.colourLuma rgb) (p.colourCell rgb) c := by
      refine ⟨fun x y hx hy => (pixels y x hy hx).luma, ?_⟩
      intro row col hr hc
      -- The cell comes with its top left pixel.
      have hy : 2 * row < p.height := by
        have hr : row < p.height / 2 := hr
        omega
      have hx : 2 * col < p.width := by
        have hc : col < p.width / 2 := hc
        omega
      have halves : 2 * row / 2 = row ∧ 2 * col / 2 = col := by omega
      have corner : p.IsCorner (2 * col) (2 * row) := by
        refine ⟨by omega, by omega, ?_, ?_⟩
        · rw [halves.1]
          exact hr
        · rw [halves.2]
          exact hc
      have cell := (pixels (2 * row) (2 * col) hy hx).chroma corner
      rw [halves.1, halves.2] at cell
      exact cell
    have room := shows.sampleEnd_le
    obtain ⟨same, shows, padded⟩ := shows.padTail room
    exact ⟨by omega, by omega, shows, padded⟩
  · intro y x b b' hy hx size put
    obtain ⟨same, here, _⟩ := putPixel_shows hx hy put
    exact ⟨same.trans size, here, fun y' x' hy' hx' other h => h.putPixel hx hy put hx' hy' other⟩

end PlaneMap

/-! ## Sources -/

namespace Converter

/-- The picture of `g` in a layout. -/
def pictureMap (g : Geometry) (layout : Layout) : PlaneMap := { width := g.width, height := g.height, layout }

namespace Source

/-- The luma sample of pixel (`x`, `y`). -/
def luma (g : Geometry) (source : Source) (x y : Nat) : Option UInt8 :=
  let i := y * g.width + x
  match source with
  | .semiPlanar420 data | .planar422 data => data[i]?
  | .packed422 data => PlaneMap.rowByte? data (g.width * 2) y (2 * x)
  | .rgb data => do
    let (r, g, b) ← (pictureMap g .planar).colour? data x y
    return PlaneMap.clampByte (PlaneMap.luma r g b)

/-- The chroma cell at (`row`, `col`). -/
def chroma (g : Geometry) (source : Source) (row col : Nat) : Option (UInt8 × UInt8) :=
  let width := g.width / 2
  match source with
  | .semiPlanar420 data => do
    let i := g.pixels + 2 * (row * width + col)
    return (← data[i]?, ← data[i + 1]?)
  | .packed422 data => do
    let byte := PlaneMap.rowByte? data (g.width * 2) (2 * row)
    return (← byte (4 * col + 1), ← byte (4 * col + 3))
  | .planar422 data => do
    let us ← Bytes.slice? data g.pixels (width * g.height)
    let vs ← Bytes.slice? data (g.pixels + width * g.height) (width * g.height)
    let i := 2 * row * width + col
    return (← us[i]?, ← vs[i]?)
  | .rgb data => do
    let (r, g, b) ← (pictureMap g .planar).colour? data (2 * col) (2 * row)
    return (PlaneMap.clampByte (PlaneMap.blueDifference r g b), PlaneMap.clampByte (PlaneMap.redDifference r g b))

/-- The layout that a source is converted to. A semi-planar one is converted only where a planar one is wanted. -/
def target (wanted : Layout) : Source → Layout
  | .semiPlanar420 _ => .planar
  | _ => wanted

end Source

/-- A buffer that could be filled had room for the picture, and shows the source, whatever it held before. -/
theorem fill_shows {g : Geometry} {layout : Layout} {source : Source} {out out' : Bytes}
    (filled : fill g layout source out = some out') :
    (pictureMap g layout).sampleEnd ≤ out.size ∧ out'.size = out.size ∧
      (pictureMap g (source.target layout)).Shows (source.luma g) (source.chroma g) out' ∧
      (pictureMap g (source.target layout)).Padded out' := by
  cases source with
  | semiPlanar420 data =>
    obtain ⟨_, _, steps⟩ := Option.bind_eq_some_iff.mp filled
    exact PlaneMap.fillAll_shows steps
  | packed422 data =>
    obtain ⟨_, _, steps⟩ := Option.bind_eq_some_iff.mp filled
    exact PlaneMap.fillAll_shows steps
  | planar422 data =>
    -- The slices are taken once the luma samples are in place; as far as the picture goes they might come first.
    obtain ⟨_, _, steps⟩ := Option.bind_eq_some_iff.mp filled
    obtain ⟨b, luma, steps⟩ := Option.bind_eq_some_iff.mp steps
    obtain ⟨us, hus, steps⟩ := Option.bind_eq_some_iff.mp steps
    obtain ⟨vs, hvs, steps⟩ := Option.bind_eq_some_iff.mp steps
    refine PlaneMap.fillAll_shows (p := pictureMap g layout) ?_
    have chroma : Source.chroma g (.planar422 data) = fun row col => do
        let i := 2 * row * (pictureMap g layout).chromaWidth + col
        return (← us[i]?, ← vs[i]?) := by
      have hus : Bytes.slice? data g.pixels (g.width / 2 * g.height) = some us := hus
      have hvs : Bytes.slice? data (g.pixels + g.width / 2 * g.height) (g.width / 2 * g.height) = some vs := hvs
      funext row col
      unfold Source.chroma
      dsimp only
      rw [hus, hvs]
      rfl
    rw [chroma]
    exact Option.bind_eq_some_iff.mpr ⟨b, luma, steps⟩
  | rgb data => exact PlaneMap.ofRgb_shows filled

/-- What a buffer held before it was filled does not matter. -/
theorem fill_forgets {g : Geometry} (layout : Layout) {source : Source} {out out' : Bytes} (fits : source.Fits g)
    (size : out.size = g.pixels * 3 / 2) (size' : out'.size = g.pixels * 3 / 2) :
    fill g layout source out = fill g layout source out' := by
  obtain ⟨b, filled, _⟩ := fill_some layout fits size
  obtain ⟨b', filled', _⟩ := fill_some layout fits size'
  obtain ⟨_, length, shows, padded⟩ := fill_shows filled
  obtain ⟨_, length', shows', padded'⟩ := fill_shows filled'
  rw [filled, filled', shows.unique shows' padded padded' (by omega)]

end Converter

end Camcorder
