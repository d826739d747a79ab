import Mathlib
import Camcorder.Picture.Converter

/-!
# Filling a picture stays within its bounds

A frame that has the length of its format has every sample that its conversion reads, and a buffer of the length of
a picture has a place for every sample that is written. So a conversion comes to an end (`Converter.fill_some`), and
a converter with a fitting arena never reaches outside a buffer (`Converter.Sound.convert`).
-/

namespace Camcorder

namespace Bytes

/-- A sweep succeeds if each of its steps does; `P i` is what holds before step `i`. -/
theorem sweep_some {P : Nat → Bytes → Prop} {n : Nat} {f : Nat → Bytes → Option Bytes} {out : Bytes} (start : P 0 out)
    (step : ∀ i b, i < n → P i b → ∃ b', f i b = some b' ∧ P (i + 1) b') :
    ∃ out', sweep n f out = some out' ∧ P n out' := by
  induction n with
  | zero => exact ⟨out, sweep_zero f out, start⟩
  | succ n ih =>
    rcases ih (fun i b hi => step i b (Nat.lt_succ_of_lt hi)) with ⟨b, swept, before⟩
    rcases step n b (Nat.lt_succ_self n) before with ⟨b', stepped, after⟩
    refine ⟨b', ?_, after⟩
    rw [sweep_succ, swept]
    exact stepped

/-- A byte can be put anywhere within a string. -/
theorem put?_some {b : Bytes} {i : Nat} (lt : i < b.size) (v : UInt8) :
    ∃ c, b.put? i v = some c ∧ c.size = b.size := by
  refine ⟨b.set i v, ?_, Array.size_set lt⟩
  unfold put?
  exact dif_pos lt

end Bytes

/-- The lengths of frames of a geometry fit a word together with that of three bytes for each pixel. -/
theorem Geometry.lengths_of_fits (g : Geometry) (fits : g.pixels * 3 < wordLimit) :
    g.len420? = some (g.pixels * 3 / 2) ∧ g.len422? = some (g.pixels * 2) :=
  ⟨len420?_eq_some_iff.mpr ⟨fits, rfl⟩, len422?_eq_some_iff.mpr ⟨by omega, rfl⟩⟩

/-- Position `x` of row `y` lies within the rows. -/
theorem row_add_lt {x y width height : Nat} (hx : x < width) (hy : y < height) : y * width + x < width * height := by
  have rows : (y + 1) * width ≤ height * width := Nat.mul_le_mul_right width hy
  rw [Nat.add_mul, Nat.one_mul] at rows
  rw [Nat.mul_comm width height]
  omega

namespace PlaneMap

variable {p : PlaneMap} {out : Bytes}

/-- A chroma cell has the size of four pixels. -/
theorem four_cells_le (p : PlaneMap) : 4 * p.cells ≤ p.lumaSize := by
  have width : 2 * p.chromaWidth ≤ p.width := Nat.mul_div_le p.width 2
  have height : 2 * p.chromaHeight ≤ p.height := Nat.mul_div_le p.height 2
  have product := Nat.mul_le_mul width height
  unfold cells lumaSize
  calc 4 * (p.chromaWidth * p.chromaHeight) = 2 * p.chromaWidth * (2 * p.chromaHeight) := by ring
    _ ≤ p.width * p.height := product

/-- Brightness that is there for all pixels can be filled in. -/
theorem fillLuma_some {sample : Nat → Nat → Option UInt8} (room : p.lumaSize ≤ out.size)
    (there : ∀ x y, x < p.width → y < p.height → (sample x y).isSome = true) :
    ∃ out', p.fillLuma sample out = some out' ∧ out'.size = out.size := by
  unfold fillLuma
  -- Nothing but the size of the buffer matters from one step to the next.
  refine Bytes.sweep_some (P := fun _ b => b.size = out.size) rfl ?_
  intro y b hy size
  refine Bytes.sweep_some (P := fun _ b => b.size = out.size) size ?_
  intro x b hx size
  rcases Option.isSome_iff_exists.mp (there x y hx hy) with ⟨v, hv⟩
  have lt : p.lumaIndex x y < b.size := by
    rw [size]
    exact Nat.lt_of_lt_of_le (row_add_lt hx hy) room
  rcases Bytes.put?_some lt v with ⟨c, put, same⟩
  refine ⟨c, ?_, same.trans size⟩
  rw [hv]
  exact put

/-- There is room for every cell. -/
theorem putCell_some {row col : Nat} (room : p.sampleEnd ≤ out.size) (hr : row < p.chromaHeight)
    (hc : col < p.chromaWidth) (u v : UInt8) :
    ∃ out', p.putCell row col u v out = some out' ∧ out'.size = out.size := by
  have cell : row * p.chromaWidth + col < p.cells := row_add_lt hc hr
  have end' : p.sampleEnd = p.lumaSize + 2 * p.cells := rfl
  have indices : p.uIndex (row * p.chromaWidth + col) < out.size ∧ p.vIndex (row * p.chromaWidth + col) < out.size := by
    unfold uIndex vIndex
    cases p.layout with
    | semiPlanar => exact ⟨by dsimp only; omega, by dsimp only; omega⟩
    | planar => exact ⟨by dsimp only; omega, by dsimp only; omega⟩
  rcases Bytes.put?_some indices.1 u with ⟨b, first, size⟩
  rcases Bytes.put?_some (b := b) (by rw [size]; exact indices.2) v with ⟨c, second, size'⟩
  refine ⟨c, ?_, size'.trans size⟩
  unfold putCell
  dsimp only
  rw [first]
  exact second

/-- Colours that are there for all cells can be filled in. -/
theorem fillChroma_some {cell : Nat → Nat → Option (UInt8 × UInt8)} (room : p.sampleEnd ≤ out.size)
    (there : ∀ row col, row < p.chromaHeight → col < p.chromaWidth → (cell row col).isSome = true) :
    ∃ out', p.fillChroma cell out = some out' ∧ out'.size = out.size := by
  unfold fillChroma
  refine Bytes.sweep_some (P := fun _ b => b.size = out.size) rfl ?_
  intro row b hr size
  refine Bytes.sweep_some (P := fun _ b => b.size = out.size) size ?_
  intro col b hc size
  rcases Option.isSome_iff_exists.mp (there row col hr hc) with ⟨⟨u, v⟩, huv⟩
  have room : p.sampleEnd ≤ b.size := by rw [size]; exact room
  rcases putCell_some room hr hc u v with ⟨c, put, same⟩
  refine ⟨c, ?_, same.trans size⟩
  rw [huv]
  exact put

theorem size_padTail (room : p.sampleEnd ≤ out.size) : (p.padTail out).size = out.size := by
  simp only [padTail, Bytes.fill, Array.size_append, Array.size_extract, Array.size_replicate]
  omega

theorem size_samples (p : PlaneMap) : p.sampleEnd = p.lumaSize + 2 * p.cells := rfl

/-- The steps that all conversions end with. -/
theorem fillAll_some {sample : Nat → Nat → Option UInt8} {cell : Nat → Nat → Option (UInt8 × UInt8)}
    (room : p.sampleEnd ≤ out.size) (luma : ∀ x y, x < p.width → y < p.height → (sample x y).isSome = true)
    (chroma : ∀ row col, row < p.chromaHeight → col < p.chromaWidth → (cell row col).isSome = true) :
    ∃ out', ((p.fillLuma sample out).bind fun out => (p.fillChroma cell out).bind fun out => some (p.padTail out)) =
      some out' ∧ out'.size = out.size := by
  have roomForLuma : p.lumaSize ≤ out.size := (Nat.le_add_right _ _).trans room
  rcases fillLuma_some roomForLuma luma with ⟨b, filled, size⟩
  have roomForChroma : p.sampleEnd ≤ b.size := by rw [size]; exact room
  rcases fillChroma_some roomForChroma chroma with ⟨c, filled', size'⟩
  have same : c.size = out.size := size'.trans size
  refine ⟨p.padTail c, ?_, (size_padTail (by rw [same]; exact room)).trans same⟩
  rw [filled, Option.bind_some, filled', Option.bind_some]

/-! ## The sources -/

theorem isSome_getElem? {b : Bytes} {i : Nat} (lt : i < b.size) : (b[i]?).isSome = true := by
  rw [Array.getElem?_eq_getElem lt]
  rfl

/-- A row of a long enough source can be read. -/
theorem isSome_rowByte? {src : Bytes} {stride rows row i : Nat} (enough : stride * rows ≤ src.size) (hr : row < rows)
    (hi : i < stride) : (rowByte? src stride row i).isSome = true := by
  have whole : row * stride + stride ≤ src.size := by
    refine Nat.le_trans ?_ enough
    rw [Nat.mul_comm stride rows, ← Nat.succ_mul]
    exact Nat.mul_le_mul_right stride hr
  unfold rowByte?
  rw [if_pos whole]
  exact isSome_getElem? (by omega)

/-- A packed frame that is long enough can be converted. -/
theorem ofPacked422_some {src : Bytes} (enough : p.lumaSize * 2 ≤ src.size) (room : p.sampleEnd ≤ out.size) :
    ∃ out', p.ofPacked422 src out = some out' ∧ out'.size = out.size := by
  have rows : p.width * 2 * p.height ≤ src.size := by
    refine Nat.le_trans (Nat.le_of_eq ?_) enough
    unfold lumaSize
    ring
  have even : 2 * (p.width / 2) ≤ p.width := Nat.mul_div_le p.width 2
  have evenRows : 2 * (p.height / 2) ≤ p.height := Nat.mul_div_le p.height 2
  have roomForLuma : p.lumaSize ≤ out.size := (Nat.le_add_right _ _).trans room
  unfold ofPacked422
  dsimp only
  rw [guard, if_pos roomForLuma]
  refine fillAll_some room ?_ ?_
  · intro x y hx hy
    exact isSome_rowByte? rows hy (by omega)
  -- The chroma samples of a row stand between its luma samples, in groups of four bytes.
  · intro row col hr hc
    have hr : row < p.height / 2 := hr
    have hc : col < p.width / 2 := hc
    have above : 2 * row < p.height := by omega
    have first : 4 * col + 1 < p.width * 2 := by omega
    have second : 4 * col + 3 < p.width * 2 := by omega
    rcases Option.isSome_iff_exists.mp (isSome_rowByte? rows above first) with ⟨u, hu⟩
    rcases Option.isSome_iff_exists.mp (isSome_rowByte? rows above second) with ⟨v, hv⟩
    rw [hu, hv]
    rfl

/-- A planar frame that is long enough can be converted. -/
theorem ofPlanar422_some {src : Bytes} (enough : p.lumaSize + 2 * (p.chromaWidth * p.height) ≤ src.size)
    (room : p.sampleEnd ≤ out.size) :
    ∃ out', p.ofPlanar422 src out = some out' ∧ out'.size = out.size := by
  have roomForLuma : p.lumaSize ≤ out.size := (Nat.le_add_right _ _).trans room
  have evenRows : 2 * (p.height / 2) ≤ p.height := Nat.mul_div_le p.height 2
  unfold ofPlanar422
  dsimp only
  have sliced (start : Nat) (fits : start + p.chromaWidth * p.height ≤ src.size) :
      ∃ b, Bytes.slice? src start (p.chromaWidth * p.height) = some b ∧ b.size = p.chromaWidth * p.height := by
    refine ⟨_, if_pos fits, ?_⟩
    rw [Array.size_extract]
    omega
  -- The two chroma planes follow the luma plane, each as high as the picture.
  rcases sliced p.lumaSize (by omega) with ⟨us, hus, usSize⟩
  rcases sliced (p.lumaSize + p.chromaWidth * p.height) (by omega) with ⟨vs, hvs, vsSize⟩
  rw [guard, if_pos roomForLuma, hus, hvs]
  refine fillAll_some room ?_ ?_
  · intro x y hx hy
    have lt : p.lumaIndex x y < p.lumaSize := row_add_lt hx hy
    exact isSome_getElem? (by omega)
  · intro row col hr hc
    have hr : row < p.height / 2 := hr
    have lt : 2 * row * p.chromaWidth + col < p.chromaWidth * p.height := row_add_lt hc (by omega)
    rcases Option.isSome_iff_exists.mp (isSome_getElem? (usSize ▸ lt)) with ⟨u, hu⟩
    rcases Option.isSome_iff_exists.mp (isSome_getElem? (vsSize ▸ lt)) with ⟨v, hv⟩
    rw [hu, hv]
    rfl

/-- A frame of 4:2:0 that is long enough can be converted. -/
theorem ofSemiPlanar420_some {width height : Nat} {src : Bytes}
    (enough : ({ width, height, layout := .planar } : PlaneMap).sampleEnd ≤ src.size)
    (room : ({ width, height, layout := .planar } : PlaneMap).sampleEnd ≤ out.size) :
    ∃ out', ofSemiPlanar420 width height src out = some out' ∧ out'.size = out.size := by
  unfold ofSemiPlanar420
  dsimp only
  generalize ({ width, height, layout := .planar } : PlaneMap) = p at *
  have whole : p.sampleEnd = p.lumaSize + 2 * p.cells := rfl
  have roomForLuma : p.lumaSize ≤ out.size := (Nat.le_add_right _ _).trans room
  rw [guard, if_pos roomForLuma]
  refine fillAll_some room ?_ ?_
  · intro x y hx hy
    have lt : p.lumaIndex x y < p.lumaSize := row_add_lt hx hy
    exact isSome_getElem? (by omega)
  · intro row col hr hc
    have lt : row * p.chromaWidth + col < p.cells := row_add_lt hc hr
    rcases Option.isSome_iff_exists.mp (isSome_getElem? (b := src)
      (i := p.lumaSize + 2 * (row * p.chromaWidth + col)) (by omega)) with ⟨u, hu⟩
    rcases Option.isSome_iff_exists.mp (isSome_getElem? (b := src)
      (i := p.lumaSize + 2 * (row * p.chromaWidth + col) + 1) (by omega)) with ⟨v, hv⟩
    rw [hu, hv]
    rfl

theorem isSome_colour? {rgb : Bytes} (enough : p.lumaSize * 3 ≤ rgb.size) {x y : Nat} (hx : x < p.width)
    (hy : y < p.height) : (p.colour? rgb x y).isSome = true := by
  have lt : p.lumaIndex x y < p.lumaSize := row_add_lt hx hy
  rcases Option.isSome_iff_exists.mp (isSome_getElem? (b := rgb) (i := p.lumaIndex x y * 3) (by omega)) with ⟨r, hr⟩
  rcases Option.isSome_iff_exists.mp (isSome_getElem? (b := rgb) (i := p.lumaIndex x y * 3 + 1) (by omega)) with ⟨g, hg⟩
  rcases Option.isSome_iff_exists.mp (isSome_getElem? (b := rgb) (i := p.lumaIndex x y * 3 + 2) (by omega)) with ⟨b, hb⟩
  unfold colour?
  dsimp only
  rw [hr, hg, hb]
  rfl

/-- There is room for every pixel. -/
theorem putPixel_some {rgb : Bytes} (enough : p.lumaSize * 3 ≤ rgb.size) (room : p.sampleEnd ≤ out.size) {x y : Nat}
    (hx : x < p.width) (hy : y < p.height) :
    ∃ out', p.putPixel rgb x y out = some out' ∧ out'.size = out.size := by
  rcases Option.isSome_iff_exists.mp (isSome_colour? enough hx hy) with ⟨⟨r, g, b⟩, colour⟩
  have lt : p.lumaIndex x y < out.size :=
    Nat.lt_of_lt_of_le (row_add_lt hx hy) ((Nat.le_add_right _ _).trans room)
  rcases Bytes.put?_some lt (clampByte (luma r g b)) with ⟨c, put, size⟩
  have filled : p.putPixel rgb x y out =
      if y % 2 = 0 ∧ x % 2 = 0 ∧ y / 2 < p.chromaHeight ∧ x / 2 < p.chromaWidth then
        p.putCell (y / 2) (x / 2) (clampByte (blueDifference r g b)) (clampByte (redDifference r g b)) c
      else some c := by
    unfold putPixel
    rw [colour]
    dsimp only [bind, Option.bind]
    rw [put]
    rfl
  rw [filled]
  split
  · rename_i corner
    have room : p.sampleEnd ≤ c.size := by rw [size]; exact room
    rcases putCell_some room corner.2.2.1 corner.2.2.2 (clampByte (blueDifference r g b))
      (clampByte (redDifference r g b)) with ⟨d, put', size'⟩
    exact ⟨d, put', size'.trans size⟩
  · exact ⟨c, rfl, size⟩

/-- A picture in colour can be converted. -/
theorem ofRgb_some {rgb : Bytes} (enough : p.lumaSize * 3 ≤ rgb.size) (room : p.sampleEnd ≤ out.size) :
    ∃ out', p.ofRgb rgb out = some out' ∧ out'.size = out.size := by
  have swept : ∃ b, Bytes.sweep p.height (fun y => Bytes.sweep p.width fun x => p.putPixel rgb x y) out = some b ∧
      b.size = out.size := by
    refine Bytes.sweep_some (P := fun _ b => b.size = out.size) rfl ?_
    intro y b hy size
    refine Bytes.sweep_some (P := fun _ b => b.size = out.size) size ?_
    intro x b hx size
    have room : p.sampleEnd ≤ b.size := by rw [size]; exact room
    rcases putPixel_some enough room hx hy with ⟨c, put, same⟩
    exact ⟨c, put, same.trans size⟩
  rcases swept with ⟨b, swept, size⟩
  refine ⟨p.padTail b, ?_, (size_padTail (by rw [size]; exact room)).trans size⟩
  unfold ofRgb
  rw [swept]
  rfl

end PlaneMap

/-! ## Converters -/

namespace Converter

/-- Whether a source has all the samples of a picture of `g`. -/
def Source.Fits (g : Geometry) : Source → Prop
  | .semiPlanar420 data => data.size = g.pixels * 3 / 2
  | .packed422 data | .planar422 data => data.size = g.pixels * 2
  | .rgb data => data.size = g.pixels * 3

/-- The bytes of a source. -/
def Source.data : Source → Bytes
  | .semiPlanar420 data | .packed422 data | .planar422 data | .rgb data => data

/-- How much of a source the samples of a picture of `g` take up. -/
def Source.extent (g : Geometry) : Source → Nat
  | .semiPlanar420 _ => g.pixels + 2 * (g.width / 2 * (g.height / 2))
  | .packed422 _ => g.pixels * 2
  | .planar422 _ => g.pixels + 2 * (g.width / 2 * g.height)
  | .rgb _ => g.pixels * 3

/-- A buffer with room for a picture is filled from a source that is large enough, and keeps its length. -/
theorem fill_some_of_extent {g : Geometry} (layout : Layout) {source : Source} {out : Bytes}
    (enough : source.extent g ≤ source.data.size)
    (room : ({ width := g.width, height := g.height, layout } : PlaneMap).sampleEnd ≤ out.size) :
    ∃ out', fill g layout source out = some out' ∧ out'.size = out.size := by
  cases source with
  | semiPlanar420 data => exact PlaneMap.ofSemiPlanar420_some enough room
  | packed422 data => exact PlaneMap.ofPacked422_some enough room
  | planar422 data => exact PlaneMap.ofPlanar422_some enough room
  | rgb data => exact PlaneMap.ofRgb_some enough room

/-- A buffer of the length of a picture is filled, and keeps its length. -/
theorem fill_some {g : Geometry} (layout : Layout) {source : Source} {out : Bytes} (fits : source.Fits g)
    (size : out.size = g.pixels * 3 / 2) : ∃ out', fill g layout source out = some out' ∧ out'.size = out.size := by
  have cells : 4 * (g.width / 2 * (g.height / 2)) ≤ g.pixels :=
    PlaneMap.four_cells_le { width := g.width, height := g.height, layout }
  refine fill_some_of_extent layout ?_ ?_
  · -- The chroma planes of a 4:2:2 frame are not larger than its luma plane.
    have plane : 2 * (g.width / 2 * g.height) ≤ g.pixels := by
      rw [← Nat.mul_assoc]
      exact Nat.mul_le_mul_right g.height (Nat.mul_div_le g.width 2)
    cases source with
    | rgb data => exact Nat.le_of_eq fits.symm
    | packed422 data => exact Nat.le_of_eq fits.symm
    | planar422 data =>
      have fits : data.size = g.pixels * 2 := fits
      change g.pixels + 2 * (g.width / 2 * g.height) ≤ data.size
      omega
    | semiPlanar420 data =>
      have fits : data.size = g.pixels * 3 / 2 := fits
      change g.pixels + 2 * (g.width / 2 * (g.height / 2)) ≤ data.size
      omega
  · rw [size]
    change g.pixels + 2 * (g.width / 2 * (g.height / 2)) ≤ g.pixels * 3 / 2
    omega

/-- A converter for pictures whose length fits a word, with an arena of that length or none. -/
structure Sound (c : Converter) : Prop where
  fits : c.geometry.pixels * 3 < wordLimit
  arena : ∀ arena, c.arena = some arena → arena.size = c.geometry.pixels * 3 / 2

/-- A converter that was created is sound, for the size and the layout that it was created for. -/
theorem create_sound {g : Geometry} {layout : Layout} {j j' : Journal} {memory : Memory} {c : Converter}
    (h : create g layout j memory = (.ok c, j')) : c.Sound ∧ c.geometry = g ∧ c.layout = layout := by
  unfold create allocate at h
  cases len : g.len420? with
  | none =>
    rw [len] at h
    cases h
  | some n =>
    rcases Geometry.len420?_eq_some_iff.mp len with ⟨fits, rfl⟩
    simp only [len, Attempt.ofOption, bind, Except.bind, pure, Except.pure] at h
    split at h
    · cases h
    · rename_i arena held
      cases h
      refine ⟨⟨fits, ?_⟩, rfl, rfl⟩
      intro arena' same
      cases same
      split at held
      · cases held
        exact Array.size_replicate
      · cases held
    · cases h
      exact ⟨⟨fits, nofun⟩, rfl, rfl⟩

/-- A format accepts the lengths of its frames. -/
theorem acceptsLength_eq {g : Geometry} (fits : g.pixels * 3 < wordLimit) (f : FrameFormat) (len : Nat) :
    f.acceptsLength len g = .ok (match f with
      | .semiPlanar420 => len == g.pixels * 3 / 2
      | .packed422 | .planar422 => len == g.pixels * 2
      | .compressed => FrameFormat.startOfImage.size ≤ len) := by
  rcases g.lengths_of_fits fits with ⟨len420, len422⟩
  unfold FrameFormat.acceptsLength
  rw [len420, len422]
  cases f <;> rfl

/-- A frame of an accepted length has all the samples that its format promises, or decoding it is refused. -/
theorem source_cases {c : Converter} (fits : c.geometry.pixels * 3 < wordLimit) {raw : Bytes} {f : FrameFormat}
    (accepted : f.acceptsLength raw.size c.geometry = .ok true) :
    (∃ cause, c.source raw f = Attempt.refuse (.decode cause)) ∨
    (c.source raw f = .ok none ∧ raw.size = c.geometry.pixels * 3 / 2) ∨
    ∃ source, c.source raw f = .ok (some source) ∧ source.Fits c.geometry := by
  rw [acceptsLength_eq fits] at accepted
  cases f with
  | semiPlanar420 =>
    have size : raw.size = c.geometry.pixels * 3 / 2 := by simpa using accepted
    right
    unfold source
    dsimp only
    split
    · exact .inl ⟨rfl, size⟩
    · exact .inr ⟨_, rfl, size⟩
  | packed422 =>
    have size : raw.size = c.geometry.pixels * 2 := by simpa using accepted
    exact .inr (.inr ⟨_, rfl, size⟩)
  | planar422 =>
    have size : raw.size = c.geometry.pixels * 2 := by simpa using accepted
    exact .inr (.inr ⟨_, rfl, size⟩)
  | compressed =>
    unfold source
    dsimp only
    cases c.decode c.geometry raw with
    | error cause => exact .inl ⟨cause, rfl⟩
    | ok picture => exact .inr (.inr ⟨_, rfl, picture.size_samples⟩)

/-- What a conversion leaves of a converter. -/
structure Kept (c c' : Converter) : Prop where
  geometry : c'.geometry = c.geometry
  layout : c'.layout = c.layout
  decode : c'.decode = c.decode
  sound : c'.Sound

/-- A sound converter reaches outside no buffer: it refuses a frame and stays as it is, or answers with a picture of
the right length and stays sound. The journal has no part in it. -/
theorem Sound.convert {c : Converter} (h : c.Sound) (raw : Bytes) (f : FrameFormat) :
    (∃ e, ∀ j, c.convert raw f j = (Attempt.refuse e, c, j)) ∨
    ∃ frame c', Kept c c' ∧ frame.bytes.size = c.geometry.pixels * 3 / 2 ∧
      ∀ j, ∃ j', c.convert raw f j = (.ok frame, c', j') := by
  have kept : Kept c c := ⟨rfl, rfl, rfl, h⟩
  unfold Converter.convert
  rcases accepted : f.acceptsLength raw.size c.geometry with failure | _ | _
  · rw [acceptsLength_eq h.fits] at accepted
    cases accepted
  · exact .inl ⟨_, fun j => rfl⟩
  · rcases source_cases h.fits accepted with ⟨cause, refused⟩ | ⟨whole, size⟩ | ⟨source, found, fits⟩
    · rw [refused]
      exact .inl ⟨_, fun j => rfl⟩
    · rw [whole]
      exact .inr ⟨_, c, kept, size, fun j => ⟨j, rfl⟩⟩
    · rw [found]
      dsimp only
      right
      -- The picture goes to the arena, or to a buffer of its own if there is none.
      cases ha : c.arena with
      | some arena =>
        rcases fill_some c.layout fits (h.arena arena ha) with ⟨bytes, filled, size⟩
        have size := size.trans (h.arena arena ha)
        refine ⟨{ holder := .arena, bytes }, { c with arena := some bytes }, ⟨rfl, rfl, rfl, h.fits, ?_⟩, size, ?_⟩
        · intro arena' same
          cases same
          exact size
        · intro j
          dsimp only
          rw [filled]
          exact ⟨j, rfl⟩
      | none =>
        have len420 := (c.geometry.lengths_of_fits h.fits).1
        have buffer : (Bytes.fill (c.geometry.pixels * 3 / 2) 0).size = c.geometry.pixels * 3 / 2 := Array.size_replicate
        rcases fill_some c.layout fits buffer with ⟨bytes, filled, size⟩
        refine ⟨{ holder := .fresh, bytes }, { c with arena := none, noted := true }, ⟨rfl, rfl, rfl, h.fits, nofun⟩,
          size.trans buffer, ?_⟩
        intro j
        dsimp only
        rw [len420]
        dsimp only [Attempt.ofOption]
        rw [filled]
        exact ⟨_, rfl⟩

end Converter

end Camcorder
