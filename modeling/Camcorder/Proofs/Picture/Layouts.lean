import Mathlib
import Camcorder.Encoding.Compressor
import Camcorder.Proofs.Picture.Arena

/-!
# Layouts hold the same picture

Whether an encoder takes its chroma samples interleaved or in two planes, it gets the same picture of a frame: telling
the samples of the one apart yields the other, and an encoder finds the same planes in both
(`Converter.layouts_agree`). Both pictures show the same source (`Converter.pictureIn_cases`), and a picture has no
other planes than those that show what it shows (`Planes.ofPicture?_shows`).
-/

namespace Camcorder

theorem Bytes.slice?_eq_some {b : Bytes} (start len : Nat) (fits : start + len ≤ b.size) :
    ∃ part, b.slice? start len = some part ∧ part.size = len ∧ ∀ i, i < len → part[i]? = b[start + i]? := by
  refine ⟨b.extract start (start + len), if_pos fits, ?_, ?_⟩
  · rw [Array.size_extract]
    omega
  · intro i inside
    rw [Array.getElem?_extract, if_pos (by omega)]

/-! ## Planes -/

namespace Planes

open Converter

/-- Of interleaved samples every other one belongs to each plane. -/
theorem getElem?_deinterleave (b : Bytes) {k : Nat} (inside : 2 * k + 1 < b.size) :
    (deinterleave b).1[k]? = b[2 * k]? ∧ (deinterleave b).2[k]? = b[2 * k + 1]? := by
  have half : k < b.size / 2 := by omega
  unfold deinterleave
  constructor
  · rw [Array.getElem?_ofFn, dif_pos half, Array.getD_eq_getD_getElem?, Array.getElem?_eq_getElem (by omega)]
    rfl
  · rw [Array.getElem?_ofFn, dif_pos half, Array.getD_eq_getD_getElem?, Array.getElem?_eq_getElem (by omega)]
    rfl

/-- The planes of a picture of `p` have the right sizes, and the luma samples and the chroma cells in their places. -/
structure Show (p : PlaneMap) (sample : Nat → Nat → Option UInt8) (cell : Nat → Nat → Option (UInt8 × UInt8))
    (planes : Planes) : Prop where
  size_y : planes.y.size = p.lumaSize
  size_u : planes.u.size = p.cells
  size_v : planes.v.size = p.cells
  luma : ∀ x y, x < p.width → y < p.height → planes.y[p.lumaIndex x y]? = sample x y
  chroma : ∀ row col, row < p.chromaHeight → col < p.chromaWidth →
    ∃ u v, cell row col = some (u, v) ∧ planes.u[p.cellNumber row col]? = some u ∧
      planes.v[p.cellNumber row col]? = some v

variable {p : PlaneMap} {sample : Nat → Nat → Option UInt8} {cell : Nat → Nat → Option (UInt8 × UInt8)}

/-- There are no two sets of planes that show the same. -/
theorem Show.unique {a b : Planes} (h : a.Show p sample cell) (h' : b.Show p sample cell) : a = b := by
  -- Every place in a plane is that of a cell, and the source has one cell there.
  have chroma {k : Nat} (hk : k < p.cells) : a.u[k]? = b.u[k]? ∧ a.v[k]? = b.v[k]? := by
    obtain ⟨col, row, hc, hr, rfl⟩ := exists_row_add hk
    obtain ⟨u, v, source, first, second⟩ := h.chroma row col hr hc
    obtain ⟨u', v', source', first', second'⟩ := h'.chroma row col hr hc
    rw [source] at source'
    cases source'
    exact ⟨first.trans first'.symm, second.trans second'.symm⟩
  have y : a.y = b.y := by
    apply Array.ext_getElem?
    intro i
    by_cases inside : i < p.lumaSize
    · obtain ⟨x, y, hx, hy, rfl⟩ := exists_row_add inside
      exact (h.luma x y hx hy).trans (h'.luma x y hx hy).symm
    · have sizes := h.size_y.trans h'.size_y.symm
      have size := h.size_y
      rw [Array.getElem?_eq_none (by omega), Array.getElem?_eq_none (by omega)]
  have u : a.u = b.u := by
    apply Array.ext_getElem?
    intro k
    by_cases inside : k < p.cells
    · exact (chroma inside).1
    · have size := h.size_u
      have size' := h'.size_u
      rw [Array.getElem?_eq_none (by omega), Array.getElem?_eq_none (by omega)]
  have v : a.v = b.v := by
    apply Array.ext_getElem?
    intro k
    by_cases inside : k < p.cells
    · exact (chroma inside).2
    · have size := h.size_v
      have size' := h'.size_v
      rw [Array.getElem?_eq_none (by omega), Array.getElem?_eq_none (by omega)]
  cases a
  cases b
  simp only [mk.injEq]
  exact ⟨y, u, v⟩

/-- In whichever layout a picture is, an encoder finds planes in it that show what the picture shows. -/
theorem ofPicture?_shows {g : Geometry} {layout : Layout} {out : Bytes}
    (h : (pictureMap g layout).Shows sample cell out) (room : (pictureMap g layout).sampleEnd ≤ out.size) :
    ∃ planes, ofPicture? layout g.width g.height out = some planes ∧
      planes.Show (pictureMap g .planar) sample cell := by
  have whole : (pictureMap g layout).sampleEnd = g.width * g.height + 2 * (g.width / 2 * (g.height / 2)) := rfl
  obtain ⟨y, sliced, size, same⟩ := Bytes.slice?_eq_some 0 (g.width * g.height) (b := out) (by omega)
  -- The luma plane is the front of the picture in both layouts.
  have luma : ∀ x' y', x' < g.width → y' < g.height → y[y' * g.width + x']? = sample x' y' := by
    intro x' y' hx hy
    obtain ⟨v, source, here⟩ := h.luma x' y' hx hy
    rw [same _ (row_add_lt hx hy), Nat.zero_add, source]
    exact here
  unfold ofPicture?
  cases layout with
  | planar =>
    obtain ⟨u, slicedU, sizeU, sameU⟩ := Bytes.slice?_eq_some (g.width * g.height) (g.width / 2 * (g.height / 2))
      (b := out) (by omega)
    obtain ⟨v, slicedV, sizeV, sameV⟩ := Bytes.slice?_eq_some
      (g.width * g.height + g.width / 2 * (g.height / 2)) (g.width / 2 * (g.height / 2)) (b := out) (by omega)
    refine ⟨{ y, u, v }, ?_, size, sizeU, sizeV, luma, ?_⟩
    · dsimp only
      rw [sliced, slicedU, slicedV]
      rfl
    · intro row col hr hc
      have number := PlaneMap.cellNumber_lt hr hc
      obtain ⟨a, b, source, first, second⟩ := h.chroma row col hr hc
      refine ⟨a, b, source, ?_, ?_⟩
      · rw [sameU _ number]
        exact first
      · rw [sameV _ number]
        exact second
  | semiPlanar =>
    obtain ⟨uv, slicedUV, sizeUV, sameUV⟩ := Bytes.slice?_eq_some (g.width * g.height)
      (2 * (g.width / 2 * (g.height / 2))) (b := out) (by omega)
    have half : uv.size / 2 = g.width / 2 * (g.height / 2) := by omega
    refine ⟨{ y, u := (deinterleave uv).1, v := (deinterleave uv).2 }, ?_, size, ?_, ?_, luma, ?_⟩
    · dsimp only
      rw [sliced, slicedUV]
      rfl
    · exact Array.size_ofFn.trans half
    · exact Array.size_ofFn.trans half
    · intro row col hr hc
      have number : (pictureMap g .planar).cellNumber row col < g.width / 2 * (g.height / 2) :=
        PlaneMap.cellNumber_lt hr hc
      obtain ⟨a, b, source, first, second⟩ := h.chroma row col hr hc
      obtain ⟨even, odd⟩ := getElem?_deinterleave uv (k := (pictureMap g .planar).cellNumber row col) (by omega)
      refine ⟨a, b, source, ?_, ?_⟩
      · rw [even, sameUV _ (by omega)]
        exact first
      · rw [odd, sameUV _ (by omega)]
        exact second

end Planes

/-! ## Pictures -/

namespace Converter

variable {c : Converter}

/-- A converter does without a source where a semi-planar frame need not be converted. Else the source of a frame is
the one it has for a planar picture. -/
theorem source_planar (c : Converter) (raw : Bytes) (f : FrameFormat) :
    (c.source raw f = .ok none ∧ f = .semiPlanar420 ∧ c.layout = .semiPlanar) ∨
    (c.source raw f ≠ .ok none ∧ c.source raw f = ({ c with layout := .planar } : Converter).source raw f ∧
      ∀ source, c.source raw f = .ok (some source) → source.target c.layout = c.layout) := by
  cases f with
  | semiPlanar420 =>
    unfold source
    dsimp only
    cases layout : c.layout with
    | semiPlanar => exact .inl ⟨rfl, rfl, rfl⟩
    | planar =>
      right
      refine ⟨nofun, rfl, ?_⟩
      intro source found
      cases found
      rfl
  | compressed =>
    unfold source
    dsimp only
    right
    -- Whether the frame can be decoded has nothing to do with the layout.
    split
    · refine ⟨nofun, rfl, ?_⟩
      intro source found
      cases found
      rfl
    · exact ⟨nofun, rfl, nofun⟩
  | _ =>
    right
    refine ⟨nofun, rfl, ?_⟩
    intro source found
    cases found
    rfl

/-- A semi-planar frame shows itself. -/
theorem shows_semiPlanar {g : Geometry} {raw : Bytes} (size : raw.size = g.pixels * 3 / 2) :
    (pictureMap g .semiPlanar).Shows (Source.luma g (.semiPlanar420 raw)) (Source.chroma g (.semiPlanar420 raw)) raw := by
  have cells := (pictureMap g .semiPlanar).four_cells_le
  have pixels : (pictureMap g .semiPlanar).lumaSize = g.pixels := rfl
  constructor
  · intro x y hx hy
    have inside : (pictureMap g .semiPlanar).lumaIndex x y < (pictureMap g .semiPlanar).lumaSize := row_add_lt hx hy
    obtain ⟨v, here⟩ := Option.isSome_iff_exists.mp (PlaneMap.isSome_getElem? (b := raw)
      (i := (pictureMap g .semiPlanar).lumaIndex x y) (by omega))
    exact ⟨v, here, here⟩
  · intro row col hr hc
    have number := PlaneMap.cellNumber_lt hr hc
    obtain ⟨⟨_, first⟩, _, second⟩ := PlaneMap.cell_bounds number
    rw [PlaneMap.size_samples] at first second
    obtain ⟨u, hu⟩ := Option.isSome_iff_exists.mp (PlaneMap.isSome_getElem? (b := raw)
      (i := (pictureMap g .semiPlanar).uIndex ((pictureMap g .semiPlanar).cellNumber row col)) (by omega))
    obtain ⟨v, hv⟩ := Option.isSome_iff_exists.mp (PlaneMap.isSome_getElem? (b := raw)
      (i := (pictureMap g .semiPlanar).vIndex ((pictureMap g .semiPlanar).cellNumber row col)) (by omega))
    refine ⟨u, v, ?_, hu, hv⟩
    have hu : raw[g.pixels + 2 * (row * (g.width / 2) + col)]? = some u := hu
    have hv : raw[g.pixels + 2 * (row * (g.width / 2) + col) + 1]? = some v := hv
    unfold Source.chroma
    dsimp only
    rw [hu, hv]
    rfl

/-- Whatever the layout is, a frame is refused for the same reason, or becomes a picture of the same source. -/
theorem pictureIn_cases (fits : c.geometry.pixels * 3 < wordLimit) (raw : Bytes) (f : FrameFormat) :
    (∃ e, ∀ layout buffer, ({ c with layout } : Converter).pictureIn buffer raw f = Attempt.refuse e) ∨
    ∃ source : Source, ∀ layout buffer, buffer.size = c.geometry.pixels * 3 / 2 →
      ∃ picture, ({ c with layout } : Converter).pictureIn buffer raw f = .ok picture ∧
        picture.size = c.geometry.pixels * 3 / 2 ∧
        (pictureMap c.geometry layout).Shows (source.luma c.geometry) (source.chroma c.geometry) picture ∧
        (layout = .planar → (pictureMap c.geometry layout).Padded picture) := by
  rcases accepted : f.acceptsLength raw.size c.geometry with failure | _ | _
  · rw [acceptsLength_eq fits] at accepted
    cases accepted
  · left
    refine ⟨.frameUnrecognized raw.size, ?_⟩
    intro layout buffer
    unfold pictureIn
    rw [accepted]
  · rcases source_cases (c := { c with layout := .planar }) fits accepted with
      ⟨cause, refused⟩ | ⟨whole, _⟩ | ⟨source, found, enough⟩
    · left
      refine ⟨.decode cause, ?_⟩
      intro layout buffer
      rcases source_planar { c with layout } raw f with ⟨_, rfl, _⟩ | ⟨_, same, _⟩
      · cases refused
      · unfold pictureIn
        rw [accepted]
        dsimp only
        rw [same, refused]
        rfl
    · -- A planar picture is never the frame itself.
      rcases source_planar { c with layout := .planar } raw f with ⟨_, _, interleaved⟩ | ⟨some, _⟩
      · cases interleaved
      · exact absurd whole some
    · right
      refine ⟨source, ?_⟩
      intro layout buffer size
      rcases source_planar { c with layout } raw f with ⟨none, rfl, interleaved⟩ | ⟨_, same, target⟩
      · -- The frame is the picture, and its own source.
        cases found
        cases interleaved
        refine ⟨raw, ?_, enough, shows_semiPlanar enough, fun planar => by cases planar⟩
        unfold pictureIn
        rw [accepted]
        dsimp only
        rw [none]
      · obtain ⟨picture, filled, _⟩ := fill_some layout enough size
        obtain ⟨_, length, shows, padded⟩ := fill_shows filled
        rw [target source (same.trans found)] at shows padded
        refine ⟨picture, ?_, length.trans size, shows, fun _ => padded⟩
        unfold pictureIn
        rw [accepted]
        dsimp only
        rw [same, found]
        dsimp only
        rw [filled]
        rfl

/-- A planar picture of a semi-planar one shows what that one shows. -/
theorem shows_of_semiPlanar {g : Geometry} {source : Source} {frame out : Bytes}
    (h : (pictureMap g .semiPlanar).Shows (source.luma g) (source.chroma g) frame)
    (split : (pictureMap g .planar).Shows (Source.luma g (.semiPlanar420 frame)) (Source.chroma g (.semiPlanar420 frame))
      out) : (pictureMap g .planar).Shows (source.luma g) (source.chroma g) out := by
  constructor
  · intro x y hx hy
    obtain ⟨v, first, here⟩ := h.luma x y hx hy
    obtain ⟨v', second, there⟩ := split.luma x y hx hy
    have same : some v = some v' := here.symm.trans second
    cases same
    exact ⟨v, first, there⟩
  · intro row col hr hc
    obtain ⟨u, v, first, hereU, hereV⟩ := h.chroma row col hr hc
    obtain ⟨u', v', second, thereU, thereV⟩ := split.chroma row col hr hc
    have same : Source.chroma g (.semiPlanar420 frame) row col = some (u, v) := by
      have hereU : frame[g.pixels + 2 * (row * (g.width / 2) + col)]? = some u := hereU
      have hereV : frame[g.pixels + 2 * (row * (g.width / 2) + col) + 1]? = some v := hereV
      unfold Source.chroma
      dsimp only
      rw [hereU, hereV]
      rfl
    rw [same] at second
    cases second
    exact ⟨u, v, first, thereU, thereV⟩

/-- **The layout never changes the picture.** Let one converter make semi-planar pictures, and another one planar
pictures of the same geometry. Whatever the format and the bytes of a frame are, both refuse it for the same reason, or
both make a picture of it. Then the one picture is what the other becomes when its chroma samples are told apart, in
whatever buffer; and an encoder finds the same planes in both. -/
theorem layouts_agree {c p : Converter} (sound : c.Sound) (interleaved : c.layout = .semiPlanar)
    (same : Kept { c with layout := .planar } p) (raw : Bytes) (f : FrameFormat) (j j' : Journal) :
    let g := c.geometry
    let semi := (c.convert raw f j).1.map Converted.bytes
    let planar := (p.convert raw f j').1.map Converted.bytes
    (∃ e, semi = Attempt.refuse e ∧ planar = Attempt.refuse e) ∨
    ∃ s t, semi = .ok s ∧ planar = .ok t ∧
      (∀ out, out.size = g.pixels * 3 / 2 → PlaneMap.ofSemiPlanar420 g.width g.height s out = some t) ∧
      ∃ planes, Planes.ofPicture? .semiPlanar g.width g.height s = some planes ∧
        Planes.ofPicture? .planar g.width g.height t = some planes := by
  intro g semi planar
  obtain ⟨buffer, size, answer⟩ := convert_eq_pictureIn sound raw f
  obtain ⟨buffer', size', answer'⟩ := convert_eq_pictureIn (c := { c with layout := .planar })
    ⟨sound.fits, sound.arena⟩ raw f
  have first : semi = ({ c with layout := .semiPlanar } : Converter).pictureIn buffer raw f := by
    rw [← interleaved]
    exact answer j
  have second : planar = ({ c with layout := .planar } : Converter).pictureIn buffer' raw f := by
    rw [← answer' j']
    exact convert_forgets (c := { c with layout := .planar }) ⟨sound.fits, sound.arena⟩ same raw f j' j'
  rcases pictureIn_cases sound.fits raw f with ⟨e, refused⟩ | ⟨source, made⟩
  · left
    exact ⟨e, first.trans (refused _ _), second.trans (refused _ _)⟩
  · right
    obtain ⟨s, fromSemi, length, shows, _⟩ := made .semiPlanar buffer size
    obtain ⟨t, fromPlanar, length', shows', padded⟩ := made .planar buffer' size'
    have room {layout : Layout} {b : Bytes} (size : b.size = g.pixels * 3 / 2) :
        (pictureMap g layout).sampleEnd ≤ b.size := by
      have cells := (pictureMap g layout).four_cells_le
      have pixels : (pictureMap g layout).lumaSize = g.pixels := rfl
      rw [PlaneMap.size_samples]
      omega
    refine ⟨s, t, first.trans fromSemi, second.trans fromPlanar, ?_, ?_⟩
    · intro out outSize
      -- What comes of telling the samples apart shows the source of the planar picture, so it is that picture.
      obtain ⟨u, split, _⟩ := fill_some .planar (show Source.Fits g (.semiPlanar420 s) from length) outSize
      obtain ⟨_, splitSize, splitShows, splitPadded⟩ := fill_shows split
      have equal : u = t :=
        (shows_of_semiPlanar shows splitShows).unique shows' splitPadded (padded rfl)
          (splitSize.trans (outSize.trans length'.symm))
      exact equal ▸ split
    · obtain ⟨a, found, shown⟩ := Planes.ofPicture?_shows shows (room length)
      obtain ⟨b, found', shown'⟩ := Planes.ofPicture?_shows shows' (room length')
      exact ⟨a, found, shown.unique shown' ▸ found'⟩

/-- A frame of 4 × 2 pixels, of which no two bytes are equal. -/
theorem layouts_agree_packed :
    let g : Geometry := { width := 4, height := 2 }
    let c := withoutArena g .semiPlanar
    let p := withoutArena g .planar
    let raw : Bytes := #[1, 2, 3, 4, 5, 6, 7, 8, 9, 10, 11, 12, 13, 14, 15, 16]
    let s : Bytes := #[1, 3, 5, 7, 9, 11, 13, 15, 2, 4, 6, 8]
    let t : Bytes := #[1, 3, 5, 7, 9, 11, 13, 15, 2, 6, 4, 8]
    c.Sound ∧ c.layout = .semiPlanar ∧ Kept { c with layout := .planar } p ∧
      (c.convert raw .packed422 []).1.map Converted.bytes = .ok s ∧
      (p.convert raw .packed422 []).1.map Converted.bytes = .ok t ∧
      ∀ out, out.size = g.pixels * 3 / 2 → PlaneMap.ofSemiPlanar420 g.width g.height s out = some t := by
  intro g c p raw s t
  have fits : g.pixels * 3 < wordLimit := by decide
  have sound : c.Sound := ⟨fits, nofun⟩
  have same : Kept { c with layout := .planar } p := ⟨rfl, rfl, rfl, fits, nofun⟩
  have semi : (c.convert raw .packed422 []).1.map Converted.bytes = .ok s := by decide +kernel
  have planar : (p.convert raw .packed422 []).1.map Converted.bytes = .ok t := by decide +kernel
  refine ⟨sound, rfl, same, semi, planar, ?_⟩
  rcases layouts_agree sound rfl same raw .packed422 [] [] with ⟨e, refused, _⟩ | ⟨s', t', hs, ht, split, _⟩
  · rw [semi] at refused
    cases refused
  · rw [semi] at hs
    rw [planar] at ht
    cases hs
    cases ht
    exact split

end Converter

end Camcorder
