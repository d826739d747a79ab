import Mathlib
import Camcorder.Proofs.Picture.Layouts

/-!
# Frames that are recognised

The rules on lengths are written down twice: where a format is recognised, and where a frame is converted. They agree.
A frame whose format was recognised is converted, or else it is a compressed one that cannot be decoded
(`Converter.convert_recognised`).
-/

namespace Camcorder

namespace FrameFormat

/-- A buffer of one of the two lengths is not of the other one, unless it is empty. -/
theorem lengths_apart {g : Geometry} {len420 len422 : Nat} (h420 : g.len420? = some len420)
    (h422 : g.len422? = some len422) (some' : 0 < len422) : len420 ≠ len422 := by
  obtain ⟨_, rfl⟩ := Geometry.len420?_eq_some_iff.mp h420
  obtain ⟨_, rfl⟩ := Geometry.len422?_eq_some_iff.mp h422
  omega

/-- What is found in a buffer, the sizes of frames being words. -/
theorem classify_eq {g : Geometry} {len420 len422 : Nat} (h420 : g.len420? = some len420)
    (h422 : g.len422? = some len422) (data : Bytes) :
    classify data g = .ok (
      if data.size = 0 then none
      else if data.size = len420 then some .semiPlanar420
      else if data.size = len422 then some (if looksPacked data then .packed422 else .planar422)
      else if data.startsWith startOfImage then some .compressed
      else none) := by
  unfold classify
  rw [h420, h422]
  dsimp only [Attempt.ofOption, bind, Except.bind, pure, Except.pure]
  simp only [Array.isEmpty_iff_size_eq_zero, beq_iff_eq]
  split_ifs <;> rfl

/-- A format that is found in a buffer accepts its length. -/
theorem acceptsLength_of_classify {g : Geometry} (fits : g.pixels * 3 < wordLimit) {data : Bytes} {f : FrameFormat}
    (found : classify data g = .ok (some f)) : f.acceptsLength data.size g = .ok true := by
  obtain ⟨len420, len422⟩ := g.lengths_of_fits fits
  rw [Converter.acceptsLength_eq fits]
  unfold classify at found
  rw [len420, len422] at found
  dsimp only [Attempt.ofOption, bind, Except.bind, pure, Except.pure] at found
  split at found
  · cases found
  · split at found
    · rename_i size
      cases found
      exact congrArg Except.ok size
    · split at found
      · rename_i size
        -- Both formats of this length accept it.
        split at found
        · cases found
          exact congrArg Except.ok size
        · cases found
          exact congrArg Except.ok size
      · split at found
        · rename_i start
          cases found
          unfold Bytes.startsWith at start
          have long : startOfImage.size ≤ data.size := by
            simpa using (Bool.and_eq_true_iff.mp start).1
          exact congrArg Except.ok (decide_eq_true long)
        · cases found

/-- The format that is found, or is told, accepts the length of the data. -/
theorem acceptsLength_of_classifyAs {g : Geometry} (fits : g.pixels * 3 < wordLimit) {data : Bytes}
    {hint : Option FrameFormat} {f : FrameFormat} (found : classifyAs data g hint = .ok (some f)) :
    f.acceptsLength data.size g = .ok true := by
  unfold classifyAs at found
  cases hint with
  | none => exact acceptsLength_of_classify fits found
  | some said =>
    dsimp only at found
    rcases accepted : said.acceptsLength data.size g with failure | _ | _
    · rw [accepted] at found
      cases found
    · rw [accepted] at found
      exact acceptsLength_of_classify fits found
    · rw [accepted] at found
      cases found
      exact accepted

end FrameFormat

namespace Converter

variable {c : Converter}

/-- The samples of a frame, whatever the layout they are wanted in. -/
def samples (c : Converter) (raw : Bytes) (f : FrameFormat) : Attempt Source :=
  match f with
  | .semiPlanar420 => .ok (.semiPlanar420 raw)
  | .packed422 => .ok (.packed422 raw)
  | .planar422 => .ok (.planar422 raw)
  | .compressed =>
    match c.decode c.geometry raw with
    | .ok picture => .ok (.rgb picture.samples)
    | .error cause => Attempt.refuse (.decode cause)

/-- How a frame whose format was recognised is converted: it is a compressed one that cannot be decoded, or it becomes a
picture of `len` bytes that shows its samples in this layout. -/
inductive Converts (c : Converter) (layout : Layout) (len : Nat) (raw : Bytes) (f : FrameFormat) :
    Attempt Bytes → Prop where
  | refused (cause : DecodeCause) (compressed : f = .compressed) (undecodable : c.decode c.geometry raw = .error cause) :
      Converts c layout len raw f (Attempt.refuse (.decode cause))
  | made (source : Source) (picture : Bytes) (read : c.samples raw f = .ok source) (size : picture.size = len)
      (shows : (pictureMap c.geometry layout).Shows (source.luma c.geometry) (source.chroma c.geometry) picture) :
      Converts c layout len raw f (.ok picture)

/-- A frame of an accepted length has the samples that its picture needs, or it cannot be decoded. The samples are
converted, unless the frame is a picture already. -/
theorem samples_cases (fits : c.geometry.pixels * 3 < wordLimit) {raw : Bytes} {f : FrameFormat}
    (accepted : f.acceptsLength raw.size c.geometry = .ok true) :
    (∃ cause, f = .compressed ∧ c.decode c.geometry raw = .error cause ∧
      c.source raw f = Attempt.refuse (.decode cause)) ∨
    ∃ source, c.samples raw f = .ok source ∧ source.Fits c.geometry ∧
      ((source = .semiPlanar420 raw ∧ c.layout = .semiPlanar ∧ c.source raw f = .ok none) ∨
        (source.target c.layout = c.layout ∧ c.source raw f = .ok (some source))) := by
  rw [acceptsLength_eq fits] at accepted
  unfold samples source
  cases f with
  | semiPlanar420 =>
    have size : raw.size = c.geometry.pixels * 3 / 2 := by simpa using accepted
    right
    refine ⟨.semiPlanar420 raw, rfl, size, ?_⟩
    cases layout : c.layout with
    | semiPlanar => exact .inl ⟨rfl, rfl, rfl⟩
    | planar => exact .inr ⟨rfl, rfl⟩
  | packed422 =>
    have size : raw.size = c.geometry.pixels * 2 := by simpa using accepted
    exact .inr ⟨.packed422 raw, rfl, size, .inr ⟨rfl, rfl⟩⟩
  | planar422 =>
    have size : raw.size = c.geometry.pixels * 2 := by simpa using accepted
    exact .inr ⟨.planar422 raw, rfl, size, .inr ⟨rfl, rfl⟩⟩
  | compressed =>
    dsimp only
    cases decoded : c.decode c.geometry raw with
    | error cause => exact .inl ⟨cause, rfl, rfl, rfl⟩
    | ok picture => exact .inr ⟨.rgb picture.samples, rfl, picture.size_samples, .inr ⟨rfl, rfl⟩⟩

/-- **A frame whose format was recognised is converted**, or it is a compressed one that cannot be decoded. -/
theorem convert_recognised (sound : c.Sound) {raw : Bytes} {f : FrameFormat}
    (accepted : f.acceptsLength raw.size c.geometry = .ok true) (j : Journal) :
    Converts c c.layout (c.geometry.pixels * 3 / 2) raw f ((c.convert raw f j).1.map Converted.bytes) := by
  obtain ⟨buffer, room, answer⟩ := convert_eq_pictureIn sound raw f
  rw [answer]
  unfold pictureIn
  rw [accepted]
  dsimp only
  rcases samples_cases sound.fits accepted with
    ⟨cause, compressed, undecodable, refused⟩ | ⟨source, read, enough, ⟨rfl, interleaved, whole⟩ | ⟨target, found⟩⟩
  · rw [refused]
    exact .refused cause compressed undecodable
  · -- The frame is the picture.
    have shows := shows_semiPlanar (g := c.geometry) enough
    rw [whole]
    rw [← interleaved] at shows
    exact .made (.semiPlanar420 raw) raw read enough shows
  · obtain ⟨picture, filled, _⟩ := fill_some c.layout enough room
    obtain ⟨_, length, shows, _⟩ := fill_shows filled
    rw [target] at shows
    rw [found]
    dsimp only
    rw [filled]
    exact .made source picture read (length.trans room) shows

end Converter

end Camcorder
