import Mathlib
import Camcorder.Encoding.Avc
import Camcorder.Picture.Converter
import Camcorder.Proofs.Encoding.Requests

/-!
# The sizes of a session

A session is granted whatever has even dimensions and rates that are not zero; nothing bounds them from above.
`Encoder.sizes_exact_iff` says which of the sizes that are computed from a granted format always fit their words, when
the others do, and what becomes of an instance and of a converter where one does not.
-/

namespace Camcorder

theorem halfWord?_eq_some_iff {m n : Nat} : halfWord? m = some n ↔ m < halfWordLimit ∧ n = m := by
  unfold halfWord?
  split
  · rename_i fits
    exact ⟨fun same => ⟨fits, (Option.some_inj.mp same).symm⟩, fun both => both.2 ▸ rfl⟩
  · rename_i tooMuch
    exact ⟨nofun, fun both => absurd both.1 tooMuch⟩

theorem halfWord?_eq_none_iff {m : Nat} : halfWord? m = none ↔ halfWordLimit ≤ m := by
  rw [← Nat.not_lt, ← not_iff_not, not_not, ← ne_eq, Option.ne_none_iff_exists']
  exact ⟨fun ⟨_, same⟩ => (halfWord?_eq_some_iff.mp same).1, fun fits => ⟨m, halfWord?_eq_some_iff.mpr ⟨fits, rfl⟩⟩⟩

theorem Geometry.len420?_eq_none_iff {g : Geometry} : g.len420? = none ↔ wordLimit ≤ g.pixels * 3 := by
  rw [← Nat.not_lt, ← not_iff_not, not_not, ← ne_eq, Option.ne_none_iff_exists']
  exact ⟨fun ⟨_, same⟩ => (len420?_eq_some_iff.mp same).1, fun fits => ⟨_, len420?_eq_some_iff.mpr ⟨fits, rfl⟩⟩⟩

namespace StreamFormat

/-- The number of pictures from one key picture to the next; `none` if a 32-bit word cannot hold it. -/
def keyFramePeriod? (f : StreamFormat) : Option Nat := halfWord? (max f.frameRate 1 * max f.keyFrameSeconds 1)

/-- The sizes that are computed for a stream are exact. -/
structure Exact (f : StreamFormat) : Prop where
  pixels : f.geometry.pixels < wordLimit
  len420 : f.geometry.len420? = some (f.width * f.height * 3 / 2)
  len422 : f.geometry.len422? = some (f.width * f.height * 2)
  input : f.inputLength? = f.geometry.len420?
  period : f.keyFramePeriod? = some (f.frameRate * f.keyFrameSeconds)

/-- What an encoder session grants: dimensions that are even, and numbers that are not zero. -/
structure Granted (f : StreamFormat) (r : StreamRequest) : Prop where
  width : f.width = r.width ∧ f.width ≠ 0 ∧ f.width % 2 = 0
  height : f.height = r.height ∧ f.height ≠ 0 ∧ f.height % 2 = 0
  frameRate : f.frameRate = r.frameRate ∧ f.frameRate ≠ 0
  keyFrameSeconds : f.keyFrameSeconds = max r.keyFrameSeconds 1

theorem granted_of_grant {name : String} {supported : List Layout} {r : StreamRequest} {f : StreamFormat}
    (granted : Encoder.grant name supported r = .ok f) : f.Granted r := by
  unfold Encoder.grant at granted
  split at granted
  · cases granted
  rename_i nonzero
  split at granted
  · cases granted
  rename_i even
  split at granted
  · cases granted
  rename_i rates
  split at granted
  · cases granted
  · cases granted
    push Not at nonzero even rates
    exact ⟨⟨rfl, nonzero.1, even.1⟩, ⟨rfl, nonzero.2, even.2⟩, ⟨rfl, rates.2⟩, rfl⟩

theorem Granted.geometry {f : StreamFormat} {r : StreamRequest} (h : f.Granted r) :
    f.geometry = { width := r.width, height := r.height } := by
  unfold StreamFormat.geometry
  rw [h.width.1, h.height.1]

theorem Granted.period {f : StreamFormat} {r : StreamRequest} (h : f.Granted r) :
    max f.frameRate 1 * max f.keyFrameSeconds 1 = r.frameRate * max r.keyFrameSeconds 1 := by
  obtain ⟨rate, positive⟩ := h.frameRate
  rw [max_eq_left (Nat.one_le_iff_ne_zero.mpr positive), rate, h.keyFrameSeconds, max_eq_left (le_max_right _ _)]

end StreamFormat

/-- A converter is not made if the size of its arena does not fit a word, however much memory there is. -/
theorem Converter.create_overflow_iff (g : Geometry) (layout : Layout) (j : Journal) (memory : Memory) :
    (create g layout j memory).1 = Attempt.halt .overflow ↔ g.len420? = none := by
  unfold create allocate
  cases g.len420? with
  | none => exact ⟨fun _ => rfl, fun _ => rfl⟩
  | some len =>
    refine ⟨?_, nofun⟩
    dsimp only [Attempt.ofOption, bind, Except.bind, pure, Except.pure]
    by_cases room : memory len
    · rw [if_pos room]
      nofun
    · rw [if_neg room]
      nofun

/-- An instance for dimensions that are granted comes to nothing by an overflow if the period of its key pictures, or
with a compressor the length of a picture, does not fit its word. -/
theorem Avc.create_overflow_iff {ε : Type} [Compressor ε] {f : StreamFormat} {r : StreamRequest} (h : f.Granted r) :
    (create f : Attempt (Instance ε)) = Attempt.halt .overflow ↔
      f.keyFramePeriod? = none ∨
      f.inputLength? = none ∧ ∃ period, f.keyFramePeriod? = some period ∧
        ∃ compressor : ε, Compressor.create f period = .ok compressor := by
  have codable : ¬(f.width = 0 ∨ f.height = 0 ∨ f.width % 2 ≠ 0 ∨ f.height % 2 ≠ 0) := by
    push Not
    exact ⟨h.width.2.1, h.height.2.1, h.width.2.2, h.height.2.2⟩
  unfold create StreamFormat.keyFramePeriod?
  rw [if_neg codable]
  cases halfWord? (max f.frameRate 1 * max f.keyFrameSeconds 1) with
  | none => exact ⟨fun _ => .inl rfl, fun _ => rfl⟩
  | some period =>
    dsimp only [Attempt.ofOption, bind, Except.bind]
    rcases made : (Compressor.create f period : Except String ε) with reason | compressor
    · refine ⟨nofun, ?_⟩
      rintro (none | ⟨_, period', same, compressor, other⟩)
      · cases none
      · cases same
        rw [made] at other
        cases other
    · cases f.inputLength? with
      | none => exact ⟨fun _ => .inr ⟨rfl, period, rfl, compressor, made⟩, fun _ => rfl⟩
      | some length =>
        refine ⟨nofun, ?_⟩
        rintro (none | ⟨none, _⟩)
        · cases none
        · cases none

namespace Encoder

variable {σ β : Type} [Backend β σ]

/-- The format that a configured encoder has was granted. -/
theorem granted_of_configure {b : β} {r : StreamRequest} {f : StreamFormat} {e : Encoder σ} {j j' : Journal}
    (configured : ({} : Encoder σ).configure b r j = (.ok f, e, j')) : f.Granted r := by
  unfold configure at configured
  rw [if_pos rfl] at configured
  dsimp only at configured
  split at configured
  · rename_i granted
    cases configured
    exact StreamFormat.granted_of_grant granted
  · cases configured

/-- **Which sizes of a session are exact.** A session was configured for dimensions of 32 bits. The number of pixels fits
a word, and a 4:2:0 frame is as long as an input picture. The length of a 4:2:2 frame fits if twice the number of pixels
does, that of a 4:2:0 frame if three times that number does, and the period of the key pictures if the frame rate times
the seconds between them fits 32 bits; where one does not, the length of a 4:2:0 frame stops the converter, and it or
the period an instance of the H.264 backend. -/
theorem sizes_exact_iff {b : β} {r : StreamRequest} (width : r.width < halfWordLimit) (height : r.height < halfWordLimit)
    {f : StreamFormat} {e : Encoder σ} {j j' : Journal}
    (configured : ({} : Encoder σ).configure b r j = (.ok f, e, j')) :
    let pixels := r.width * r.height
    let period := r.frameRate * max r.keyFrameSeconds 1
    (f.geometry.pixels = pixels ∧ pixels < wordLimit) ∧ f.inputLength? = f.geometry.len420? ∧
      (f.geometry.len422? = some (pixels * 2) ↔ pixels * 2 < wordLimit) ∧
      (f.geometry.len420? = some (pixels * 3 / 2) ↔ pixels * 3 < wordLimit) ∧
      (f.keyFramePeriod? = some period ↔ period < halfWordLimit) ∧
      (f.Exact ↔ pixels * 3 < wordLimit ∧ period < halfWordLimit) ∧
      (∀ layout j memory,
        (Converter.create f.geometry layout j memory).1 = Attempt.halt .overflow ↔ wordLimit ≤ pixels * 3) ∧
      ∀ (ε : Type) [Compressor ε], (Avc.create f : Attempt (Avc.Instance ε)) = Attempt.halt .overflow ↔
        halfWordLimit ≤ period ∨
        period < halfWordLimit ∧ wordLimit ≤ pixels * 3 ∧
          ∃ compressor : ε, Compressor.create f period = .ok compressor := by
  intro pixels period
  have granted : f.Granted r := granted_of_configure configured
  have size : f.geometry.pixels = pixels := by rw [granted.geometry, Geometry.pixels]
  have few : pixels < wordLimit := (Nat.mul_lt_mul'' width height).trans_eq rfl
  have same : f.inputLength? = f.geometry.len420? := f.inputLength?_eq
  have computed : f.keyFramePeriod? = halfWord? period := congrArg halfWord? granted.period
  have len422 : f.geometry.len422? = some (pixels * 2) ↔ pixels * 2 < wordLimit := by
    rw [Geometry.len422?_eq_some_iff, size]
    exact and_iff_left rfl
  have len420 : f.geometry.len420? = some (pixels * 3 / 2) ↔ pixels * 3 < wordLimit := by
    rw [Geometry.len420?_eq_some_iff, size]
    exact and_iff_left rfl
  have rate : f.keyFramePeriod? = some period ↔ period < halfWordLimit := by
    rw [computed, halfWord?_eq_some_iff]
    exact and_iff_left rfl
  refine ⟨⟨size, few⟩, same, len422, len420, rate, ?_, ?_, ?_⟩
  · have area : f.width * f.height = pixels := size
    have product : f.frameRate * f.keyFrameSeconds = period := by
      rw [granted.frameRate.1, granted.keyFrameSeconds]
    constructor
    · intro all
      exact ⟨len420.mp (area ▸ all.len420), rate.mp (product ▸ all.period)⟩
    · rintro ⟨fits, short⟩
      refine ⟨size ▸ few, ?_, ?_, same, ?_⟩
      · rw [area]
        exact len420.mpr fits
      · rw [area]
        exact len422.mpr (by omega)
      · rw [product]
        exact rate.mpr short
  · intro layout j memory
    rw [Converter.create_overflow_iff, Geometry.len420?_eq_none_iff, size]
  · intro ε _
    rw [Avc.create_overflow_iff granted, computed, halfWord?_eq_none_iff, same, Geometry.len420?_eq_none_iff, size]
    refine or_congr_right ?_
    constructor
    · rintro ⟨long, n, some, made⟩
      obtain ⟨short, rfl⟩ := halfWord?_eq_some_iff.mp some
      exact ⟨short, long, made⟩
    · rintro ⟨short, long, made⟩
      exact ⟨long, period, halfWord?_eq_some_iff.mpr ⟨short, rfl⟩, made⟩

/-- The greatest frame rate, with a key picture every second. -/
theorem sizes_exact_at_full_rate :
    let r : StreamRequest :=
      { width := 1920, height := 1080, bitrate := 1, frameRate := 0xFFFFFFFF, keyFrameSeconds := 0, layout := none }
    ∃ (f : StreamFormat) (e : Encoder (Avc.Instance Cadence)) (j : Journal),
      r.width < halfWordLimit ∧ r.height < halfWordLimit ∧
      ({} : Encoder (Avc.Instance Cadence)).configure ({} : Avc Cadence) r [] = (.ok f, e, j) ∧ f.Exact := by
  intro r
  let f : StreamFormat :=
    { width := 1920, height := 1080, bitrate := 1, frameRate := 0xFFFFFFFF, keyFrameSeconds := 1, layout := .semiPlanar,
      level := .level40 }
  have configured : ({} : Encoder (Avc.Instance Cadence)).configure ({} : Avc Cadence) r [] =
      (.ok f, { state := .configured, format := some f }, []) := by cbv
  have width : r.width < halfWordLimit := by decide
  have height : r.height < halfWordLimit := by decide
  obtain ⟨_, _, _, _, _, exact, _⟩ := sizes_exact_iff width height configured
  exact ⟨f, _, _, width, height, configured, exact.mpr (by decide)⟩

/-- Two requests that are granted: in one the length of a frame does not fit a word, in the other the period of the key
pictures does not fit 32 bits. Neither comes to an instance, nor the first one to a converter. -/
theorem sizes_overflow :
    let wide : StreamRequest :=
      { width := 1684887088, height := 3649452082, bitrate := 1, frameRate := 1, keyFrameSeconds := 1, layout := none }
    let rare : StreamRequest :=
      { width := 64, height := 48, bitrate := 1, frameRate := 65536, keyFrameSeconds := 65536, layout := none }
    ∃ f f' : StreamFormat,
      (({} : Encoder (Avc.Instance Cadence)).configure ({} : Avc Cadence) wide []).1 = .ok f ∧
      (({} : Encoder (Avc.Instance Cadence)).configure ({} : Avc Cadence) rare []).1 = .ok f' ∧
      ¬f.Exact ∧ ¬f'.Exact ∧ f.geometry.len420? = none ∧ f'.keyFramePeriod? = none ∧
      (Avc.create f : Attempt (Avc.Instance Cadence)) = Attempt.halt .overflow ∧
      (Avc.create f' : Attempt (Avc.Instance Cadence)) = Attempt.halt .overflow ∧
      (Converter.create f.geometry f.layout []).1 = Attempt.halt .overflow := by
  intro wide rare
  let f : StreamFormat :=
    { width := 1684887088, height := 3649452082, bitrate := 1, frameRate := 1, keyFrameSeconds := 1,
      layout := .semiPlanar, level := .level51 }
  let f' : StreamFormat :=
    { width := 64, height := 48, bitrate := 1, frameRate := 65536, keyFrameSeconds := 65536, layout := .semiPlanar,
      level := .level31 }
  have length : f.geometry.len420? = none := by decide
  have period : f'.keyFramePeriod? = none := by decide
  refine ⟨f, f', by cbv, by cbv, ?_, ?_, length, period, by cbv, by cbv, ?_⟩
  · intro all
    cases length.symm.trans all.len420
  · intro all
    cases period.symm.trans all.period
  · exact (Converter.create_overflow_iff f.geometry f.layout [] .ample).mpr length

end Encoder

end Camcorder
