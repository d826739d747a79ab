import Mathlib
import Camcorder.Capture.Recorder
import Camcorder.Mp4.Document
import Camcorder.Encoding.Loopback
import Camcorder.Proofs.Capture.Frames
import Camcorder.Proofs.Picture.Recognition

/-!
# Formats that the camera reports

A frame is recognised by two lengths and by how it begins, and the format that a camera reports is checked by its length
alone. The rules agree whatever the size of the frames is, also where they are empty or of a single pixel
(`FrameFormat.recognition`). So reporting the format that is found anyway makes no difference to a recording
(`Recorder.write_reported`).
-/

namespace Camcorder

theorem Bytes.startsWith_startOfImage (data : Bytes) :
    data.startsWith FrameFormat.startOfImage = true ↔ data[0]? = some 0xFF ∧ data[1]? = some 0xD8 := by
  obtain ⟨l⟩ := data
  match l with
  | [] => decide
  | [a] => simp [Bytes.startsWith, FrameFormat.startOfImage]
  | a :: b :: rest => simp [Bytes.startsWith, FrameFormat.startOfImage]

namespace FrameFormat

variable {g : Geometry} {len420 len422 : Nat} {data : Bytes}

/-- `classify` with its tests of the length in the other order. -/
def classifyReordered (data : Bytes) (g : Geometry) : Attempt (Option FrameFormat) := do
  if data.isEmpty then return none
  if data.size == (← Attempt.ofOption .overflow g.len422?) then
    return some (if looksPacked data then .packed422 else .planar422)
  if data.size == (← Attempt.ofOption .overflow g.len420?) then return some .semiPlanar420
  if Bytes.startsWith data startOfImage then return some .compressed
  return none

/-- The order of the two tests does not matter where both sizes exist. -/
theorem classifyReordered_eq (h420 : g.len420? = some len420) (h422 : g.len422? = some len422) (data : Bytes) :
    classifyReordered data g = classify data g := by
  rw [classify_eq h420 h422]
  unfold classifyReordered
  rw [h420, h422]
  dsimp only [Attempt.ofOption, bind, Except.bind, pure, Except.pure]
  simp only [Array.isEmpty_iff_size_eq_zero, beq_iff_eq]
  by_cases empty : data.size = 0
  · rw [if_pos empty, if_pos empty]
  · have apart : data.size = len422 → data.size ≠ len420 := by
      intro is422 is420
      exact lengths_apart h420 h422 (by omega) (is420.symm.trans is422)
    rw [if_neg empty, if_neg empty]
    by_cases is422 : data.size = len422
    · rw [if_pos is422, if_neg (apart is422), if_pos is422]
    · rw [if_neg is422, if_neg is422]
      split_ifs <;> rfl

/-- Nothing is found in an empty buffer, and in one that neither has a length of a frame nor begins as an image. -/
theorem classify_eq_none_iff (h420 : g.len420? = some len420) (h422 : g.len422? = some len422) (data : Bytes) :
    classify data g = .ok none ↔ data = #[] ∨
      data.size ≠ len420 ∧ data.size ≠ len422 ∧ ¬ (data[0]? = some 0xFF ∧ data[1]? = some 0xD8) := by
  rw [classify_eq h420 h422, ← Bytes.startsWith_startOfImage, ← Array.size_eq_zero_iff, Except.ok.injEq]
  split_ifs <;> simp_all

/-! ## Reported formats -/

/-- A report that the length agrees with is believed. -/
theorem classifyAs_of_accepted {f : FrameFormat} (accepted : f.acceptsLength data.size g = .ok true) :
    classifyAs data g (some f) = .ok (some f) := by
  unfold classifyAs
  dsimp only
  rw [accepted]
  rfl

/-- A report that the length does not agree with is not heeded. -/
theorem classifyAs_of_refused (fits : g.pixels * 3 < wordLimit) {hint : Option FrameFormat}
    (refused : ∀ f, hint = some f → f.acceptsLength data.size g ≠ .ok true) :
    classifyAs data g hint = classify data g := by
  unfold classifyAs
  cases hint with
  | none => rfl
  | some f =>
    obtain ⟨b, answer⟩ : ∃ b, f.acceptsLength data.size g = .ok b := ⟨_, Converter.acceptsLength_eq fits f data.size⟩
    dsimp only
    rw [answer]
    cases b with
    | true => exact absurd answer (refused f rfl)
    | false => rfl

/-- Reporting what would be found anyway changes nothing. -/
theorem classifyAs_classify (fits : g.pixels * 3 < wordLimit) {answer : Option FrameFormat}
    (found : classify data g = .ok answer) : classifyAs data g answer = .ok answer := by
  cases answer with
  | none => exact found
  | some f => exact classifyAs_of_accepted (acceptsLength_of_classify fits found)

end FrameFormat

/-- A recorder records a frame that is reported to be of the format that would be found just as one that is not
reported to be of any. -/
theorem Recorder.write_reported {β σ γ : Type} [Coder σ] [Container γ] {r : Recorder β σ γ} {x : Recording σ γ}
    (held : r.recording = some x) (fits : x.converter.geometry.pixels * 3 < wordLimit) {raw : Bytes} {f : FrameFormat}
    (found : FrameFormat.classify raw x.converter.geometry = .ok (some f)) (clock : Readings) (s : Surroundings) :
    r.write raw (some f) clock s = r.write raw none clock s := by
  have reported : FrameFormat.classifyAs raw x.converter.geometry (some f) = .ok (some f) :=
    FrameFormat.classifyAs_classify fits found
  have unreported : FrameFormat.classifyAs raw x.converter.geometry none = .ok (some f) := found
  -- Only in preparing the frame is the report looked at.
  have prepared : r.receive.prepare x raw (some f) s = r.receive.prepare x raw none s := by
    unfold prepare
    rw [reported, unreported]
  unfold write
  rw [held]
  cases r.state with
  | recording =>
    dsimp only
    unfold process
    rw [prepared]
  | idle => rfl
  | stopped => rfl

namespace FrameFormat

/-- How a buffer is recognised in frames of two lengths, with a report of the camera or without. -/
structure Recognition (g : Geometry) (len420 len422 : Nat) (data : Bytes) (hint : Option FrameFormat) : Prop where
  answers : ∃ answer, classifyAs data g hint = .ok answer
  accepted : ∀ f, classifyAs data g hint = .ok (some f) → f.acceptsLength data.size g = .ok true
  believed : ∀ f, hint = some f → f.acceptsLength data.size g = .ok true → classifyAs data g hint = .ok (some f)
  inferred : (∀ f, hint = some f → f.acceptsLength data.size g ≠ .ok true) → classifyAs data g hint = classify data g
  apart : data ≠ #[] → ¬ (data.size = len420 ∧ data.size = len422)
  reordered : classifyReordered data g = classify data g
  unknown : classify data g = .ok none ↔ data = #[] ∨
    data.size ≠ len420 ∧ data.size ≠ len422 ∧ ¬ (data[0]? = some 0xFF ∧ data[1]? = some 0xD8)
  settled : ∀ answer, classify data g = .ok answer → classifyAs data g answer = .ok answer
  recorded : ∀ {β σ γ : Type} [Coder σ] [Container γ] (r : Recorder β σ γ) (x : Recording σ γ) (f : FrameFormat)
    (clock : Readings) (s : Surroundings), r.recording = some x → x.converter.geometry = g →
    classify data g = .ok (some f) → r.write data (some f) clock s = r.write data none clock s

/-- **How frames are recognised.** Whatever the dimensions, the buffer and the report of the camera are, as long as the
lengths of frames are words: the format that is found accepts the length of the buffer; it is the one that was reported
if that one accepts the length, and otherwise the one that is found without a report. The two lengths differ, so the
order of the tests does not matter. Nothing is found only in an empty buffer, and in one of neither length that does not
begin as a JPEG image does. To report the format that is found anyway makes no difference, to a recording neither. -/
theorem recognition {g : Geometry} {len420 len422 : Nat} (h420 : g.len420? = some len420)
    (h422 : g.len422? = some len422) (data : Bytes) (hint : Option FrameFormat) :
    Recognition g len420 len422 data hint := by
  have fits : g.pixels * 3 < wordLimit := (Geometry.len420?_eq_some_iff.mp h420).1
  refine ⟨classifyAs_ok fits data hint, fun f => acceptsLength_of_classifyAs fits, ?_, classifyAs_of_refused fits, ?_,
    classifyReordered_eq h420 h422 data, classify_eq_none_iff h420 h422 data, fun _ => classifyAs_classify fits, ?_⟩
  · rintro f rfl
    exact classifyAs_of_accepted
  · rintro some' ⟨is420, is422⟩
    have positive : 0 < len422 := by
      rw [← is422]
      exact Array.size_pos_iff.mpr some'
    exact lengths_apart h420 h422 positive (is420.symm.trans is422)
  · rintro β σ γ _ _ r x f clock s held rfl found
    exact Recorder.write_reported held fits found clock s

/-- Two bytes that begin a JPEG image are also a 4:2:2 frame of a single pixel. The report decides. -/
theorem recognition_pixel :
    let g : Geometry := { width := 1, height := 1 }
    g.len420? = some 1 ∧ g.len422? = some 2 ∧ Recognition g 1 2 startOfImage (some .compressed) ∧
      classify startOfImage g = .ok (some .packed422) ∧
      classifyAs startOfImage g (some .compressed) = .ok (some .compressed) := by
  intro g
  have h420 : g.len420? = some 1 := by decide
  have h422 : g.len422? = some 2 := by decide
  exact ⟨h420, h422, recognition h420 h422 startOfImage (some .compressed), by decide +kernel, by decide⟩

end FrameFormat

end Camcorder
