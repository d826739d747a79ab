import Mathlib
import Camcorder.Proofs.Capture.Calls
import Camcorder.Proofs.Capture.Fitting
import Camcorder.Proofs.Capture.Handover
import Camcorder.Proofs.Encoding.AvcPace
import Camcorder.Proofs.Encoding.ExactSizes

/-!
# Recorders that keep going

What could end a recording before its time is that the writer runs out of time stamps. With an H.264 encoder that hands
over at once what it makes of a frame, the writer is given one stamp for each, and makes up one at most: it does not run
out as long as the clock leaves room for the frames that are to come. `Recorder.OnTime` holds before every frame, and
`Recorder.OnTime.write` says that the call for the frame comes to its end.
-/

namespace Camcorder

open Delivery

variable {γ : Type}

theorem Counters.framesReceived_count (c : Counters) (fate : Fate) :
    (c.count fate).framesReceived = c.framesReceived := by
  cases fate <;> rfl

/-- A recorder that started makes pictures of one pixel at least. -/
theorem Recorder.pixels_pos_of_started {β σ : Type} [Coder σ] [Backend β σ] {r r' : Recorder β σ γ}
    {startedAt : Timestamp} {s s' : Surroundings} (idle : r.state = .idle)
    (started : r.start startedAt s = (.ok true, r', s')) : 0 < r.settings.geometry.pixels := by
  rcases start_cases idle startedAt s with ⟨_, a, _, _, refused, failed⟩ | ⟨x, b, s₁, opened, _, _⟩
  · rw [failed] at started
    exact absurd (congrArg Prod.fst started) refused
  · obtain ⟨_, _, _, _, _, _, ready, _, _⟩ := openRecording_ok opened
    obtain ⟨f, e, configured, _, width, height⟩ := openEncoder_ok ready
    have granted := Encoder.granted_of_configure configured
    have wide : r.settings.width ≠ 0 := width ▸ granted.width.2.1
    have high : r.settings.height ≠ 0 := height ▸ granted.height.2.1
    exact Nat.mul_pos (Nat.pos_of_ne_zero wide) (Nat.pos_of_ne_zero high)

variable [Container γ]

namespace Recorder

theorem verdict_eq_ok {answer : Attempt Submission} (answers : ∀ fault, answer ≠ .error (.fault fault)) :
    verdict answer = .ok () := by
  rcases answer with (_ | fault) | _
  · rfl
  · exact absurd rfl (answers fault)
  · rfl

variable {β ε : Type} {f : StreamFormat} {len m k : ℕ} {r : Recorder β (Avc.Instance ε) γ}
  {x : Recording (Avc.Instance ε) γ}

/-- The recorder `r` records `x` and is ready for frame `k`. Its encoder is not behind, the clock did not show `m` yet,
and the writer is not farther than one stamp for each frame behind that. -/
structure OnTime (f : StreamFormat) (len m k : ℕ) (r : Recorder β (Avc.Instance ε) γ)
    (x : Recording (Avc.Instance ε) γ) : Prop where
  length : f.inputLength? = some len
  width : f.width % 2 = 0
  height : f.height % 2 = 0
  state : r.state = .recording
  fitted : r.Fitted f x
  prompt : Avc.Prompt f len x.encoder
  clock : x.encoder.lastPts < m
  writer : x.writer.Below (m + k)
  counted : r.counters.framesReceived = k

variable [Compressor ε]

omit [Container γ] [Compressor ε] in
theorem OnTime.counts (h : OnTime f len m k r x) (fate : Fate) :
    (r.receive.counters.count fate).framesReceived = k + 1 :=
  (Counters.framesReceived_count _ fate).trans (congrArg (· + 1) h.counted)

/-- The encoder has an answer for a picture of the right length, and the writer takes what comes of it. -/
theorem OnTime.exchange (compact : Compressor.Compact ε) (h : OnTime f len m k r x) (room : m + k < wordLimit)
    {picture : Bytes} (fits : picture.size = len) {now : ℕ} (early : now < m) (around : Surroundings) :
    let out := offered x picture now
    let drained := out.2.drain false ({ writer := x.writer, around } : WritingDesk γ) now
    verdict out.1 = .ok () ∧ (∃ tally, drained.1 = .ok tally) ∧ Avc.Prompt f len drained.2.1 ∧
      drained.2.1.lastPts < m ∧ drained.2.2.writer.Below (m + (k + 1)) := by
  intro out drained
  have stamp : (x.encoder.stamp now).1 < m := (x.encoder.stamp_le now).trans_lt (max_lt h.clock early)
  have cut (picture : Bytes) (fits : picture.size = len) :
      (Planes.ofPicture? f.layout f.width f.height picture).isSome = true :=
    Avc.isSome_ofPicture? h.length h.width h.height fits
  obtain ⟨answers, l, single, outcome⟩ := (h.prompt.stamp now).exchange compact h.length cut fits
    (x.encoder.stamp now).1 now ({ writer := x.writer, around } : WritingDesk γ)
  -- What the encoder hands over is one sample at most, and there is a time stamp for it.
  have one := single.one
  have readable : WritingDesk.Readable (m + k) l := by
    intro s hs
    obtain ⟨payload, same⟩ := single.readable s hs
    exact ⟨payload, by omega⟩
  rcases outcome with ⟨_, _, breaks⟩ | ⟨tally, answered, takes, prompt⟩
  · exact absurd breaks (WritingDesk.not_breaks h.writer readable (by omega))
  · have lastPts : drained.2.1.lastPts = (x.encoder.stamp now).1 := by
      calc drained.2.1.lastPts = out.2.lastPts := Encoder.drain_lastPts _ _ _
        _ = (x.encoder.stamp now).2.lastPts := Encoder.submit_lastPts _ _ _
        _ = (x.encoder.stamp now).1 := rfl
    have below : drained.2.2.writer.Below (m + (k + 1)) :=
      (WritingDesk.below_of_takes takes h.writer readable (by omega)).mono (by omega)
    exact ⟨verdict_eq_ok answers, ⟨tally, answered⟩, prompt, lastPts.trans_lt stamp, below⟩

/-- A frame that comes on time is dealt with, and the recorder is ready for the next one. -/
theorem OnTime.write (compact : Compressor.Compact ε) (h : OnTime f len m k r x) (room : m + k < wordLimit)
    (raw : Bytes) (hint : Option FrameFormat) {clock : Readings} (early : clock.now < m) (s : Surroundings) :
    let ended := r.write raw hint clock s
    ended.1 = .ok () ∧ ∃ x', OnTime f len m (k + 1) ended.2.1 x' := by
  intro ended
  obtain ⟨x', fitted⟩ : ∃ x', ended.2.1.Fitted f x' := h.fitted.write h.state raw hint clock s
  have written : ended = r.receive.process x raw hint clock s := write_recording h.state h.fitted.held raw hint clock s
  unfold process at written
  rcases prepare_cases (β := β) h.fitted.converter raw hint with
    ⟨fate, _, dropped⟩ | ⟨frame, converter, _, size, became⟩
  · obtain ⟨dumps, s', prepared, _⟩ := dropped r.receive s
    rw [prepared] at written
    rw [written] at fitted ⊢
    cases fitted.held
    exact ⟨rfl, x, h.length, h.width, h.height, h.state, fitted, h.prompt, h.clock, h.writer.mono (Nat.le_succ _),
      h.counts fate⟩
  · obtain ⟨s', prepared, _⟩ := became r.receive s
    rw [prepared] at written
    have fits : frame.bytes.size = len := size.trans (Option.some.inj (h.fitted.length.symm.trans h.length))
    have submitted := r.receive.submit_eq { x with converter } frame.bytes clock.now s'
    obtain ⟨going, ⟨tally, drained⟩, prompt, lastPts, writer⟩ := h.exchange compact room fits early
      (noteRejected s' r.receive.counters.framesReceived (offered x frame.bytes clock.now).1)
    rw [show verdict (offered { x with converter } frame.bytes clock.now).1 = .ok () from going] at submitted
    obtain ⟨throughput, s'', encoded⟩ := encode_of_drained r.receive submitted (Prod.ext drained rfl)
    rw [written.trans encoded] at fitted ⊢
    cases fitted.held
    exact ⟨rfl, _, h.length, h.width, h.height, h.state, fitted, prompt, lastPts, writer, h.counts _⟩

omit [Container γ] in
/-- A recording begins on time. -/
theorem onTime_of_started {r₀ : Recorder (Avc ε) (Avc.Instance ε) γ} {startedAt : Timestamp}
    {s s' : Surroundings} {r : Recorder (Avc ε) (Avc.Instance ε) γ} (idle : r₀.state = .idle)
    (untouched : r₀.counters.framesReceived = 0) (started : r₀.start startedAt s = (.ok true, r, s')) {m : ℕ}
    (positive : 0 < m) : ∃ f len x, OnTime f len m 0 r x := by
  rcases start_cases idle startedAt s with ⟨_, a, _, _, refused, failed⟩ | ⟨x, b, s₁, opened, _, begun⟩
  · rw [failed] at started
    exact absurd (congrArg Prod.fst started) refused
  · rw [begun] at started
    cases started
    obtain ⟨encoder, layout, j, j', converter, throughput, ready, created, rfl⟩ := openRecording_ok opened
    obtain ⟨f, coder, made, fitted⟩ := fitted_of_opened opened
    obtain ⟨f', e, configured, launched, _, _⟩ := openEncoder_ok ready
    obtain ⟨len, length, width, height, prompt, lastPts⟩ := Avc.prompt_of_opened configured launched
    cases fitted.encoder.format.symm.trans prompt.ready.format
    exact ⟨f, len, _, length, width, height, rfl, fitted, prompt, lastPts.trans_lt positive, nofun, untouched⟩

end Recorder

end Camcorder
