import Mathlib
import Camcorder.Proofs.Capture.Frames

/-!
# What a call comes to

A recorder is started, given frames and stopped. For each of these calls there is one lemma that says all it can do to
the recorder, whatever the backend and the container are: `Recorder.start_cases`, `Recorder.write_cases` and
`Recorder.stop_cases`. A start or a frame that does not fit the state does nothing.
-/

namespace Camcorder

namespace Recorder

variable {β σ γ : Type} [Coder σ] {r : Recorder β σ γ} {x : Recording σ γ}

/-! ## Starting -/

section Starting

variable [Backend β σ]

/-- A recorder that is not idle does not start: it says so, and stays as it is. -/
theorem start_busy (busy : r.state ≠ .idle) (startedAt : Timestamp) (s : Surroundings) :
    r.start startedAt s = (.ok false, r, s.note (.startIgnored r.state.word)) := by
  unfold start
  rw [if_neg busy]

/-- A recorder that is started has a recording from then on, or stays as it was but for what the attempt did to the
backend. -/
theorem start_cases (idle : r.state = .idle) (startedAt : Timestamp) (s : Surroundings) :
    (∃ failure a s', (r.openRecording startedAt s).1 = .error failure ∧ a ≠ .ok true ∧
      r.start startedAt s = (a, { r with backend := (r.openRecording startedAt s).2.1 }, s')) ∨
    ∃ x b s', r.openRecording startedAt s = (.ok x, b, s') ∧ x.converter.Sound ∧
      r.start startedAt s = (.ok true, { r with backend := b, recording := some x, state := .recording }, s') := by
  unfold start
  rw [if_pos idle]
  rcases opened : r.openRecording startedAt s with ⟨(e | f) | x, b, s'⟩
  · left
    exact ⟨_, .ok false, _, rfl, nofun, rfl⟩
  · left
    exact ⟨_, Attempt.halt f, _, rfl, nofun, rfl⟩
  · right
    obtain ⟨_, _, _, _, converter, _, _, created, rfl⟩ := openRecording_ok opened
    obtain ⟨sound, _, _⟩ := Converter.create_sound created
    exact ⟨_, b, s', rfl, ⟨sound.fits, sound.arena⟩, rfl⟩

end Starting

variable [Container γ]

/-! ## Frames -/

/-- A recorder that does not record passes a frame by. -/
theorem write_elsewhere (state : r.state ≠ .recording) (raw : Bytes) (hint : Option FrameFormat) (clock : Readings)
    (s : Surroundings) : r.write raw hint clock s = (.ok (), r, s.note (.frameIgnored r.state.word)) := by
  unfold write
  split
  · contradiction
  · contradiction
  · rfl

/-- A recorder that records receives the frame and processes it. -/
theorem write_recording (state : r.state = .recording) (held : r.recording = some x) (raw : Bytes)
    (hint : Option FrameFormat) (clock : Readings) (s : Surroundings) :
    r.write raw hint clock s = r.receive.process x raw hint clock s := by
  unfold write
  rw [state, held]

/-- What the encoder answers for a frame, if the frame reaches it. -/
def submission? (r : Recorder β σ γ) (raw : Bytes) (hint : Option FrameFormat) (clock : Readings) (s : Surroundings) :
    Option (Attempt Submission) :=
  match r.state, r.recording with
  | .recording, some x =>
    match r.receive.prepare x raw hint s with
    | (.ok (some frame), _, x, _) => some (offered x frame.bytes clock.now).1
    | _ => none
  | _, _ => none

/-- A frame that comes while a recorder records is counted as received, and under its fate. The recording goes on,
with the instance that its encoder had. -/
theorem write_cases (state : r.state = .recording) (held : r.recording = some x) (sound : x.converter.Sound)
    (raw : Bytes) (hint : Option FrameFormat) (clock : Readings) (s : Surroundings) :
    ∃ a counters x' dumps s' fate,
      r.write raw hint clock s = (a, { r with counters, recording := some x', dumps }, s') ∧
      x'.converter.Sound ∧ x'.encoder.isAllocated = x.encoder.isAllocated ∧
      counters.frames = (r.receive.counters.count fate).frames ∧
      (fate = .lost ↔ ∃ failure, r.submission? raw hint clock s = some (.error failure)) := by
  rw [write_recording state held]
  unfold submission? process
  rcases prepare_cases (β := β) sound raw hint with ⟨fate, early, dropped⟩ | ⟨frame, converter, kept, _, became⟩
  · -- The frame met its fate before the encoder heard of it.
    obtain ⟨dumps, s', prepared, _⟩ := dropped r.receive s
    refine ⟨.ok (), r.receive.counters.count fate, x, dumps, s', fate, ?_, sound, rfl, rfl, ?_⟩
    · rw [prepared]
      rfl
    · rw [state, held]
      dsimp only
      rw [prepared]
      rcases early with rfl | rfl | rfl <;> simp
  · -- Its fate is what the encoder answers.
    obtain ⟨s', prepared, _⟩ := became r.receive s
    obtain ⟨a, counters, x', s'', encoded, same, allocated, frames⟩ :=
      r.receive.encode_frames { x with converter } frame clock s'
    refine ⟨a, counters, x', r.dumps, s'', _, ?_, ?_, allocated, frames, ?_⟩
    · rw [prepared]
      exact encoded
    · rw [same]
      exact kept.sound
    · rw [state, held]
      dsimp only
      rw [prepared, Fate.ofSubmission_eq_lost_iff]
      simp

/-! ## Stopping -/

variable [Backend β σ]

/-- Whatever becomes of the samples, a recording that is finished closes its encoder once. Its statistics count what
the recorder counted. -/
theorem close_cases (r : Recorder β σ γ) (x : Recording σ γ) (now : Nat) (elapsed : Float) (s : Surroundings) :
    ∃ (a : Attempt Statistics) (counters : Counters) (e : Encoder σ) (s' : Surroundings),
      r.close x now elapsed s = (a, { r with backend := (e.close r.backend).2.2, counters }, s') ∧
      e.isAllocated = x.encoder.isAllocated ∧ counters.frames = r.counters.frames ∧
      ((∃ f, a = Attempt.halt f) ∨ ∃ statistics, a = .ok statistics ∧ statistics.counters = counters) := by
  have allocated := x.encoder.drain_isAllocated true ({ writer := x.writer, around := s } : WritingDesk γ) now
  unfold close
  rcases drained : x.encoder.drain true ({ writer := x.writer, around := s } : WritingDesk γ) now with
    ⟨(e | f) | tally, encoder, desk⟩
  · rw [drained] at allocated
    exact ⟨_, _, encoder, _, rfl, allocated, rfl, .inr ⟨_, rfl, rfl⟩⟩
  · -- The encoder is given up, which closes it all the same.
    rw [drained] at allocated
    refine ⟨Attempt.halt f, r.counters, encoder,
      { desk.around with journal := (encoder.discard r.backend desk.around.journal).2 }, ?_, allocated, rfl, .inl ⟨f, rfl⟩⟩
    rw [← encoder.discard_eq_close r.backend desk.around.journal]
  · rw [drained] at allocated
    exact ⟨_, _, encoder, _, rfl, allocated, rfl, .inr ⟨_, rfl, rfl⟩⟩

/-- Where there is no recording, a stop has nothing to say. -/
theorem stop_elsewhere (state : r.state ≠ .recording) (now : Nat) (elapsed : Float) (s : Surroundings) :
    r.stop now elapsed s = (.ok none, { r with state := .stopped }, s) := by
  cases r with
  | mk settings backend decode memory state' recording counters dumps =>
    cases state' with
    | idle => rfl
    | recording => exact absurd rfl state
    | stopped => rfl

/-- The end of a recording. -/
theorem stop_cases (state : r.state = .recording) (held : r.recording = some x) (now : Nat) (elapsed : Float)
    (s : Surroundings) :
    ∃ (a : Attempt Statistics) (counters : Counters) (e : Encoder σ) (s' : Surroundings),
      r.stop now elapsed s = (a.map some,
        { r with state := .stopped, recording := none, backend := (e.close r.backend).2.2, counters }, s') ∧
      e.isAllocated = x.encoder.isAllocated ∧ counters.frames = r.counters.frames ∧
      ((∃ f, a = Attempt.halt f) ∨ ∃ statistics, a = .ok statistics ∧ statistics.counters = counters) := by
  obtain ⟨a, counters, e, s', closed, rest⟩ :=
    close_cases { r with state := .stopped, recording := none } x now elapsed s
  refine ⟨a, counters, e, s', ?_, rest⟩
  unfold stop
  rw [state, held]
  dsimp only
  rw [closed]

/-- After a stop the recorder is stopped, whatever happened. -/
theorem state_stop (r : Recorder β σ γ) (now : Nat) (elapsed : Float) (s : Surroundings) :
    (r.stop now elapsed s).2.1.state = .stopped := by
  by_cases state : r.state = .recording
  · cases held : r.recording with
    | some x =>
      obtain ⟨_, _, _, _, stopped, _⟩ := stop_cases state held now elapsed s
      rw [stopped]
    | none =>
      unfold stop
      rw [state, held]
  · rw [stop_elsewhere state]

/-- A recorder that is given up is stopped if it records. -/
theorem discard_recording (state : r.state = .recording) (now : Nat) (s : Surroundings) :
    r.discard now s = (r.stop now 0.0 (s.note .abandoned)).2 := by
  unfold discard isRecording
  rw [state]
  rfl

/-- Where nothing is recorded there is nothing to abandon. -/
theorem discard_elsewhere (state : r.state ≠ .recording) (now : Nat) (s : Surroundings) : r.discard now s = (r, s) := by
  unfold discard isRecording
  rw [if_neg (by simpa using state)]

/-- A recorder that was given up records no more. -/
theorem state_discard (r : Recorder β σ γ) (now : Nat) (s : Surroundings) :
    (r.discard now s).1.state = if r.state = .recording then .stopped else r.state := by
  by_cases state : r.state = .recording
  · rw [discard_recording state, if_pos state]
    exact state_stop r now 0.0 _
  · rw [discard_elsewhere state, if_neg state]

end Recorder

end Camcorder
