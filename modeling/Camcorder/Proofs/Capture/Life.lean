import Mathlib
import Camcorder.Proofs.Capture.Accounting
import Camcorder.Proofs.Capture.Handover

/-!
# The life of a recorder

A recorder may be started, given frames, stopped and given up in any order, and as often as one likes. A `Life` is a
recorder to which this happens, with what went through it and what it answered.
-/

namespace Camcorder

/-- Something that is done with a recorder, with what the clocks show meanwhile. -/
inductive Use where
  | start (startedAt : Timestamp)
  | write (frame : Incoming)
  | stop (now : Nat) (elapsed : Float)
  /-- The recorder is given up. -/
  | discard (now : Nat)

/-- What a recorder has to say to the one who uses it. -/
inductive Reply where
  | started (answer : Attempt Bool)
  /-- The answer to a frame, and the fate that the counters tell of it. -/
  | written (answer : Attempt Unit) (fate : Option Fate)
  | stopped (answer : Attempt (Option Statistics))
  | discarded

namespace Counters

/-- The fate of the frame that was settled between two states of the counters, if one was. -/
def fate? (before after : Counters) : Option Fate :=
  [.submitted, .unrecognized, .undecodable, .backpressure, .mismatched, .lost].find? fun fate =>
    after.frames = (before.settle (some fate)).frames

/-- The fate of a frame can be told from the counters before and after it. -/
theorem fate?_eq {before after : Counters} {fate : Option Fate}
    (h : after.frames = (before.settle fate).frames) : before.fate? after = fate := by
  unfold fate?
  rw [h]
  -- A settled frame is counted as received, and under one fate only.
  rcases fate with _ | fate
  · simp [settle, count, frames]
  · cases fate <;> simp [settle, count, frames]

end Counters

/-- A frame that comes while a recorder records is settled, and no other. -/
theorem Recorder.Sound.write_settles {β σ γ : Type} [Coder σ] [Container γ] {r : Recorder β σ γ} (h : r.Sound)
    (i : Incoming) (s : Surroundings) :
    ∃ fate, (r.write i.raw i.hint i.clock s).2.1.counters.frames = (r.counters.settle fate).frames := by
  by_cases state : r.state = .recording
  · obtain ⟨x, held, sound⟩ := h state
    obtain ⟨_, _, _, _, _, fate, written, _, _, frames, _⟩ := write_cases state held sound i.raw i.hint i.clock s
    rw [written]
    exact ⟨some fate, frames⟩
  · rw [write_elsewhere state]
    exact ⟨none, rfl⟩

/-- A frame leaves a recorder sound, in the state that it was in. -/
theorem Recorder.Sound.write {β σ γ : Type} [Coder σ] [Container γ] {r : Recorder β σ γ} (h : r.Sound) (i : Incoming)
    (s : Surroundings) :
    (r.write i.raw i.hint i.clock s).2.1.Sound ∧ (r.write i.raw i.hint i.clock s).2.1.state = r.state ∧
      (r.write i.raw i.hint i.clock s).2.1.settings = r.settings := by
  by_cases state : r.state = .recording
  · obtain ⟨x, held, sound⟩ := h state
    obtain ⟨_, _, x', _, _, _, written, sound', _⟩ := write_cases state held sound i.raw i.hint i.clock s
    rw [written]
    exact ⟨fun _ => ⟨x', rfl, sound'⟩, rfl, rfl⟩
  · rw [write_elsewhere state]
    exact ⟨h, rfl, rfl⟩

/-- A recorder in use, what went through it, and its replies so far. -/
structure Life (β σ γ : Type) where
  recorder : Recorder β σ γ
  around : Surroundings := {}
  traffic : Traffic := {}
  replies : List Reply := []

namespace Life

variable {β σ γ : Type} [Coder σ] [Backend β σ] [Container γ]

/-- Uses the recorder once. -/
def step (c : Life β σ γ) : Use → Life β σ γ
  | .start startedAt =>
    let (answer, recorder, around) := c.recorder.start startedAt c.around
    { c with recorder, around, replies := c.replies ++ [.started answer] }
  | .write i =>
    let (answer, recorder, around) := c.recorder.write i.raw i.hint i.clock c.around
    { recorder, around
      traffic := c.recorder.writeTraffic c.traffic i c.around
      replies := c.replies ++ [.written answer (c.recorder.counters.fate? recorder.counters)] }
  | .stop now elapsed =>
    let (answer, recorder, around) := c.recorder.stop now elapsed c.around
    { recorder, around
      traffic := c.recorder.stopTraffic c.traffic now c.around
      replies := c.replies ++ [.stopped answer] }
  | .discard now =>
    let (recorder, around) := c.recorder.discard now c.around
    { recorder, around
      traffic := c.recorder.stopTraffic c.traffic now (c.around.note .abandoned)
      replies := c.replies ++ [.discarded] }

/-- Uses the recorder in every one of these ways, one after the other. -/
def run (c : Life β σ γ) (uses : List Use) : Life β σ γ := uses.foldl step c

/-- A life in two parts. -/
theorem run_append (c : Life β σ γ) (uses more : List Use) : c.run (uses ++ more) = (c.run uses).run more :=
  List.foldl_append

/-- What is kept by every use is kept by all of them together. -/
theorem run_induct {P : Life β σ γ → Prop} (step : ∀ c use, P c → P (c.step use)) {c : Life β σ γ} (h : P c)
    (uses : List Use) : P (c.run uses) := by
  induction uses generalizing c with
  | nil => exact h
  | cons use uses ih => exact ih (step c use h)

/-- What the settings are, and that the recorder is sound, is not changed by using the recorder. -/
theorem step_sound {c : Life β σ γ} (h : c.recorder.Sound) (use : Use) :
    (c.step use).recorder.Sound ∧ (c.step use).recorder.settings = c.recorder.settings := by
  have stop (now : Nat) (elapsed : Float) (s : Surroundings) :
      (c.recorder.stop now elapsed s).2.1.settings = c.recorder.settings := by
    by_cases state : c.recorder.state = .recording
    · obtain ⟨x, held, _⟩ := h state
      obtain ⟨_, _, _, _, stopped, _⟩ := Recorder.stop_cases state held now elapsed s
      rw [stopped]
    · rw [Recorder.stop_elsewhere state]
  cases use with
  | start startedAt =>
    refine ⟨(h.start startedAt c.around).1, ?_⟩
    show (c.recorder.start startedAt c.around).2.1.settings = c.recorder.settings
    by_cases idle : c.recorder.state = .idle
    · rcases Recorder.start_cases idle startedAt c.around with ⟨_, _, _, _, _, started⟩ | ⟨_, _, _, _, _, started⟩
      · rw [started]
      · rw [started]
    · rw [Recorder.start_busy idle]
  | write i =>
    obtain ⟨sound, _, settings⟩ := h.write i c.around
    exact ⟨sound, settings⟩
  | stop now elapsed => exact ⟨(h.stop now elapsed c.around).1, stop now elapsed c.around⟩
  | discard now =>
    show (c.recorder.discard now c.around).1.Sound ∧
      (c.recorder.discard now c.around).1.settings = c.recorder.settings
    by_cases state : c.recorder.state = .recording
    · rw [Recorder.discard_recording state]
      exact ⟨(h.stop now 0.0 _).1, stop now 0.0 _⟩
    · rw [Recorder.discard_elsewhere state]
      exact ⟨h, rfl⟩

end Life

end Camcorder
