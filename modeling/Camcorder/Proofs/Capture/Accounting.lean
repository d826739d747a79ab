import Mathlib
import Camcorder.Encoding.Scripted
import Camcorder.Mp4.Document
import Camcorder.Proofs.Capture.Calls

/-!
# Every frame is accounted for

Each frame that a recorder takes while it records is counted once as received, and once more under what became of
it, except for a frame that the encoder failed to take: no counter stands for those. So in every state the frames
received are those submitted, those dropped and those lost.
-/

namespace Camcorder

namespace Recorder

variable {β σ γ : Type} [Coder σ]

/-- While a recorder records there is a recording, with a sound converter. -/
def Sound (r : Recorder β σ γ) : Prop := r.state = .recording → ∃ x, r.recording = some x ∧ x.converter.Sound

omit [Coder σ] in
/-- A recorder that does not record is sound. -/
theorem sound_of_ne {r : Recorder β σ γ} (state : r.state ≠ .recording) : r.Sound := fun h => absurd h state

variable [Backend β σ]

/-- A recorder that is started is sound afterwards, and has counted nothing. -/
theorem Sound.start {r : Recorder β σ γ} (h : r.Sound) (startedAt : Timestamp) (s : Surroundings) :
    (r.start startedAt s).2.1.Sound ∧ (r.start startedAt s).2.1.counters = r.counters := by
  by_cases idle : r.state = .idle
  · rcases start_cases idle startedAt s with ⟨_, a, s', _, _, started⟩ | ⟨x, b, s', _, sound, started⟩
    · rw [started]
      refine ⟨sound_of_ne ?_, rfl⟩
      dsimp only
      rw [idle]
      nofun
    · rw [started]
      exact ⟨fun _ => ⟨x, rfl, sound⟩, rfl⟩
  · rw [start_busy idle]
    exact ⟨h, rfl⟩

variable [Container γ]

/-- A recorder that is stopped is sound afterwards, and has counted no frame. -/
theorem Sound.stop {r : Recorder β σ γ} (h : r.Sound) (now : Nat) (elapsed : Float) (s : Surroundings) :
    (r.stop now elapsed s).2.1.Sound ∧ (r.stop now elapsed s).2.1.counters.frames = r.counters.frames := by
  by_cases state : r.state = .recording
  · obtain ⟨x, held, _⟩ := h state
    obtain ⟨_, _, _, _, stopped, _, frames, _⟩ := stop_cases state held now elapsed s
    rw [stopped]
    exact ⟨sound_of_ne nofun, frames⟩
  · rw [stop_elsewhere state]
    exact ⟨sound_of_ne nofun, rfl⟩

end Recorder

/-! ## Runs -/

/-- A call of a recorder, with what the clocks show meanwhile. -/
inductive Call where
  | start (startedAt : Timestamp)
  | write (raw : Bytes) (hint : Option FrameFormat) (clock : Readings)
  | stop (now : Nat) (elapsed : Float)

/-- Whether the call brings a frame. -/
def Call.BringsFrame : Call → Prop
  | .write .. => True
  | _ => False

/-- What a frame of this fate, if there is one, does to the counters. -/
def Counters.settle (c : Counters) : Option Fate → Counters
  | some fate => { c with framesReceived := c.framesReceived + 1 }.count fate
  | none => c

/-- A recorder that is being used, and how many frames its encoder failed to take so far. -/
structure Course (β σ γ : Type) where
  recorder : Recorder β σ γ
  around : Surroundings := {}
  lost : Nat := 0

namespace Course

variable {β σ γ : Type} [Coder σ]

/-- What the encoder answers for the frame that the call brings, if it brings one that reaches the encoder. -/
def answer? (c : Course β σ γ) : Call → Option (Attempt Submission)
  | .write raw hint clock => c.recorder.submission? raw hint clock c.around
  | _ => none

/-- Whether the encoder fails to take a frame. -/
def failures : Option (Attempt Submission) → Nat
  | some (.error _) => 1
  | _ => 0

variable [Backend β σ] [Container γ]

/-- Makes a call, whatever it answers. -/
def step (c : Course β σ γ) (call : Call) : Course β σ γ :=
  let lost := c.lost + failures (c.answer? call)
  match call with
  | .start startedAt =>
    let (_, recorder, around) := c.recorder.start startedAt c.around
    { recorder, around, lost }
  | .write raw hint clock =>
    let (_, recorder, around) := c.recorder.write raw hint clock c.around
    { recorder, around, lost }
  | .stop now elapsed =>
    let (_, recorder, around) := c.recorder.stop now elapsed c.around
    { recorder, around, lost }

def run (c : Course β σ γ) (calls : List Call) : Course β σ γ := calls.foldl step c

/-- A call settles the fate of the frame that it brings while the recorder records, and counts nothing else. The
frame is lost exactly if the encoder fails to take it. -/
structure Settles (c : Course β σ γ) (call : Call) (fate : Option Fate) : Prop where
  counted : (c.step call).recorder.counters.frames = (c.recorder.counters.settle fate).frames
  due : fate.isSome ↔ c.recorder.state = .recording ∧ call.BringsFrame
  lost : fate = some .lost ↔ ∃ failure, c.answer? call = some (.error failure)

/-- Whatever a call does, the recorder stays sound, and at most one frame is settled. -/
theorem step_settles {c : Course β σ γ} (h : c.recorder.Sound) (call : Call) :
    (c.step call).recorder.Sound ∧ ∃ fate, c.Settles call fate := by
  cases call with
  | start startedAt =>
    obtain ⟨sound, counters⟩ := h.start startedAt c.around
    refine ⟨sound, none, congrArg Counters.frames counters, ?_, ?_⟩
    · simp [Call.BringsFrame]
    · simp [answer?]
  | stop now elapsed =>
    obtain ⟨sound, frames⟩ := h.stop now elapsed c.around
    refine ⟨sound, none, frames, ?_, ?_⟩
    · simp [Call.BringsFrame]
    · simp [answer?]
  | write raw hint clock =>
    by_cases state : c.recorder.state = .recording
    · obtain ⟨x, held, sound⟩ := h state
      obtain ⟨_, counters, x', dumps, _, fate, written, sound', _, frames, lost⟩ :=
        Recorder.write_cases state held sound raw hint clock c.around
      have same : (c.step (.write raw hint clock)).recorder =
          { c.recorder with counters, recording := some x', dumps } := by
        unfold step
        dsimp only
        rw [written]
      refine ⟨?_, some fate, ?_, ?_, ?_⟩
      · rw [same]
        exact fun _ => ⟨x', rfl, sound'⟩
      · rw [same]
        exact frames
      · simp [state, Call.BringsFrame]
      · rw [Option.some.injEq]
        exact lost
    · -- A frame that comes at another time is not even looked at.
      have same : (c.step (.write raw hint clock)).recorder = c.recorder := by
        unfold step
        dsimp only
        rw [Recorder.write_elsewhere state]
      have unasked : c.answer? (.write raw hint clock) = none := by
        unfold answer? Recorder.submission?
        dsimp only
        split
        · contradiction
        · rfl
      refine ⟨by rw [same]; exact h, none, by rw [same]; rfl, ?_, ?_⟩
      · simp [state]
      · simp [unasked]

/-- Every frame received is submitted, dropped or lost. -/
def Balanced (c : Course β σ γ) : Prop :=
  c.recorder.counters.framesReceived = c.recorder.counters.framesSubmitted + c.recorder.counters.dropped + c.lost

omit [Coder σ] [Backend β σ] [Container γ] in
/-- No frame is missing from the counters exactly if none was lost. -/
theorem Balanced.exact_iff {c : Course β σ γ} (h : c.Balanced) :
    c.recorder.counters.framesReceived = c.recorder.counters.framesSubmitted + c.recorder.counters.dropped ↔
      c.lost = 0 := by
  unfold Balanced at h
  constructor
  · intro exactly
    omega
  · intro none
    omega

/-- Settling a frame keeps the balance. -/
theorem Balanced.step {c : Course β σ γ} (h : c.Balanced) {call : Call} {fate : Option Fate}
    (settles : c.Settles call fate) : (c.step call).Balanced := by
  rcases Counters.of_frames_eq settles.counted with ⟨received, submitted, dropped⟩
  have lost : (c.step call).lost = c.lost + failures (c.answer? call) := by cases call <;> rfl
  unfold Balanced at h ⊢
  rw [received, submitted, dropped, lost]
  -- Only a lost frame leaves the counters one short, and is counted beside them.
  by_cases failed : fate = some .lost
  · rcases settles.lost.mp failed with ⟨failure, answer⟩
    rw [failed, answer]
    simp only [Counters.settle, Counters.count, Counters.dropped, failures] at h ⊢
    omega
  · have taken : failures (c.answer? call) = 0 := by
      unfold failures
      split
      · rename_i failure answer
        exact absurd (settles.lost.mpr ⟨failure, answer⟩) failed
      · rfl
    rw [taken]
    cases fate with
    | none => exact h
    | some fate =>
      cases fate with
      | lost => contradiction
      | _ =>
        simp only [Counters.settle, Counters.count, Counters.dropped] at h ⊢
        omega

/-- Whatever calls come, the counters add up afterwards. -/
theorem run_balanced {c : Course β σ γ} (sound : c.recorder.Sound) (h : c.Balanced) (calls : List Call) :
    (c.run calls).recorder.Sound ∧ (c.run calls).Balanced := by
  -- By induction on the calls. That the recorder is sound is carried along, as a call may need it to be settled.
  induction calls generalizing c with
  | nil => exact ⟨sound, h⟩
  | cons call calls ih =>
    rcases step_settles sound call with ⟨kept, fate, settles⟩
    exact ih kept (h.step settles)

/-- **Every frame is accounted for.** In whatever order a recorder is started, given frames and stopped, each call
settles the frame that it brings, and the frames received exceed those submitted and dropped by those that the
encoder failed to take. -/
theorem every_frame_settled (settings : CaptureSettings) (backend : β)
    (decode : (g : Geometry) → Bytes → Except DecodeCause (ColourPicture g)) (memory : Memory) (around : Surroundings)
    (calls : List Call) (call : Call) :
    let c : Course β σ γ := ({ recorder := { settings, backend, decode, memory }, around } : Course β σ γ).run calls
    (∃ fate, c.Settles call fate) ∧ c.Balanced ∧
      (c.recorder.counters.framesReceived = c.recorder.counters.framesSubmitted + c.recorder.counters.dropped ↔
        c.lost = 0) := by
  intro c
  have idle : ({ settings, backend, decode, memory } : Recorder β σ γ).Sound := by
    intro state
    cases state
  rcases run_balanced (c := { recorder := { settings, backend, decode, memory }, around }) idle rfl calls with
    ⟨sound, balanced⟩
  exact ⟨(step_settles sound call).2, balanced, balanced.exact_iff⟩


/-- One frame for an encoder that refuses every input is received and then missing from all other counters. -/
theorem refused_frame_uncounted :
    let settings : CaptureSettings := { width := 2, height := 2, outputPath := "o" }
    let recorder : Recorder Scripted Scripted.Instance Mp4.Movie :=
      { settings, backend := { script := { queue := .refuse } } }
    let c := ({ recorder } : Course Scripted Scripted.Instance Mp4.Movie).run
      [.start { seconds := 0, nanos := 0 }, .write (Bytes.fill 6 0) none {}]
    c.recorder.counters = { framesReceived := 1 } ∧
      c.recorder.counters.framesReceived ≠ c.recorder.counters.framesSubmitted + c.recorder.counters.dropped := by
  have missing : ({} : FileTree).remove "o" = .error .notFound := by cbv
  -- The path is looked up by hand; from there on the run is computed.
  unfold run
  simp only [List.foldl]
  unfold step
  dsimp only
  unfold Recorder.start Recorder.openRecording
  dsimp only
  rw [Recorder.clearOutput_of_missing missing]
  decide +kernel

end Course

end Camcorder
