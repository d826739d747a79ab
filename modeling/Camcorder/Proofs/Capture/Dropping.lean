import Mathlib
import Camcorder.Mp4.Document
import Camcorder.Proofs.Capture.Life

/-!
# A dropped frame leaves no trace

A frame that is dropped before it reaches the encoder is counted, and kept if it cannot be decoded; the recording does
not show that it ever came. Two recorders that differ in such a frame go on to do the same: `Life.Extra.step` for one
use of them, `Life.dropped_frame_unseen` for all that follows.

What they say to the journal differs, as frames are numbered there. So it is shown first that the journal has no part
in what a writer does.
-/

namespace Camcorder

/-! ## Writing without the journal -/

namespace TrackWriter

variable {γ : Type} [Container γ] {s s' : Surroundings}

/-- Beginning a track depends on the disk around the writer, not on the journal. -/
theorem register_disk (disk : s'.disk = s.disk) (w : TrackWriter γ) (p : CodecParameters) :
    (w.register p s').1 = (w.register p s).1 ∧ (w.register p s').2.1 = (w.register p s).2.1 ∧
      (w.register p s').2.2.disk = (w.register p s).2.2.disk := by
  unfold register
  by_cases started : w.isStarted = true
  · rw [if_pos started, if_pos started]
    exact ⟨rfl, rfl, disk⟩
  · rw [if_neg started, if_neg started]
    -- A note on the size of the pictures goes to the journal.
    have noted (s : Surroundings) (n : Notice) :
        (if p.geometry = w.settings.geometry then s else s.note n).disk = s.disk := by
      split
      · rfl
      · rfl
    dsimp only
    rw [noted, noted, disk]
    rcases w.build s.disk with ⟨failure | track, disk'⟩
    · exact ⟨rfl, rfl, rfl⟩
    · exact ⟨rfl, rfl, rfl⟩

/-- Taking a sample depends on the disk, not on the journal. -/
theorem accept_disk (disk : s'.disk = s.disk) (w : TrackWriter γ) (sample : Sample) :
    (w.accept sample s').1 = (w.accept sample s).1 ∧ (w.accept sample s').2.1 = (w.accept sample s).2.1 ∧
      (w.accept sample s').2.2.disk = (w.accept sample s).2.2.disk := by
  unfold accept
  cases w.track with
  | some track => exact ⟨rfl, rfl, disk⟩
  | none =>
    refine ⟨rfl, rfl, ?_⟩
    dsimp only
    split
    · exact disk
    · exact disk

omit [Container γ] in
theorem removeFile_disk (disk : s'.disk = s.disk) (w : TrackWriter γ) : (w.removeFile s').disk = (w.removeFile s).disk := by
  unfold removeFile
  rw [disk]
  split
  · rfl
  · exact disk
  · exact disk

/-- Finishing the track depends on the disk, not on the journal. -/
theorem finish_disk (disk : s'.disk = s.disk) (w : TrackWriter γ) :
    (w.finish s').1 = (w.finish s).1 ∧ (w.finish s').2.disk = (w.finish s).2.disk := by
  have removed := removeFile_disk disk w
  unfold finish
  cases w.track with
  | none => exact ⟨rfl, disk⟩
  | some track =>
    dsimp only
    by_cases empty : w.written = 0
    · rw [if_pos empty, if_pos empty]
      exact ⟨rfl, removed⟩
    · rw [if_neg empty, if_neg empty]
      cases Container.finish track.container with
      | error reason => exact ⟨rfl, removed⟩
      | ok finished =>
        refine ⟨rfl, ?_⟩
        dsimp only
        rw [disk]

end TrackWriter

/-- The desks have the same writer and the same disk, whatever is in their journals. -/
def WritingDesk.SameDisk {γ : Type} (d d' : WritingDesk γ) : Prop :=
  d'.writer = d.writer ∧ d'.around.disk = d.around.disk

/-- Two desks with the same writer and the same disk answer alike, and remain so. -/
theorem WritingDesk.alike_of_disk {γ : Type} [Container γ] : Sink.Alike (SameDisk (γ := γ)) where
  register := by
    rintro ⟨w, s⟩ ⟨w', s'⟩ ⟨writer, disk⟩ q
    dsimp only at writer disk
    subst writer
    exact TrackWriter.register_disk disk w' q
  accept := by
    rintro ⟨w, s⟩ ⟨w', s'⟩ ⟨writer, disk⟩ sample
    dsimp only at writer disk
    subst writer
    exact TrackWriter.accept_disk disk w' sample
  note := by
    rintro d d' ⟨writer, disk⟩ n
    exact ⟨writer, disk⟩

namespace Encoder

variable {σ γ : Type} [Coder σ] [Container γ] {s s' : Surroundings}

/-- A drain to a desk comes to the same, whatever is in the journal. -/
theorem drain_disk (disk : s'.disk = s.disk) (e : Encoder σ) (atEnd : Bool) (w : TrackWriter γ) (now : Nat) :
    ∃ a e' w' t t', e.drain atEnd ({ writer := w, around := s } : WritingDesk γ) now = (a, e', { writer := w', around := t }) ∧
      e.drain atEnd ({ writer := w, around := s' } : WritingDesk γ) now = (a, e', { writer := w', around := t' }) ∧
      t'.disk = t.disk := by
  have related : WritingDesk.SameDisk { writer := w, around := s } { writer := w, around := s' } := ⟨rfl, disk⟩
  obtain ⟨⟨w', t'⟩, ⟨writer, same⟩, drained'⟩ := drain_onto WritingDesk.alike_of_disk related e atEnd now
  rcases drained : e.drain atEnd ({ writer := w, around := s } : WritingDesk γ) now with ⟨a, e', ⟨w₁, t⟩⟩
  rw [drained] at writer same drained'
  dsimp only at writer same
  subst writer
  exact ⟨a, e', w', t, t', rfl, drained', same⟩

/-- What a desk hears in a drain does not depend on the journal either. -/
theorem heardAfter_disk (disk : s'.disk = s.disk) (e : Encoder σ) (atEnd : Bool) (w : TrackWriter γ)
    (heard : List Delivery) (now : Nat) :
    e.heardAfter atEnd ({ writer := w, around := s' } : WritingDesk γ) heard now =
      e.heardAfter atEnd ({ writer := w, around := s } : WritingDesk γ) heard now := by
  let o : Observed (WritingDesk γ) := { sink := { writer := w, around := s }, heard }
  let o' : Observed (WritingDesk γ) := { sink := { writer := w, around := s' }, heard }
  have related : WritingDesk.SameDisk o.sink o'.sink ∧ o'.heard = o.heard := ⟨⟨rfl, disk⟩, rfl⟩
  obtain ⟨_, ⟨_, same⟩, drained⟩ := drain_onto (alike_observed_of WritingDesk.alike_of_disk) related e atEnd now
  unfold heardAfter
  rw [drained]
  exact same

end Encoder

/-! ## Counting one more -/

/-- The statistics with one more frame of this fate. -/
def Statistics.recount (t : Statistics) (fate : Fate) : Statistics :=
  { t with counters := t.counters.settle (some fate) }

/-- The reply of a recorder that counted one more frame of this fate. -/
def Reply.recount (fate : Fate) : Reply → Reply
  | .stopped (.ok (some statistics)) => .stopped (.ok (some (statistics.recount fate)))
  | reply => reply

namespace Counters

theorem count_settle (k : Counters) (fate fate' : Fate) :
    (k.settle (some fate)).count fate' = (k.count fate').settle (some fate) := by
  cases fate <;> cases fate' <;> rfl

theorem settle_comm (k : Counters) (fate : Fate) (fate' : Option Fate) :
    (k.settle (some fate)).settle fate' = (k.settle fate').settle (some fate) := by
  cases fate' with
  | none => rfl
  | some fate' => cases fate <;> cases fate' <;> rfl

theorem settle_frames {k k' : Counters} (h : k'.frames = k.frames) (fate : Option Fate) :
    (k'.settle fate).frames = (k.settle fate).frames := by
  cases k
  cases k'
  simp only [frames, mk.injEq] at h
  obtain ⟨rfl, rfl, rfl, rfl, rfl, rfl, _⟩ := h
  cases fate with
  | none => rfl
  | some fate => cases fate <;> rfl

end Counters

namespace Recorder

variable {β σ γ : Type} {r : Recorder β σ γ} {x : Recording σ γ} {s s' : Surroundings}

/-- The recorder as it would be if it had dropped one more frame. -/
def besides (r : Recorder β σ γ) (fate : Fate) (dumps : Nat) : Recorder β σ γ :=
  { r with counters := r.counters.settle (some fate), dumps }

/-- To have dropped one more frame makes no difference to how the next one is received. -/
theorem receive_besides (r : Recorder β σ γ) (fate : Fate) (dumps : Nat) :
    (r.besides fate dumps).receive = r.receive.besides fate dumps := by
  cases fate <;> rfl

variable [Coder σ] [Container γ]

/-- Samples are passed on in the same way. -/
theorem forward_besides (disk : s'.disk = s.disk) (r : Recorder β σ γ) (fate : Fate) (dumps : Nat) (x : Recording σ γ)
    (now : Nat) :
    ∃ a r₁ x₁ s₁ s₁', r.forward x now s = (a, r₁, x₁, s₁) ∧
      (r.besides fate dumps).forward x now s' = (a, r₁.besides fate dumps, x₁, s₁') ∧ s₁'.disk = s₁.disk := by
  obtain ⟨a, encoder, w, t, t', drained, drained', same⟩ := x.encoder.drain_disk disk false x.writer now
  unfold forward
  rw [drained, drained']
  rcases a with (e | f) | tally
  · -- The journal has the number of the frame.
    refine ⟨_, _, _, _, t'.note (.drainFailed (r.besides fate dumps).counters.framesReceived e), rfl, ?_, same⟩
    cases fate <;> rfl
  · exact ⟨_, _, _, _, _, rfl, rfl, same⟩
  · refine ⟨_, _, _, _, t', rfl, ?_, same⟩
    cases fate <;> rfl

omit [Container γ] in
/-- A picture is submitted in the same way. -/
theorem submit_besides (r : Recorder β σ γ) (fate : Fate) (dumps : Nat) (x : Recording σ γ) (picture : Bytes) (now : Nat)
    (disk : s'.disk = s.disk) :
    ∃ a r₁ x₁ s₁ s₁', r.submit x picture now s = (a, r₁, x₁, s₁) ∧
      (r.besides fate dumps).submit x picture now s' = (a, r₁.besides fate dumps, x₁, s₁') ∧ s₁'.disk = s₁.disk := by
  have noted (s : Surroundings) (n : Nat) (a : Attempt Submission) : (noteRejected s n a).disk = s.disk := by
    unfold noteRejected
    split
    · rfl
    · rfl
  have counted := r.counters.count_settle fate (Fate.ofSubmission (offered x picture now).1)
  have same : (noteRejected s' (r.besides fate dumps).counters.framesReceived (offered x picture now).1).disk =
      (noteRejected s r.counters.framesReceived (offered x picture now).1).disk := by
    rw [noted, noted, disk]
  refine ⟨_, _, _, _, _, r.submit_eq x picture now s, ?_, same⟩
  rw [submit_eq]
  unfold besides
  dsimp only
  rw [counted]

/-- A picture is encoded in the same way, and the traffic is the same. -/
theorem encode_besides (disk : s'.disk = s.disk) (r : Recorder β σ γ) (fate : Fate) (dumps : Nat) (x : Recording σ γ)
    (frame : Converted) (clock : Readings) :
    (∃ a r₁ s₁ s₁', r.encode x frame clock s = (a, r₁, s₁) ∧
      (r.besides fate dumps).encode x frame clock s' = (a, r₁.besides fate dumps, s₁') ∧ s₁'.disk = s₁.disk) ∧
    ∀ t, (r.besides fate dumps).encodeTraffic t x frame clock.now s' = r.encodeTraffic t x frame clock.now s := by
  obtain ⟨a, r₁, x₁, s₁, s₁', submitted, submitted', disk₁⟩ := submit_besides r fate dumps x frame.bytes clock.now disk
  obtain ⟨b, r₂, x₂, s₂, s₂', forwarded, forwarded', disk₂⟩ := forward_besides disk₁ r₁ fate dumps x₁ clock.now
  constructor
  · unfold encode
    rw [submitted, submitted']
    cases a with
    | error failure => exact ⟨_, _, _, _, rfl, rfl, disk₁⟩
    | ok u =>
      dsimp only
      rw [forwarded, forwarded']
      cases b with
      | error failure => exact ⟨_, _, _, _, rfl, rfl, disk₂⟩
      | ok u => exact ⟨_, _, _, _, rfl, rfl, disk₂⟩
  · intro t
    unfold encodeTraffic
    rw [submitted, submitted']
    cases a with
    | error failure => rfl
    | ok u =>
      dsimp only
      rw [Encoder.heardAfter_disk disk₁]

/-- A frame is dealt with in the same way: it gets the same answer and meets the same fate, and the traffic is the
same. -/
theorem write_besides (sound : r.Sound) (folder : r.settings.dumpFolder = none) (disk : s'.disk = s.disk) (fate : Fate)
    (dumps : Nat) (i : Incoming) :
    (∃ a r₁ n s₁ s₁', r.write i.raw i.hint i.clock s = (a, r₁, s₁) ∧
      (r.besides fate dumps).write i.raw i.hint i.clock s' = (a, r₁.besides fate n, s₁') ∧ s₁'.disk = s₁.disk) ∧
    ∀ t, (r.besides fate dumps).writeTraffic t i s' = r.writeTraffic t i s := by
  by_cases state : r.state = .recording
  · obtain ⟨x, held, convertible⟩ := sound state
    have state' : (r.besides fate dumps).state = .recording := state
    have held' : (r.besides fate dumps).recording = some x := held
    simp only [write, writeTraffic, state, state', held, held', process, receive_besides]
    rcases prepare_cases (β := β) convertible i.raw i.hint with ⟨fate', _, dropped⟩ | ⟨frame, converter, _, _, became⟩
    · -- The frame is dropped by both.
      obtain ⟨n, s₁, prepared, same⟩ := dropped r.receive s
      obtain ⟨n', s₁', prepared', same'⟩ := dropped (r.receive.besides fate dumps) s'
      rw [prepared, prepared']
      refine ⟨⟨_, _, n', s₁, s₁', rfl, ?_, ?_⟩, fun t => rfl⟩
      · cases fate <;> cases fate' <;> rfl
      · rw [same folder, same' folder]
        exact disk
    · -- The frame is encoded by both.
      obtain ⟨s₁, prepared, same⟩ := became r.receive s
      obtain ⟨s₁', prepared', same'⟩ := became (r.receive.besides fate dumps) s'
      rw [prepared, prepared']
      have disk₁ : s₁'.disk = s₁.disk := same'.trans (disk.trans same.symm)
      obtain ⟨⟨a, r₁, s₂, s₂', encoded, encoded', disk₂⟩, traffic⟩ :=
        encode_besides disk₁ r.receive fate dumps { x with converter } frame i.clock
      exact ⟨⟨a, r₁, dumps, s₂, s₂', encoded, encoded', disk₂⟩, traffic⟩
  · have state' : (r.besides fate dumps).state ≠ .recording := state
    rw [write_elsewhere state, write_elsewhere state']
    refine ⟨⟨_, _, dumps, _, _, rfl, rfl, disk⟩, ?_⟩
    intro t
    rw [writeTraffic_elsewhere state, writeTraffic_elsewhere state']

variable [Backend β σ]

omit [Coder σ] [Container γ] [Backend β σ] in
theorem noteFailure_disk {α : Type} (notice : RecordingError → Notice) (outcome : Attempt α) (s : Surroundings) :
    (noteFailure notice outcome s).disk = s.disk := by
  unfold noteFailure
  split
  · rfl
  · rfl

omit [Coder σ] [Backend β σ] in
theorem conclude_disk (disk : s'.disk = s.disk) (w : TrackWriter γ) :
    ∃ summary s₁ s₁', conclude w s = (summary, s₁) ∧ conclude w s' = (summary, s₁') ∧ s₁'.disk = s₁.disk := by
  obtain ⟨answer, left⟩ := TrackWriter.finish_disk disk w
  have same : (conclude w s').2.disk = (conclude w s).2.disk := by
    unfold conclude
    dsimp only
    rw [noteFailure_disk, noteFailure_disk, left]
  have summary : (conclude w s').1 = (conclude w s).1 := by
    unfold conclude
    dsimp only
    rw [answer]
  exact ⟨(conclude w s).1, (conclude w s).2, (conclude w s').2, rfl, Prod.ext summary rfl, same⟩

/-- A recording is finished in the same way; the statistics have the one frame more. -/
theorem close_besides (disk : s'.disk = s.disk) (r : Recorder β σ γ) (fate : Fate) (dumps : Nat) (x : Recording σ γ)
    (now : Nat) (elapsed : Float) :
    ∃ a r₁ s₁ s₁', r.close x now elapsed s = (a, r₁, s₁) ∧
      (r.besides fate dumps).close x now elapsed s' =
        (a.map fun statistics => statistics.recount fate, r₁.besides fate dumps, s₁') ∧ s₁'.disk = s₁.disk := by
  obtain ⟨a, encoder, w, t, t', drained, drained', same⟩ := x.encoder.drain_disk disk true x.writer now
  -- The container is finished in the same way, whatever went wrong before.
  have concluded (closed : Attempt Unit) := by
    have noted : (noteFailure .closeFailed closed (noteFailure .finalDrainFailed a t')).disk =
        (noteFailure .closeFailed closed (noteFailure .finalDrainFailed a t)).disk := by
      rw [noteFailure_disk, noteFailure_disk, noteFailure_disk, noteFailure_disk, same]
    exact conclude_disk noted w
  have backend : (r.besides fate dumps).backend = r.backend := rfl
  unfold close
  rw [drained, drained', backend]
  rcases a with (e | f) | tally
  · dsimp only
    rcases encoder.close r.backend with ⟨closed, _, b⟩
    obtain ⟨summary, u, u', done, done', left⟩ := concluded closed
    dsimp only
    rw [done, done']
    refine ⟨_, _, u, u', rfl, ?_, left⟩
    cases fate <;> rfl
  · -- The encoder is given up, which does to the backend what closing it does.
    have given := (encoder.discard_eq_close r.backend t'.journal).trans
      (encoder.discard_eq_close r.backend t.journal).symm
    dsimp only
    rw [given]
    exact ⟨_, _, _, _, rfl, rfl, same⟩
  · dsimp only
    rcases encoder.close r.backend with ⟨closed, _, b⟩
    obtain ⟨summary, u, u', done, done', left⟩ := concluded closed
    dsimp only
    rw [done, done']
    refine ⟨_, _, u, u', rfl, ?_, left⟩
    cases fate <;> rfl

/-- A recording is ended in the same way, and the traffic is the same. -/
theorem stop_besides (disk : s'.disk = s.disk) (r : Recorder β σ γ) (fate : Fate) (dumps : Nat) (now : Nat)
    (elapsed : Float) :
    (∃ a r₁ s₁ s₁', r.stop now elapsed s = (a, r₁, s₁) ∧
      (r.besides fate dumps).stop now elapsed s' =
        (a.map (Option.map fun statistics => statistics.recount fate), r₁.besides fate dumps, s₁') ∧ s₁'.disk = s₁.disk) ∧
    ∀ t, (r.besides fate dumps).stopTraffic t now s' = r.stopTraffic t now s := by
  cases r with
  | mk settings backend decode memory state recording counters dumps₀ =>
    cases state with
    | idle => exact ⟨⟨_, _, s, s', rfl, rfl, disk⟩, fun t => rfl⟩
    | stopped => exact ⟨⟨_, _, s, s', rfl, rfl, disk⟩, fun t => rfl⟩
    | recording =>
      cases recording with
      | none => exact ⟨⟨_, _, s, s', rfl, rfl, disk⟩, fun t => rfl⟩
      | some x =>
        obtain ⟨a, r₁, s₁, s₁', closed, closed', left⟩ := close_besides disk
          { settings, backend, decode, memory, state := .stopped, recording := none, counters, dumps := dumps₀ }
          fate dumps x now elapsed
        refine ⟨⟨a.map some, r₁, s₁, s₁', ?_, ?_, left⟩, ?_⟩
        · unfold stop
          dsimp only
          rw [closed]
        · unfold stop besides at *
          dsimp only
          rw [closed']
          cases a <;> rfl
        · intro t
          unfold stopTraffic besides
          dsimp only
          rw [Encoder.heardAfter_disk disk]

end Recorder

namespace Life

variable {β σ γ : Type} [Coder σ] [Backend β σ] [Container γ] {c c' : Life β σ γ} {fate : Fate}

/-- The life `c'` is as `c`, but for one more frame of this fate. -/
structure Extra (fate : Fate) (c c' : Life β σ γ) : Prop where
  recorder : ∃ dumps, c'.recorder = c.recorder.besides fate dumps
  disk : c'.around.disk = c.around.disk
  traffic : c'.traffic = c.traffic

/-- A recorder that was started, or stopped, and keeps no frames that cannot be decoded. -/
structure Begun (c : Life β σ γ) : Prop where
  sound : c.recorder.Sound
  state : c.recorder.state ≠ .idle
  folder : c.recorder.settings.dumpFolder = none

/-- A recorder that was begun stays begun, whatever is done with it. -/
theorem Begun.step (b : Begun c) (use : Use) : Begun (c.step use) := by
  obtain ⟨sound, settings⟩ := step_sound b.sound use
  refine ⟨sound, ?_, by rw [settings]; exact b.folder⟩
  cases use with
  | start startedAt =>
    show (c.recorder.start startedAt c.around).2.1.state ≠ .idle
    rw [Recorder.start_busy b.state]
    exact b.state
  | write i =>
    obtain ⟨_, state, _⟩ := b.sound.write i c.around
    show (c.recorder.write i.raw i.hint i.clock c.around).2.1.state ≠ .idle
    rw [state]
    exact b.state
  | stop now elapsed =>
    show (c.recorder.stop now elapsed c.around).2.1.state ≠ .idle
    rw [Recorder.state_stop]
    nofun
  | discard now =>
    show (c.recorder.discard now c.around).1.state ≠ .idle
    rw [Recorder.state_discard]
    split
    · nofun
    · exact b.state

/-- One more dropped frame does not change what a use of the recorder does. -/
theorem Extra.step (h : Extra fate c c') (b : Begun c) (use : Use) :
    Extra fate (c.step use) (c'.step use) ∧
      ∃ reply, (c.step use).replies = c.replies ++ [reply] ∧ (c'.step use).replies = c'.replies ++ [reply.recount fate] := by
  obtain ⟨⟨dumps, recorder⟩, disk, traffic⟩ := h
  cases use with
  | start startedAt =>
    -- A recorder is started only once.
    have busy : (c.recorder.besides fate dumps).state ≠ .idle := b.state
    unfold Life.step
    dsimp only
    rw [recorder, Recorder.start_busy b.state, Recorder.start_busy busy]
    exact ⟨⟨⟨dumps, rfl⟩, disk, traffic⟩, .started (.ok false), rfl, rfl⟩
  | write i =>
    obtain ⟨⟨a, r₁, n, s₁, s₁', written, written', disk₁⟩, same⟩ :=
      Recorder.write_besides b.sound b.folder disk fate dumps i
    obtain ⟨fate', settled⟩ := b.sound.write_settles i c.around
    rw [written] at settled
    -- The fate of the frame is the same, as the counters differ by the one frame before and after.
    have told : c.recorder.counters.fate? r₁.counters = fate' := Counters.fate?_eq settled
    have told' : (c.recorder.besides fate dumps).counters.fate? (r₁.besides fate n).counters = fate' := by
      apply Counters.fate?_eq
      show (r₁.counters.settle (some fate)).frames = ((c.recorder.counters.settle (some fate)).settle fate').frames
      rw [Counters.settle_comm]
      exact Counters.settle_frames settled (some fate)
    unfold Life.step
    dsimp only
    rw [recorder, traffic, same, written, written']
    dsimp only
    rw [told, told']
    exact ⟨⟨⟨n, rfl⟩, disk₁, rfl⟩, .written a fate', rfl, rfl⟩
  | stop now elapsed =>
    obtain ⟨⟨a, r₁, s₁, s₁', stopped, stopped', disk₁⟩, same⟩ :=
      Recorder.stop_besides disk c.recorder fate dumps now elapsed
    unfold Life.step
    dsimp only
    rw [recorder, traffic, same, stopped, stopped']
    refine ⟨⟨⟨dumps, rfl⟩, disk₁, rfl⟩, .stopped a, rfl, ?_⟩
    rcases a with e | (_ | statistics) <;> rfl
  | discard now =>
    have disk₀ : (c'.around.note .abandoned).disk = (c.around.note .abandoned).disk := disk
    obtain ⟨⟨a, r₁, s₁, s₁', stopped, stopped', disk₁⟩, same⟩ :=
      Recorder.stop_besides disk₀ c.recorder fate dumps now 0.0
    unfold Life.step
    dsimp only
    rw [recorder, traffic, same]
    by_cases state : c.recorder.state = .recording
    · have state' : (c.recorder.besides fate dumps).state = .recording := state
      rw [Recorder.discard_recording state, Recorder.discard_recording state', stopped, stopped']
      exact ⟨⟨⟨dumps, rfl⟩, disk₁, rfl⟩, .discarded, rfl, rfl⟩
    · have state' : (c.recorder.besides fate dumps).state ≠ .recording := state
      rw [Recorder.discard_elsewhere state, Recorder.discard_elsewhere state']
      exact ⟨⟨⟨dumps, rfl⟩, disk, rfl⟩, .discarded, rfl, rfl⟩

/-- A life with one dropped frame more goes on as the other one does, and its answers differ by that frame alone. -/
theorem Extra.run (h : Extra fate c c') (b : Begun c) (uses : List Use) :
    Extra fate (c.run uses) (c'.run uses) ∧
      ∃ later, (c.run uses).replies = c.replies ++ later ∧
        (c'.run uses).replies = c'.replies ++ later.map (Reply.recount fate) := by
  -- By induction on the uses; after each, the lives still differ in the one frame only.
  induction uses generalizing c c' with
  | nil => exact ⟨h, [], (List.append_nil _).symm, (List.append_nil _).symm⟩
  | cons use uses ih =>
    obtain ⟨h₁, reply, said, said'⟩ := h.step b use
    obtain ⟨h₂, later, replies, replies'⟩ := ih h₁ (b.step use)
    refine ⟨h₂, reply :: later, ?_, ?_⟩
    · show ((c.step use).run uses).replies = c.replies ++ reply :: later
      rw [replies, said, List.append_assoc]
      rfl
    · show ((c'.step use).run uses).replies = c'.replies ++ (reply :: later).map (Reply.recount fate)
      rw [replies', said', List.append_assoc]
      rfl

/-- A frame that meets its fate before it reaches the encoder is all that it adds. -/
theorem extra_of_dropped (sound : c.recorder.Sound) (folder : c.recorder.settings.dumpFolder = none) {i : Incoming}
    (early : fate = .mismatched ∨ fate = .unrecognized ∨ fate = .undecodable)
    (met : c.recorder.counters.fate? (c.step (.write i)).recorder.counters = some fate) :
    c.recorder.state = .recording ∧ Extra fate c (c.step (.write i)) ∧
      (c.step (.write i)).replies = c.replies ++ [.written (.ok ()) (some fate)] := by
  have met : c.recorder.counters.fate? (c.recorder.write i.raw i.hint i.clock c.around).2.1.counters = some fate := met
  by_cases state : c.recorder.state = .recording
  · obtain ⟨x, held, convertible⟩ := sound state
    have processed := Recorder.write_recording state held i.raw i.hint i.clock c.around
    rcases Recorder.prepare_cases (β := β) convertible i.raw i.hint with ⟨fate', _, dropped⟩ | ⟨frame, converter, _, _, became⟩
    · obtain ⟨dumps, s, prepared, same⟩ := dropped c.recorder.receive c.around
      have written : c.recorder.write i.raw i.hint i.clock c.around = (.ok (), c.recorder.besides fate' dumps, s) := by
        rw [processed]
        unfold Recorder.process
        rw [prepared]
        dsimp only
        rw [← held]
        rfl
      have told : c.recorder.counters.fate? (c.recorder.besides fate' dumps).counters = some fate' :=
        Counters.fate?_eq rfl
      rw [written] at met
      dsimp only at met
      rw [told] at met
      cases met
      have untouched : c.recorder.writeTraffic c.traffic i c.around = c.traffic := by
        rw [Recorder.writeTraffic_recording state held, prepared]
      unfold Life.step
      dsimp only
      rw [written, untouched]
      dsimp only
      rw [told]
      exact ⟨state, ⟨⟨dumps, rfl⟩, same folder, rfl⟩, rfl⟩
    · -- A frame that reaches the encoder meets another fate.
      obtain ⟨s, prepared, _⟩ := became c.recorder.receive c.around
      obtain ⟨a, counters, x', s', encoded, _, _, frames⟩ :=
        c.recorder.receive.encode_frames { x with converter } frame i.clock s
      rw [processed] at met
      unfold Recorder.process at met
      rw [prepared] at met
      dsimp only at met
      rw [encoded] at met
      let reached : Option Fate := Fate.ofSubmission (Recorder.offered { x with converter } frame.bytes i.clock.now).1
      have frames : counters.frames = (c.recorder.counters.settle reached).frames := frames
      have told : c.recorder.counters.fate? counters = reached := Counters.fate?_eq frames
      dsimp only at met
      rw [told] at met
      exact absurd early (Option.some.inj met ▸ Fate.ofSubmission_late _)
  · have unsettled : c.recorder.counters.fate? c.recorder.counters = none := Counters.fate?_eq rfl
    rw [Recorder.write_elsewhere state] at met
    dsimp only at met
    rw [unsettled] at met
    cases met

/-- **A dropped frame leaves no trace.** Let a recorder that keeps no undecodable frames be used in any way, and let one
of the frames be dropped before it reaches the encoder. Had this frame not come, all else would be the same: the
recorder with its encoder, its writer and its window of timings, the pictures that were submitted and what the writer
was given, the files, and what was answered to everything else, with the fate of every other frame. Only the frame is
counted, and so in the statistics, and perhaps it is counted as one to keep. -/
theorem dropped_frame_unseen {settings : CaptureSettings} (folder : settings.dumpFolder = none) {backend : β}
    {decode : (g : Geometry) → Bytes → Except DecodeCause (ColourPicture g)} {memory : Memory} {around : Surroundings}
    {before : List Use} {i : Incoming} {fate : Fate}
    (early : fate = .mismatched ∨ fate = .unrecognized ∨ fate = .undecodable)
    (met :
      let c : Life β σ γ := ({ recorder := { settings, backend, decode, memory }, around } : Life β σ γ).run before
      c.recorder.counters.fate? (c.step (.write i)).recorder.counters = some fate)
    (after : List Use) :
    let start : Life β σ γ := { recorder := { settings, backend, decode, memory }, around }
    let taken := start.run (before ++ .write i :: after)
    let spared := start.run (before ++ after)
    (∃ dumps, taken.recorder =
      { spared.recorder with counters := spared.recorder.counters.settle (some fate), dumps }) ∧
    taken.traffic = spared.traffic ∧ taken.around.disk = spared.around.disk ∧
    ∃ later, spared.replies = (start.run before).replies ++ later ∧
      taken.replies = (start.run before).replies ++ .written (.ok ()) (some fate) :: later.map (Reply.recount fate) := by
  intro start taken spared
  have idle : start.recorder.Sound := Recorder.sound_of_ne nofun
  obtain ⟨sound, kept⟩ := run_induct (P := fun c : Life β σ γ => c.recorder.Sound ∧ c.recorder.settings = settings)
    (fun c use h => ⟨(step_sound h.1 use).1, (step_sound h.1 use).2.trans h.2⟩) ⟨idle, rfl⟩ before
  have folder : (start.run before).recorder.settings.dumpFolder = none := by
    rw [kept]
    exact folder
  obtain ⟨state, extra, said⟩ := extra_of_dropped sound folder early met
  -- From here on the two runs go side by side.
  have begun : Begun (start.run before) := ⟨sound, by rw [state]; nofun, folder⟩
  obtain ⟨⟨recorder, disk, traffic⟩, later, replies, replies'⟩ := extra.run begun after
  have spared_eq : spared = (start.run before).run after := run_append start before after
  have taken_eq : taken = ((start.run before).step (.write i)).run after := run_append start before (.write i :: after)
  rw [spared_eq, taken_eq]
  refine ⟨recorder, traffic, disk, later, replies, ?_⟩
  rw [replies', said, List.append_assoc]
  rfl

/-- A frame of one byte too few, between the start and a frame that is encoded. -/
theorem dropped_frame_unseen_short :
    let settings : CaptureSettings := { width := 2, height := 2, outputPath := "o" }
    let start : Life Loopback Loopback.Instance Mp4.Movie := { recorder := { settings, backend := {} } }
    let opened := start.run [.start { seconds := 0, nanos := 0 }]
    let short : Incoming := { raw := Bytes.fill 5 0 }
    let after : List Use := [.write { raw := Bytes.fill 6 1, clock := { now := 5 } }, .stop 9 0.0]
    let taken := start.run (.start { seconds := 0, nanos := 0 } :: .write short :: after)
    let spared := start.run (.start { seconds := 0, nanos := 0 } :: after)
    settings.dumpFolder = none ∧
      opened.recorder.counters.fate? (opened.step (.write short)).recorder.counters = some .unrecognized ∧
      (∃ dumps, taken.recorder =
        { spared.recorder with counters := spared.recorder.counters.settle (some .unrecognized), dumps }) ∧
      taken.traffic = spared.traffic := by
  have missing : ({} : FileTree).remove "o" = .error .notFound := by cbv
  have met :
      let c := ({ recorder := { settings := { width := 2, height := 2, outputPath := "o" }, backend := {} } } :
        Life Loopback Loopback.Instance Mp4.Movie).run [.start { seconds := 0, nanos := 0 }]
      c.recorder.counters.fate? (c.step (.write { raw := Bytes.fill 5 0 })).recorder.counters = some .unrecognized := by
    unfold run
    simp only [List.foldl]
    unfold step
    dsimp only
    unfold Recorder.start Recorder.openRecording
    dsimp only
    rw [Recorder.clearOutput_of_missing missing]
    decide +kernel
  obtain ⟨recorder, traffic, _⟩ := dropped_frame_unseen rfl (.inr (.inl rfl)) met
    [.write { raw := Bytes.fill 6 1, clock := { now := 5 } }, .stop 9 0.0]
  exact ⟨rfl, met, recorder, traffic⟩

end Life

end Camcorder
