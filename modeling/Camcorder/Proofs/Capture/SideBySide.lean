import Mathlib
import Camcorder.Proofs.Capture.Twins

/-!
# Lives side by side

Of two recorders one has a directory for frames that cannot be decoded, and the other has none. If the directory is out
of the way of the output, they stay abreast in whatever they are used for (`Recorder.Abreast`): one use of both gets the
same reply and adds the same traffic (`Life.Alongside.step`), so that their whole lives do (`Life.Alongside.meetAll`),
whatever the device refuses to create meanwhile.
-/

namespace Camcorder

open FileTree

namespace Recorder

variable {β σ γ : Type} {r r' : Recorder β σ γ} {s s' : Surroundings} {folder out : String}

/-! ## With a directory and without -/

/-- How two recorders go abreast of which one, `r`, has a directory for frames that cannot be decoded, and the other has
none. -/
inductive Abreast (folder out : String) (r : Recorder β σ γ) (s : Surroundings) (r' : Recorder β σ γ) (s' : Surroundings) :
    Prop where
  | idle (state : r.state = .idle) {recording : Option (Recording σ γ)} (recorder : r' = r.dumpingTo none recording)
      (around : s' = s) (aside : Aside folder out (cleared r.settings s.disk))
  | underway (state : r.state = .recording) {x : Recording σ γ} {w : TrackWriter γ} (held : r.recording = some x)
      (recorder : r' = r.dumpingTo none (some { x with writer := w })) (path : x.writer.path = out)
      (twin : x.writer.Twin w) (agree : AgreeOn (route out) s.disk s'.disk) (aside : Aside folder out s.disk)
  | stopped (state : r.state = .stopped) {recording : Option (Recording σ γ)}
      (recorder : r' = r.dumpingTo none recording)

/-- Recorders abreast differ in their dumps and in their recording only. -/
theorem Abreast.recorder_eq (h : Abreast folder out r s r' s') : ∃ recording, r' = r.dumpingTo none recording := by
  cases h with
  | idle _ recorder => exact ⟨_, recorder⟩
  | underway _ _ recorder => exact ⟨_, recorder⟩
  | stopped _ recorder => exact ⟨_, recorder⟩

theorem Abreast.counters (h : Abreast folder out r s r' s') : r'.counters = r.counters := by
  obtain ⟨_, rfl⟩ := h.recorder_eq
  rfl

theorem Abreast.state (h : Abreast folder out r s r' s') : r'.state = r.state := by
  obtain ⟨_, rfl⟩ := h.recorder_eq
  rfl

/-- What the device refuses does not matter between two uses. -/
theorem Abreast.facing (h : Abreast folder out r s r' s') (refusals : List (Option FileError)) :
    Abreast folder out r { s with disk := { s.disk with refusals } } r' { s' with disk := { s'.disk with refusals } } := by
  cases h with
  | idle state recorder around aside =>
    exact .idle state recorder (by rw [around]) (aside.of_nodes (node?_cleared rfl))
  | underway state held recorder path twin agree aside =>
    refine .underway state held recorder path twin (fun p passed => ?_) (aside.of_nodes (node?_refusals s.disk refusals))
    dsimp only
    rw [node?_refusals, node?_refusals]
    exact agree p passed
  | stopped state recorder => exact .stopped state recorder

/-- The journals do not matter, but for what is said before the recording. -/
theorem Abreast.note (h : Abreast folder out r s r' s') (n : Notice) : Abreast folder out r (s.note n) r' (s'.note n) := by
  cases h with
  | idle state recorder around aside => exact .idle state recorder (by rw [around]) aside
  | underway state held recorder path twin agree aside => exact .underway state held recorder path twin agree aside
  | stopped state recorder => exact .stopped state recorder

/-- That the directory is out of the way stays true whatever the writer is given. -/
theorem steady_aside [Container γ] : TrackWriter.Steady fun (_ : TrackWriter γ) disk => Aside folder out disk where
  register := by
    intro w s aside p
    rcases w.register_effect p s with ⟨_, same | created⟩ | ⟨_, _, _, _, created⟩
    · rw [same]
      exact aside
    · rw [created]
      exact aside.mono (stands_create s.disk w.path)
    · rw [created]
      exact aside.mono (stands_create s.disk w.path)
  accept := by
    intro w s aside sample
    have disk : (w.accept sample s).2.2.disk = s.disk :=
      (WritingDesk.give_sample { writer := w, around := s } sample).1
    rw [disk]
    exact aside

section Starting

variable [Coder σ] [Backend β σ]

/-- Whether a start comes to anything has nothing to do with the directory. -/
theorem Abreast.start (h : Abreast folder out r s r' s') (path : r.settings.outputPath = out) (startedAt : Timestamp) :
    ∃ a r₁ s₁ r₁' s₁', r.start startedAt s = (a, r₁, s₁) ∧ r'.start startedAt s' = (a, r₁', s₁') ∧
      Abreast folder out r₁ s₁ r₁' s₁' := by
  by_cases idle : r.state = .idle
  · cases h with
    | underway state => rw [idle] at state; cases state
    | stopped state => rw [idle] at state; cases state
    | @idle state recording recorder around aside =>
      subst recorder around
      have idle' : (r.dumpingTo none recording).state = .idle := idle
      have same : (r.dumpingTo none recording).openRecording startedAt s' = r.openRecording startedAt s' := rfl
      have disk := r.openRecording_disk startedAt s'
      unfold Recorder.start
      rw [if_pos idle, if_pos idle', same]
      rcases opened : r.openRecording startedAt s' with ⟨failure | x, backend, s₁⟩
      · -- The attempt may be made again.
        rw [opened] at disk
        dsimp only at disk
        have abreast : Abreast folder out { r with backend } s₁ ({ r with backend }.dumpingTo none recording) s₁ := by
          refine .idle state rfl rfl ?_
          show Aside folder out (cleared r.settings s₁.disk)
          rw [disk, cleared_cleared]
          exact aside
        cases failure with
        | error e => exact ⟨_, _, _, _, _, rfl, rfl, abreast.note (.startFailed e)⟩
        | fault f => exact ⟨_, _, _, _, _, rfl, rfl, abreast⟩
      · obtain ⟨_, _, _, _, _, _, _, _, rfl⟩ := openRecording_ok opened
        rw [opened] at disk
        dsimp only at disk
        refine ⟨_, _, _, _, _, rfl, rfl, .underway rfl rfl rfl path (.refl _) (.refl _ _) ?_⟩
        rw [disk]
        exact aside
  · have busy : r'.state ≠ .idle := by
      rw [h.state]
      exact idle
    rw [start_busy idle, start_busy busy, h.state]
    exact ⟨_, _, _, _, _, rfl, rfl, h.note _⟩

end Starting

section Frames

variable [Coder σ] [Container γ]

/-- A frame gets the same answer and the same traffic, whether there is a directory to keep it in or not. -/
theorem Abreast.write (h : Abreast folder out r s r' s') (sound : r.Sound) (dumping : r.settings.dumpFolder = some folder)
    (refusals : s'.disk.refusals = s.disk.refusals) (i : Incoming) :
    (∃ a r₁ s₁ r₁' s₁', r.write i.raw i.hint i.clock s = (a, r₁, s₁) ∧ r'.write i.raw i.hint i.clock s' = (a, r₁', s₁') ∧
      Abreast folder out r₁ s₁ r₁' s₁') ∧
    ∀ t, r'.writeTraffic t i s' = r.writeTraffic t i s := by
  by_cases underway : r.state = .recording
  · cases h with
    | idle state => rw [underway] at state; cases state
    | stopped state => rw [underway] at state; cases state
    | @underway state x w held recorder path twin agree aside =>
      subst recorder
      obtain ⟨_, held', convertible⟩ := sound state
      cases held.symm.trans held'
      have b : WritingDesk.Beside out (fun _ disk => Aside folder out disk) { writer := x.writer, around := s }
          { writer := w, around := s' } := ⟨path, twin, agree, refusals, aside⟩
      obtain ⟨⟨a, counters, _, x₁, w₁, s₁, s₁', written, written', _, _, b₁⟩ |
        ⟨s₁, s₁', written, written', disk, disk'⟩, traffic⟩ := write_beside steady_aside state held convertible b i
      · exact ⟨⟨_, _, _, _, _, written, written', .underway state rfl rfl b₁.path b₁.twin b₁.agree b₁.held⟩, traffic⟩
      · -- Only the directory shows that the frame was kept.
        obtain ⟨same, aside'⟩ := aside.dumped r.dumps i.raw
        rw [dumping] at disk
        refine ⟨⟨_, _, _, _, _, written, written', .underway state held rfl path twin ?_ ?_⟩, traffic⟩
        · rw [disk, disk']
          exact same.symm.trans agree
        · rw [disk]
          exact aside'
  · have elsewhere : r'.state ≠ .recording := by
      rw [h.state]
      exact underway
    rw [write_elsewhere underway, write_elsewhere elsewhere, h.state]
    refine ⟨⟨_, _, _, _, _, rfl, rfl, h.note _⟩, fun t => ?_⟩
    rw [writeTraffic_elsewhere underway, writeTraffic_elsewhere elsewhere]

variable [Backend β σ]

/-- A recording ends in the same way, whether there is a directory or not. -/
theorem Abreast.stop (h : Abreast folder out r s r' s') (refusals : s'.disk.refusals = s.disk.refusals) (now : Nat)
    (elapsed : Float) :
    (∃ a r₁ s₁ r₁' s₁', r.stop now elapsed s = (a, r₁, s₁) ∧ r'.stop now elapsed s' = (a, r₁', s₁') ∧
      Abreast folder out r₁ s₁ r₁' s₁') ∧
    ∀ t, r'.stopTraffic t now s' = r.stopTraffic t now s := by
  by_cases underway : r.state = .recording
  · cases h with
    | idle state => rw [underway] at state; cases state
    | stopped state => rw [underway] at state; cases state
    | @underway state x w held recorder path twin agree aside =>
      subst recorder
      have b : WritingDesk.Beside out (fun _ disk => Aside folder out disk) { writer := x.writer, around := s }
          { writer := w, around := s' } := ⟨path, twin, agree, refusals, aside⟩
      obtain ⟨⟨a, backend, counters, s₁, s₁', stopped, stopped', _, _⟩, traffic⟩ :=
        stop_beside steady_aside state held b now elapsed
      exact ⟨⟨_, _, _, _, _, stopped, stopped', .stopped rfl rfl⟩, traffic⟩
  · have elsewhere : r'.state ≠ .recording := by
      rw [h.state]
      exact underway
    obtain ⟨recording, recorder⟩ := h.recorder_eq
    have stopped : ({ r' with state := .stopped } : Recorder β σ γ) =
        ({ r with state := .stopped } : Recorder β σ γ).dumpingTo none recording := by
      rw [recorder]
      rfl
    rw [stop_elsewhere underway, stop_elsewhere elsewhere]
    refine ⟨⟨_, _, _, _, _, rfl, rfl, .stopped rfl stopped⟩, fun t => ?_⟩
    rw [stopTraffic_elsewhere underway, stopTraffic_elsewhere elsewhere]

/-- Recorders abreast abandon their recordings alike. -/
theorem Abreast.discard (h : Abreast folder out r s r' s') (refusals : s'.disk.refusals = s.disk.refusals) (now : Nat) :
    Abreast folder out (r.discard now s).1 (r.discard now s).2 (r'.discard now s').1 (r'.discard now s').2 ∧
    ∀ t, r'.stopTraffic t now (s'.note .abandoned) = r.stopTraffic t now (s.note .abandoned) := by
  obtain ⟨⟨a, r₁, s₁, r₁', s₁', stopped, stopped', abreast⟩, traffic⟩ := (h.note .abandoned).stop refusals now 0.0
  refine ⟨?_, traffic⟩
  by_cases underway : r.state = .recording
  · have underway' : r'.state = .recording := h.state.trans underway
    rw [discard_recording underway, discard_recording underway', stopped, stopped']
    exact abreast
  · have elsewhere : r'.state ≠ .recording := by
      rw [h.state]
      exact underway
    rw [discard_elsewhere underway, discard_elsewhere elsewhere]
    exact h

end Frames

end Recorder

/-! ## Lives side by side -/

/-- A use of a recorder, and what the device refuses to create meanwhile. -/
structure Occasion where
  use : Use
  refusals : List (Option FileError) := []

namespace Life

open Recorder

variable {β σ γ : Type} [Coder σ] [Backend β σ] [Container γ] {c c' : Life β σ γ} {folder out : String}

omit [Coder σ] [Backend β σ] [Container γ] in
/-- The life with this to be refused by the device. -/
def facing (c : Life β σ γ) (refusals : List (Option FileError)) : Life β σ γ :=
  { c with around := { c.around with disk := { c.around.disk with refusals } } }

/-- Uses the recorder on an occasion. -/
def meet (c : Life β σ γ) (o : Occasion) : Life β σ γ := (c.facing o.refusals).step o.use

/-- Uses the recorder on every one of these occasions, one after the other. -/
def meetAll (c : Life β σ γ) (occasions : List Occasion) : Life β σ γ := occasions.foldl meet c

omit [Coder σ] [Backend β σ] [Container γ] in
/-- The recorder of `c` has a directory for frames that cannot be decoded, that of `c'` has none, and they did the same
so far. -/
structure Alongside (folder out : String) (c c' : Life β σ γ) : Prop where
  sound : c.recorder.Sound
  dumping : c.recorder.settings.dumpFolder = some folder
  path : c.recorder.settings.outputPath = out
  abreast : Abreast folder out c.recorder c.around c'.recorder c'.around
  replies : c'.replies = c.replies
  traffic : c'.traffic = c.traffic

/-- Neither the directory nor the output path is another after a use. -/
theorem step_settings (sound : c.recorder.Sound) (dumping : c.recorder.settings.dumpFolder = some folder)
    (path : c.recorder.settings.outputPath = out) (use : Use) :
    (c.step use).recorder.Sound ∧ (c.step use).recorder.settings.dumpFolder = some folder ∧
      (c.step use).recorder.settings.outputPath = out := by
  obtain ⟨sound', settings⟩ := step_sound sound use
  rw [settings]
  exact ⟨sound', dumping, path⟩

/-- Whatever is done with both, two lives go on alongside each other. -/
theorem Alongside.step (h : Alongside folder out c c') (refusals : c'.around.disk.refusals = c.around.disk.refusals)
    (use : Use) : Alongside folder out (c.step use) (c'.step use) := by
  obtain ⟨sound, dumping, path⟩ := step_settings h.sound h.dumping h.path use
  suffices rest : Abreast folder out (c.step use).recorder (c.step use).around (c'.step use).recorder (c'.step use).around ∧
      (c'.step use).replies = (c.step use).replies ∧ (c'.step use).traffic = (c.step use).traffic from
    ⟨sound, dumping, path, rest.1, rest.2.1, rest.2.2⟩
  unfold Life.step
  cases use with
  | start startedAt =>
    obtain ⟨a, r₁, s₁, r₁', s₁', started, started', abreast⟩ := h.abreast.start h.path startedAt
    dsimp only
    rw [started, started', h.replies]
    exact ⟨abreast, rfl, h.traffic⟩
  | write i =>
    obtain ⟨⟨a, r₁, s₁, r₁', s₁', written, written', abreast⟩, traffic⟩ := h.abreast.write h.sound h.dumping refusals i
    dsimp only
    rw [written, written', h.replies, h.traffic, traffic, h.abreast.counters]
    refine ⟨abreast, ?_, rfl⟩
    dsimp only
    rw [abreast.counters]
  | stop now elapsed =>
    obtain ⟨⟨a, r₁, s₁, r₁', s₁', stopped, stopped', abreast⟩, traffic⟩ := h.abreast.stop refusals now elapsed
    dsimp only
    rw [stopped, stopped', h.replies, h.traffic, traffic]
    exact ⟨abreast, rfl, rfl⟩
  | discard now =>
    obtain ⟨abreast, traffic⟩ := h.abreast.discard refusals now
    dsimp only
    rw [h.replies, h.traffic, traffic]
    exact ⟨abreast, rfl, rfl⟩

/-- Two lives go on alongside each other on any occasions. -/
theorem Alongside.meetAll (h : Alongside folder out c c') (occasions : List Occasion) :
    Alongside folder out (c.meetAll occasions) (c'.meetAll occasions) := by
  induction occasions generalizing c c' with
  | nil => exact h
  | cons o occasions ih =>
    have faced : Alongside folder out (c.facing o.refusals) (c'.facing o.refusals) :=
      ⟨h.sound, h.dumping, h.path, h.abreast.facing o.refusals, h.replies, h.traffic⟩
    exact ih (faced.step rfl o.use)

end Life

end Camcorder
