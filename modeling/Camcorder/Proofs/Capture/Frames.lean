import Mathlib
import Camcorder.Capture.Recorder
import Camcorder.Proofs.Encoding.Requests
import Camcorder.Proofs.Picture.Filling

/-!
# What becomes of a frame

A frame that a recorder takes meets one `Fate`. `Recorder.prepare_cases` is what happens before it reaches the
encoder, `Recorder.encode_frames` what happens from then on.
-/

namespace Camcorder

/-- What becomes of a frame that was counted. -/
inductive Fate where
  | submitted
  | unrecognized
  | undecodable
  | backpressure
  | mismatched
  /-- The encoder failed to take it. -/
  | lost
deriving DecidableEq, Repr

/-- The fate of a frame whose picture was submitted to the encoder. -/
def Fate.ofSubmission : Attempt Submission → Fate
  | .ok (.queued _) => .submitted
  | .ok .dropped => .backpressure
  | .error _ => .lost

/-- A picture is lost just when its submission failed. -/
theorem Fate.ofSubmission_eq_lost_iff (a : Attempt Submission) : ofSubmission a = .lost ↔ ∃ failure, a = .error failure := by
  unfold ofSubmission
  split <;> simp

/-- A frame that reaches the encoder is not dropped as one that cannot be converted. -/
theorem Fate.ofSubmission_late (a : Attempt Submission) :
    ¬(ofSubmission a = .mismatched ∨ ofSubmission a = .unrecognized ∨ ofSubmission a = .undecodable) := by
  unfold ofSubmission
  split <;> simp

namespace Counters

/-- Counts the fate of a frame. A frame that the encoder failed to take is not counted any further. -/
def count (c : Counters) : Fate → Counters
  | .submitted => { c with framesSubmitted := c.framesSubmitted + 1 }
  | .unrecognized => { c with droppedUnrecognized := c.droppedUnrecognized + 1 }
  | .undecodable => { c with droppedUndecodable := c.droppedUndecodable + 1 }
  | .backpressure => { c with droppedBackpressure := c.droppedBackpressure + 1 }
  | .mismatched => { c with droppedMismatch := c.droppedMismatch + 1 }
  | .lost => c

/-- The counters of frames, the counters of samples left out. -/
def frames (c : Counters) : Counters := { c with samplesWritten := 0, samplesDropped := 0 }

theorem of_frames_eq {c c' : Counters} (h : c'.frames = c.frames) :
    c'.framesReceived = c.framesReceived ∧ c'.framesSubmitted = c.framesSubmitted ∧ c'.dropped = c.dropped := by
  have received : c'.frames.framesReceived = c.frames.framesReceived := by rw [h]
  have submitted : c'.frames.framesSubmitted = c.frames.framesSubmitted := by rw [h]
  have dropped : c'.frames.dropped = c.frames.dropped := by rw [h]
  exact ⟨received, submitted, dropped⟩

end Counters

namespace FrameFormat

/-- The format of a frame is found whenever the sizes of its frames fit into a word. -/
theorem classify_ok {g : Geometry} (fits : g.pixels * 3 < wordLimit) (data : Bytes) :
    ∃ f, classify data g = .ok f := by
  rcases g.lengths_of_fits fits with ⟨len420, len422⟩
  unfold classify
  rw [len420, len422]
  dsimp only [Attempt.ofOption, bind, Except.bind]
  split
  · exact ⟨_, rfl⟩
  · split
    · exact ⟨_, rfl⟩
    · split
      · exact ⟨_, rfl⟩
      · split <;> exact ⟨_, rfl⟩

/-- The format is found as well when a hint goes with the frame. -/
theorem classifyAs_ok {g : Geometry} (fits : g.pixels * 3 < wordLimit) (data : Bytes) (hint : Option FrameFormat) :
    ∃ f, classifyAs data g hint = .ok f := by
  unfold classifyAs
  cases hint with
  | none => exact classify_ok fits data
  | some f =>
    have accepts : ∃ b, f.acceptsLength data.size g = .ok b := ⟨_, Converter.acceptsLength_eq fits f data.size⟩
    rcases accepts with ⟨b, hb⟩
    dsimp only
    rw [hb]
    cases b with
    | true => exact ⟨some f, rfl⟩
    | false => exact classify_ok fits data

end FrameFormat

namespace Recorder

variable {β σ γ : Type} {r : Recorder β σ γ} {x : Recording σ γ}

/-- Reporting the first frame succeeds, and does not touch the disk. -/
theorem noteFirst_ok (r : Recorder β σ γ) (raw : Bytes) {g : Geometry} (fits : g.pixels * 3 < wordLimit)
    (s : Surroundings) : ∃ s', r.noteFirst raw g s = .ok s' ∧ s'.disk = s.disk := by
  rcases g.lengths_of_fits fits with ⟨len420, len422⟩
  unfold noteFirst
  rw [len420, len422]
  split
  · exact ⟨_, rfl, rfl⟩
  · exact ⟨s, rfl, rfl⟩

/-- How many frames are kept after one more that cannot be decoded, if `k` were before. -/
def countDump (k : Nat) : Nat := if maxDumps ≤ k then k else k + 1

theorem countDump_min (k : Nat) : countDump (min maxDumps k) = min maxDumps (k + 1) := by
  unfold countDump
  split <;> omega

/-- The disk after the undecodable frame `k` was kept, if there is a place for it. -/
def dumped (folder : Option String) (k : Nat) (raw : Bytes) (disk : FileTree) : FileTree :=
  match folder with
  | none => disk
  | some folder =>
    if maxDumps ≤ k then disk
    else match disk.makeFolders folder with
      | .error _ => disk
      | .ok disk => (disk.write (FileTree.join folder (dumpName k)) raw).2

/-- Keeping an undecodable frame changes nothing of the recorder but how many were kept. -/
theorem dump_eq (r : Recorder β σ γ) (raw : Bytes) (s : Surroundings) :
    ∃ s', r.dump raw s = ({ r with dumps := countDump r.dumps }, s') ∧
      s'.disk = dumped r.settings.dumpFolder r.dumps raw s.disk := by
  unfold dump countDump dumped
  by_cases enough : maxDumps ≤ r.dumps
  · rw [if_pos enough, if_pos enough]
    refine ⟨s, rfl, ?_⟩
    cases r.settings.dumpFolder with
    | none => rfl
    | some folder => exact (if_pos enough).symm
  · rw [if_neg enough, if_neg enough]
    cases r.settings.dumpFolder with
    | none => exact ⟨s, rfl, rfl⟩
    | some folder =>
      dsimp only
      rw [if_neg enough]
      cases s.disk.makeFolders folder with
      | error cause => exact ⟨_, rfl, rfl⟩
      | ok disk =>
        dsimp only
        rcases disk.write (FileTree.join folder (dumpName r.dumps)) raw with ⟨cause | _, disk'⟩
        · exact ⟨_, rfl, rfl⟩
        · exact ⟨_, rfl, rfl⟩

/-- The recorder after a frame met its fate before it reached the encoder. -/
def afterDrop (r : Recorder β σ γ) (fate : Fate) (dumps : Nat) : Recorder β σ γ :=
  { r with counters := r.counters.count fate, dumps }

/-- A frame that was counted is dropped before it reaches the encoder, which leaves the recording as it was, or
becomes a picture of the right length. Only the converter has a part in it. A frame that cannot be decoded is kept. -/
theorem prepare_outcomes {converter : Converter} (sound : converter.Sound) (raw : Bytes) (hint : Option FrameFormat) :
    (∃ fate, (fate = .mismatched ∨ fate = .unrecognized) ∧
      ∀ (r : Recorder β σ γ) (x : Recording σ γ) s, x.converter = converter →
        ∃ s', r.prepare x raw hint s = (.ok none, r.afterDrop fate r.dumps, x, s') ∧ s'.disk = s.disk) ∨
    (∀ (r : Recorder β σ γ) (x : Recording σ γ) s, x.converter = converter →
      ∃ s', r.prepare x raw hint s = (.ok none, r.afterDrop .undecodable (countDump r.dumps), x, s') ∧
        s'.disk = dumped r.settings.dumpFolder r.dumps raw s.disk) ∨
    ∃ frame after, Converter.Kept converter after ∧ frame.bytes.size = converter.geometry.pixels * 3 / 2 ∧
      ∀ (r : Recorder β σ γ) (x : Recording σ γ) s, x.converter = converter →
        ∃ s', r.prepare x raw hint s = (.ok (some frame), r, { x with converter := after }, s') ∧ s'.disk = s.disk := by
  rcases FrameFormat.classifyAs_ok sound.fits raw hint with ⟨format, classified⟩
  unfold prepare
  -- A frame of no format is dropped as what the camera did not say it is, or as what nobody said it is.
  cases format with
  | none =>
    left
    cases hint with
    | none =>
      refine ⟨.unrecognized, .inr rfl, ?_⟩
      rintro r x s rfl
      rcases r.noteFirst_ok raw sound.fits s with ⟨s₁, noted, same⟩
      rw [noted, classified]
      exact ⟨_, rfl, same⟩
    | some f =>
      refine ⟨.mismatched, .inl rfl, ?_⟩
      rintro r x s rfl
      rcases r.noteFirst_ok raw sound.fits s with ⟨s₁, noted, same⟩
      rw [noted, classified]
      exact ⟨_, rfl, same⟩
  | some f =>
    rcases sound.convert raw f with ⟨e, refused⟩ | ⟨frame, after, kept, size, converted⟩
    · -- Only a frame that cannot be decoded is kept for later.
      cases e with
      | decode cause =>
        refine .inr (.inl ?_)
        rintro r x s rfl
        rcases r.noteFirst_ok raw sound.fits s with ⟨s₁, noted, same⟩
        rcases dump_eq { r with counters := r.counters.count .undecodable } raw
          (s₁.note (.frameUndecodable r.counters.framesReceived f cause)) with ⟨s₂, came, disk⟩
        rw [noted, classified]
        dsimp only
        rw [refused]
        refine ⟨s₂, ?_, disk.trans (congrArg _ same)⟩
        dsimp only [Counters.count] at came
        dsimp only [Attempt.refuse, dropUnconverted]
        rw [came]
        rfl
      | _ =>
        refine .inl ⟨.unrecognized, .inr rfl, ?_⟩
        rintro r x s rfl
        rcases r.noteFirst_ok raw sound.fits s with ⟨s₁, noted, same⟩
        rw [noted, classified]
        dsimp only
        rw [refused]
        exact ⟨_, rfl, same⟩
    · refine .inr (.inr ⟨frame, after, kept, size, ?_⟩)
      rintro r x s rfl
      rcases r.noteFirst_ok raw sound.fits s with ⟨s₁, noted, same⟩
      rcases converted s₁.journal with ⟨j, converted⟩
      rw [noted, classified]
      dsimp only
      rw [converted]
      exact ⟨_, rfl, same⟩

/-- What becomes of a frame before it reaches the encoder, as far as it matters where undecodable frames are not
kept. -/
theorem prepare_cases {x : Recording σ γ} (sound : x.converter.Sound) (raw : Bytes) (hint : Option FrameFormat) :
    (∃ fate, (fate = .mismatched ∨ fate = .unrecognized ∨ fate = .undecodable) ∧
      ∀ (r : Recorder β σ γ) s, ∃ dumps s', r.prepare x raw hint s = (.ok none, r.afterDrop fate dumps, x, s') ∧
        (r.settings.dumpFolder = none → s'.disk = s.disk)) ∨
    ∃ frame converter, Converter.Kept x.converter converter ∧
      frame.bytes.size = x.converter.geometry.pixels * 3 / 2 ∧
      ∀ (r : Recorder β σ γ) s, ∃ s', r.prepare x raw hint s = (.ok (some frame), r, { x with converter }, s') ∧
        s'.disk = s.disk := by
  rcases prepare_outcomes (β := β) (σ := σ) (γ := γ) sound raw hint with
    ⟨fate, early, dropped⟩ | dropped | ⟨frame, converter, kept, size, became⟩
  · refine .inl ⟨fate, early.imp_right .inl, fun r s => ?_⟩
    obtain ⟨s', prepared, same⟩ := dropped r x s rfl
    exact ⟨r.dumps, s', prepared, fun _ => same⟩
  · refine .inl ⟨.undecodable, .inr (.inr rfl), fun r s => ?_⟩
    obtain ⟨s', prepared, disk⟩ := dropped r x s rfl
    refine ⟨_, s', prepared, fun folder => ?_⟩
    rw [disk, folder]
    rfl
  · exact .inr ⟨frame, converter, kept, size, fun r s => became r x s rfl⟩

variable [Coder σ]

/-! ## The beginning -/

/-- Where nothing is at the output path there is nothing to clear. -/
theorem clearOutput_of_missing {c : CaptureSettings} {disk : FileTree} (h : disk.remove c.outputPath = .error .notFound) :
    clearOutput c disk = .ok disk := by
  unfold clearOutput
  rw [h]

/-- What a recording consists of when it begins. -/
theorem openRecording_ok [Backend β σ] {r : Recorder β σ γ} {startedAt : Timestamp} {s s' : Surroundings} {x : Recording σ γ}
    {b : β} (h : r.openRecording startedAt s = (.ok x, b, s')) :
    ∃ encoder layout j j' converter throughput,
      openEncoder r.settings r.backend s.journal = (.ok (encoder, layout), b, j) ∧
      Converter.create r.settings.geometry layout j r.memory = (.ok converter, j') ∧
      x = { encoder, writer := TrackWriter.create r.settings startedAt.render,
            converter := { converter with decode := r.decode }, throughput, startedAt } := by
  unfold openRecording at h
  split at h
  · cases h
  · split at h
    · cases h
    · rename_i encoder layout b' j opened
      dsimp only at h
      rcases created : Converter.create r.settings.geometry layout j r.memory with ⟨failure | converter, j'⟩
      · rw [created] at h
        cases h
      · rw [created] at h
        rcases collected : Throughput.create r.settings.window r.settings.minimumRate with failure | throughput
        · simp only [bind, Except.bind, collected] at h
          cases h
        · simp only [bind, Except.bind, collected, pure, Except.pure] at h
          cases h
          exact ⟨encoder, layout, j, j', converter, throughput, opened, created, rfl⟩

/-- A recording that is opened finds the disk with its way cleared. -/
theorem clearOutput_of_openRecording [Backend β σ] {r : Recorder β σ γ} {startedAt : Timestamp} {s s' : Surroundings}
    {x : Recording σ γ} {b : β} (h : r.openRecording startedAt s = (.ok x, b, s')) :
    clearOutput r.settings s.disk = .ok s'.disk := by
  unfold openRecording at h
  split at h
  · cases h
  · rename_i disk cleared
    rw [cleared]
    split at h
    · cases h
    · dsimp only at h
      split at h
      · cases h
        rfl
      · cases h

/-! ## From the encoder on -/

/-- What the encoder of a recording answers for a picture, and the encoder afterwards. -/
def offered (x : Recording σ γ) (picture : Bytes) (now : Nat) : Attempt Submission × Encoder σ :=
  (x.encoder.stamp now).2.submit picture (x.encoder.stamp now).1

/-- What the journal says of the answer of the encoder. -/
def noteRejected (s : Surroundings) (frame : Nat) : Attempt Submission → Surroundings
  | .error (.error e) => s.note (.frameRejected frame e)
  | _ => s

/-- Only a fault of the encoder ends the call. -/
def verdict : Attempt Submission → Attempt Unit
  | .error (.fault f) => Attempt.halt f
  | _ => .ok ()

/-- A submission counts the fate of its picture and changes the encoder, and nothing else of the recording. -/
theorem submit_eq (r : Recorder β σ γ) (x : Recording σ γ) (picture : Bytes) (now : Nat) (s : Surroundings) :
    r.submit x picture now s =
      (verdict (offered x picture now).1,
        { r with counters := r.counters.count (Fate.ofSubmission (offered x picture now).1) },
        { x with encoder := (offered x picture now).2 },
        noteRejected s r.counters.framesReceived (offered x picture now).1) := by
  unfold submit offered
  dsimp only
  rcases (x.encoder.stamp now).2.submit picture (x.encoder.stamp now).1 with ⟨(e | f) | pts | _, encoder⟩ <;> rfl

/-- A submission neither allocates an instance nor destroys one. -/
theorem offered_isAllocated (x : Recording σ γ) (picture : Bytes) (now : Nat) :
    (offered x picture now).2.isAllocated = x.encoder.isAllocated :=
  (x.encoder.stamp now).2.submit_isAllocated picture (x.encoder.stamp now).1

variable [Container γ]

/-- Passing samples on changes no counter of frames, and nothing of the recording but the encoder and the writer. -/
theorem forward_frames (r : Recorder β σ γ) (x : Recording σ γ) (now : Nat) (s : Surroundings) :
    ∃ a counters encoder writer s', r.forward x now s =
      (a, { r with counters }, { x with encoder, writer }, s') ∧ counters.frames = r.counters.frames ∧
      encoder.isAllocated = x.encoder.isAllocated := by
  have allocated := x.encoder.drain_isAllocated false ({ writer := x.writer, around := s } : WritingDesk γ) now
  unfold forward
  rcases drained : x.encoder.drain false ({ writer := x.writer, around := s } : WritingDesk γ) now with
    ⟨(e | f) | tally, encoder, desk⟩
  · rw [drained] at allocated
    exact ⟨_, _, _, _, _, rfl, rfl, allocated⟩
  · rw [drained] at allocated
    exact ⟨_, r.counters, _, _, _, rfl, rfl, allocated⟩
  · rw [drained] at allocated
    exact ⟨_, _, _, _, _, rfl, rfl, allocated⟩

/-- The counters of frames after a picture was encoded. -/
theorem encode_frames (r : Recorder β σ γ) (x : Recording σ γ) (frame : Converted) (clock : Readings)
    (s : Surroundings) :
    ∃ a counters x' s', r.encode x frame clock s = (a, { r with counters, recording := some x' }, s') ∧
      x'.converter = x.converter ∧ x'.encoder.isAllocated = x.encoder.isAllocated ∧
      counters.frames = (r.counters.count (Fate.ofSubmission (offered x frame.bytes clock.now).1)).frames := by
  have allocated := offered_isAllocated x frame.bytes clock.now
  unfold encode
  rw [submit_eq]
  generalize offered x frame.bytes clock.now = out at *
  -- After a fault the samples stay where they are.
  cases verdict out.1 with
  | error failure => exact ⟨_, _, { x with encoder := out.2 }, _, rfl, rfl, allocated, rfl⟩
  | ok u =>
    rcases forward_frames { r with counters := r.counters.count (Fate.ofSubmission out.1) }
      { x with encoder := out.2 } clock.now (noteRejected s r.counters.framesReceived out.1) with
      ⟨a, counters, encoder, writer, s', forwarded, same, kept⟩
    dsimp only
    rw [forwarded]
    cases a with
    | error failure => exact ⟨_, counters, { x with encoder, writer }, _, rfl, rfl, kept.trans allocated, same⟩
    | ok u =>
      exact ⟨_, counters, { x with encoder, writer, throughput := _ }, _, rfl, rfl, kept.trans allocated, same⟩

end Recorder

end Camcorder
