import Mathlib
import Camcorder.Encoding.Loopback
import Camcorder.Mp4.Document
import Camcorder.Proofs.Capture.Life
import Camcorder.Proofs.Encoding.Readiness
import Camcorder.Proofs.Picture.Recognition

/-!
# The parts of a recording fit together

The length and the layout of a picture are settled when a recording starts. From then on its converter makes pictures
that its encoder takes: whatever frames come, none is turned away by the one part for what the other one made of it
(`Life.parts_fit`). What still goes wrong comes from outside.
-/

namespace Camcorder

variable {β σ γ : Type} [Coder σ] {r : Recorder β σ γ} {f : StreamFormat} {x : Recording σ γ}

/-- The recorder `r` records `x`, whose encoder and converter were made for the format `f`. -/
structure Recorder.Fitted (r : Recorder β σ γ) (f : StreamFormat) (x : Recording σ γ) : Prop where
  held : r.recording = some x
  encoder : x.encoder.Ready f
  converter : x.converter.Sound
  geometry : x.converter.geometry = f.geometry
  layout : x.converter.layout = f.layout
  size : f.geometry = r.settings.geometry
  decode : x.converter.decode = r.decode

namespace Recorder

/-! ## The beginning -/

section Starting

variable [Backend β σ]

/-- An encoder that was opened is running in the format that its instance was made with, and expects pictures in the
layout of that format. -/
theorem openEncoder_ready {c : CaptureSettings} {b b' : β} {j j' : Journal} {encoder : Encoder σ} {layout : Layout}
    (opened : openEncoder c b j = (.ok (encoder, layout), b', j')) :
    ∃ f coder, Backend.create b f = (.ok coder, b') ∧ encoder.Ready f ∧ f.layout = layout ∧ f.geometry = c.geometry := by
  unfold openEncoder at opened
  rcases configured : ({} : Encoder σ).configure b c.request j with ⟨failure | f, e, j₁⟩
  · rw [configured] at opened
    cases opened
  · rw [configured] at opened
    dsimp only at opened
    rcases launched : e.launch b with ⟨failure | _, e', b₁⟩
    · rw [launched] at opened
      cases opened
    · rw [launched] at opened
      cases opened
      obtain ⟨_, width, height⟩ := Encoder.configure_ok configured
      obtain ⟨coder, coder', created, _, rfl⟩ := Encoder.opened configured launched
      refine ⟨f, coder, created, ⟨rfl, rfl, rfl⟩, rfl, ?_⟩
      have geometry : f.geometry = { width := c.width, height := c.height } := by
        unfold StreamFormat.geometry
        rw [width, height]
        rfl
      exact geometry

/-- The converter of a recording is made for the format that the instance was made with. -/
theorem fitted_of_opened {startedAt : Timestamp} {s s' : Surroundings} {b : β}
    (opened : r.openRecording startedAt s = (.ok x, b, s')) :
    ∃ f coder, Backend.create r.backend f = (.ok coder, b) ∧
      Fitted { r with backend := b, recording := some x, state := .recording } f x := by
  obtain ⟨encoder, layout, j, j', converter, throughput, begun, created, rfl⟩ := openRecording_ok opened
  obtain ⟨f, coder, made, ready, same, size⟩ := openEncoder_ready begun
  obtain ⟨sound, geometry, layout'⟩ := Converter.create_sound created
  refine ⟨f, coder, made, rfl, ready, ⟨sound.fits, sound.arena⟩, ?_, ?_, size, rfl⟩
  · exact geometry.trans size.symm
  · exact layout'.trans same.symm

end Starting

/-! ## Frames -/

variable [Container γ]

/-- Passing samples on leaves the encoder ready. -/
theorem forward_ready (r : Recorder β σ γ) (ready : x.encoder.Ready f) (now : Nat) (s : Surroundings) :
    (r.forward x now s).2.2.1.encoder.Ready f := by
  have drained := ready.drain ({ writer := x.writer, around := s } : WritingDesk γ) now
  unfold forward
  rcases outcome : x.encoder.drain false ({ writer := x.writer, around := s } : WritingDesk γ) now with
    ⟨(e | f) | tally, encoder, desk⟩
  · rw [outcome] at drained
    exact drained
  · rw [outcome] at drained
    exact drained
  · rw [outcome] at drained
    exact drained

/-- A picture that is encoded leaves the encoder ready for the next one. -/
theorem encode_ready (r : Recorder β σ γ) {x' : Recording σ γ} (ready : x.encoder.Ready f) (frame : Converted)
    (clock : Readings) (s : Surroundings) (held : (r.encode x frame clock s).2.1.recording = some x') :
    x'.encoder.Ready f := by
  have submitted : (offered x frame.bytes clock.now).2.Ready f := (ready.stamp clock.now).submit frame.bytes _
  unfold encode at held
  rw [submit_eq] at held
  generalize offered x frame.bytes clock.now = out at submitted held
  cases answer : verdict out.1 with
  | error failure =>
    rw [answer] at held
    cases held
    exact submitted
  | ok u =>
    rw [answer] at held
    dsimp only at held
    have forwarded := forward_ready { r with counters := r.counters.count (Fate.ofSubmission out.1) }
      (x := { x with encoder := out.2 }) submitted clock.now (noteRejected s r.counters.framesReceived out.1)
    rcases outcome : forward { r with counters := r.counters.count (Fate.ofSubmission out.1) } { x with encoder := out.2 }
      clock.now (noteRejected s r.counters.framesReceived out.1) with ⟨failure | u, r', x₁, s'⟩
    · rw [outcome] at forwarded held
      cases held
      exact forwarded
    · rw [outcome] at forwarded held
      cases held
      exact forwarded

/-- A frame leaves the parts of a recording as they fit together. -/
theorem Fitted.write (h : r.Fitted f x) (state : r.state = .recording) (raw : Bytes) (hint : Option FrameFormat)
    (clock : Readings) (s : Surroundings) : ∃ x', (r.write raw hint clock s).2.1.Fitted f x' := by
  have written : r.write raw hint clock s = r.receive.process x raw hint clock s := by
    unfold Recorder.write
    rw [state, h.held]
  rw [written]
  unfold process
  rcases prepare_cases (β := β) h.converter raw hint with ⟨fate, _, dropped⟩ | ⟨frame, converter, kept, _, became⟩
  · obtain ⟨dumps, s', prepared, _⟩ := dropped r.receive s
    rw [prepared]
    exact ⟨x, rfl, h.encoder, h.converter, h.geometry, h.layout, h.size, h.decode⟩
  · obtain ⟨s', prepared, _⟩ := became r.receive s
    rw [prepared]
    dsimp only
    obtain ⟨a, counters, x', s'', encoded, same, _⟩ := r.receive.encode_frames { x with converter } frame clock s'
    have held : (r.receive.encode { x with converter } frame clock s').2.1.recording = some x' := by rw [encoded]
    have ready : x'.encoder.Ready f := encode_ready r.receive (x := { x with converter }) h.encoder frame clock s' held
    rw [encoded]
    refine ⟨x', rfl, ready, ?_, ?_, ?_, h.size, ?_⟩
    · rw [same]
      exact kept.sound
    · rw [same]
      exact kept.geometry.trans h.geometry
    · rw [same]
      exact kept.layout.trans h.layout
    · rw [same]
      exact kept.decode.trans h.decode

end Recorder

/-! ## What cannot go wrong -/

omit [Coder σ] in
/-- The encoder expects pictures of the length that the converter makes. -/
theorem Recorder.Fitted.length (h : r.Fitted f x) : f.inputLength? = some (x.converter.geometry.pixels * 3 / 2) := by
  rw [f.inputLength?_eq, ← h.geometry]
  exact (x.converter.geometry.lengths_of_fits h.converter.fits).1

/-- No part of the recording `x` has an occasion to turn away what another part made. A frame whose format is recognised
is converted to a picture of `len` bytes in the layout of `f`, unless it is a compressed one that cannot be decoded. The
encoder, which is running and has an instance, expects pictures of this length, and fails such a picture only if the
instance does. A drain, also one after a picture, is never refused for the state of the encoder. -/
structure Recording.Serves (f : StreamFormat) (len : Nat) (x : Recording σ γ) : Prop where
  running : x.encoder.state = .running
  allocated : x.encoder.isAllocated = true
  format : x.encoder.format = some f
  length : f.inputLength? = some len
  geometry : x.converter.geometry = f.geometry
  layout : x.converter.layout = f.layout
  recognises : ∀ raw hint, ∃ answer, FrameFormat.classifyAs raw x.converter.geometry hint = .ok answer
  converts : ∀ raw hint tag j, FrameFormat.classifyAs raw x.converter.geometry hint = .ok (some tag) →
    x.converter.Converts f.layout len raw tag ((x.converter.convert raw tag j).1.map Converted.bytes)
  submits : ∀ picture pts now failure, picture.size = len →
    ((x.encoder.stamp now).2.submit picture pts).1 = .error failure →
      ∃ coder, x.encoder.instance? = some coder ∧ Encoder.Fails coder picture pts failure
  drains : ∀ {κ : Type} [Sink κ] (sink : κ) now cause,
    (x.encoder.drain false sink now).1 ≠ Attempt.refuse (.invalidState cause)
  drainsNext : ∀ {κ : Type} [Sink κ] (sink : κ) picture pts now cause,
    (((x.encoder.stamp now).2.submit picture pts).2.drain false sink now).1 ≠ Attempt.refuse (.invalidState cause)

/-- What was fitted together serves frames of the size of the converter. -/
theorem Recorder.Fitted.serves (h : r.Fitted f x) : x.Serves f (x.converter.geometry.pixels * 3 / 2) where
  running := h.encoder.state
  allocated := h.encoder.allocated
  format := h.encoder.format
  length := h.length
  geometry := h.geometry
  layout := h.layout
  recognises raw hint := FrameFormat.classifyAs_ok h.converter.fits raw hint
  converts := by
    intro raw hint tag j found
    have accepted := FrameFormat.acceptsLength_of_classifyAs h.converter.fits found
    have converted := Converter.convert_recognised h.converter accepted j
    rw [h.layout] at converted
    exact converted
  submits := by
    intro picture pts now failure size failed
    exact (h.encoder.stamp now).submit_fails h.length size failed
  drains := by
    intro κ _ sink now cause
    exact h.encoder.drain_fits sink now cause
  drainsNext := by
    intro κ _ sink picture pts now cause
    exact ((h.encoder.stamp now).submit picture pts).drain_fits sink now cause

namespace Life

variable [Backend β σ] [Container γ] {fresh c : Life β σ γ}

/-- Among the uses there is a start that succeeded, at which the backend made an instance for the format `f`. -/
def MadeFor (fresh : Life β σ γ) (uses : List Use) (f : StreamFormat) : Prop :=
  ∃ earlier startedAt later coder b, uses = earlier ++ .start startedAt :: later ∧
    ((fresh.run earlier).recorder.start startedAt (fresh.run earlier).around).1 = .ok true ∧
    Backend.create (fresh.run earlier).recorder.backend f = (.ok coder, b)

/-- One more use does not change which format the instance was made for. -/
theorem MadeFor.concat {uses : List Use} (h : MadeFor fresh uses f) (use : Use) : MadeFor fresh (uses ++ [use]) f := by
  obtain ⟨earlier, startedAt, later, coder, b, rfl, succeeded, created⟩ := h
  refine ⟨earlier, startedAt, later ++ [use], coder, b, ?_, succeeded, created⟩
  rw [List.append_assoc, List.cons_append]

/-- A recorder that records after a use recorded before, and its parts still fit together if they did; or the use was a
start, which made parts that do. -/
theorem step_fitted (use : Use) (state : (c.step use).recorder.state = .recording) :
    (c.recorder.state = .recording ∧ ∀ f x, c.recorder.Fitted f x → ∃ x', (c.step use).recorder.Fitted f x') ∨
    ∃ startedAt f coder b x, use = .start startedAt ∧ (c.recorder.start startedAt c.around).1 = .ok true ∧
      Backend.create c.recorder.backend f = (.ok coder, b) ∧ (c.step use).recorder.Fitted f x := by
  cases use with
  | start startedAt =>
    have begun : (c.step (.start startedAt)).recorder = (c.recorder.start startedAt c.around).2.1 := rfl
    rw [begun] at state ⊢
    by_cases idle : c.recorder.state = .idle
    · rcases Recorder.start_cases idle startedAt c.around with
        ⟨_, _, _, _, _, failed⟩ | ⟨x, b, s', opened, _, started⟩
      · rw [failed] at state
        have still : c.recorder.state = .recording := state
        rw [idle] at still
        cases still
      · obtain ⟨f, coder, created, fitted⟩ := Recorder.fitted_of_opened opened
        have succeeded : (c.recorder.start startedAt c.around).1 = .ok true := congrArg Prod.fst started
        rw [started]
        exact .inr ⟨startedAt, f, coder, b, x, rfl, succeeded, created, fitted⟩
    · rw [Recorder.start_busy idle] at state ⊢
      exact .inl ⟨state, fun f x fitted => ⟨x, fitted⟩⟩
  | write i =>
    left
    have before : c.recorder.state = .recording := by
      by_contra elsewhere
      have same : (c.step (.write i)).recorder = c.recorder := by
        show (c.recorder.write i.raw i.hint i.clock c.around).2.1 = _
        rw [Recorder.write_elsewhere elsewhere]
      rw [same] at state
      exact elsewhere state
    exact ⟨before, fun f x fitted => fitted.write before i.raw i.hint i.clock c.around⟩
  | stop now elapsed =>
    have ended : (c.step (.stop now elapsed)).recorder.state = .stopped := Recorder.state_stop ..
    rw [ended] at state
    cases state
  | discard now =>
    have ended : (c.step (.discard now)).recorder.state = _ := Recorder.state_discard c.recorder now c.around
    rw [ended] at state
    split at state
    · cases state
    · contradiction

/-- As long as a recorder records, the parts of its recording fit together, in the format that its instance was made
for. -/
theorem fitted_run (idle : fresh.recorder.state = .idle) (uses : List Use)
    (state : (fresh.run uses).recorder.state = .recording) :
    ∃ f x, (fresh.run uses).recorder.Fitted f x ∧ MadeFor fresh uses f := by
  -- By induction on the uses, the last one first: a start makes the parts, and the other uses keep them.
  induction uses using List.reverseRecOn with
  | nil =>
    have still : fresh.recorder.state = .recording := state
    rw [idle] at still
    cases still
  | append_singleton uses use ih =>
    rw [run_append] at state ⊢
    rcases step_fitted use state with
      ⟨before, kept⟩ | ⟨startedAt, f, coder, b, x, rfl, succeeded, created, fitted⟩
    · obtain ⟨f, x, fitted, made⟩ := ih before
      obtain ⟨x', fitted'⟩ := kept f x fitted
      exact ⟨f, x', fitted', made.concat use⟩
    · exact ⟨f, x, fitted, uses, startedAt, [], coder, b, rfl, succeeded, created⟩

/-- **The parts of a recording fit together.** Whatever the settings, the backend and the decoder are, and in whatever
order a recorder is started, given frames, stopped and given up: while it records, no part of its recording has an
occasion to turn away what another part made, in the format that the backend was asked for. -/
theorem parts_fit (settings : CaptureSettings) (backend : β)
    (decode : (g : Geometry) → Bytes → Except DecodeCause (ColourPicture g)) (memory : Memory) (around : Surroundings)
    (uses : List Use)
    (state :
      (({ recorder := { settings, backend, decode, memory }, around } : Life β σ γ).run uses).recorder.state = .recording) :
    let fresh : Life β σ γ := { recorder := { settings, backend, decode, memory }, around }
    ∃ x f len, (fresh.run uses).recorder.recording = some x ∧ MadeFor fresh uses f ∧ x.Serves f len := by
  intro fresh
  have idle : fresh.recorder.state = .idle := rfl
  obtain ⟨f, x, fitted, made⟩ := fitted_run idle uses state
  exact ⟨x, f, _, fitted.held, made, fitted.serves⟩

/-- After a start and a frame the parts fit together. -/
theorem parts_fit_single :
    let settings : CaptureSettings := { width := 2, height := 2, outputPath := "o" }
    let fresh : Life Loopback Loopback.Instance Mp4.Movie := { recorder := { settings, backend := {} } }
    let frame : Incoming := { raw := Bytes.fill 6 1, clock := { now := 5 } }
    let uses : List Use := [.start { seconds := 0, nanos := 0 }, .write frame]
    (fresh.run uses).recorder.state = .recording ∧
      ∃ x f len, (fresh.run uses).recorder.recording = some x ∧ MadeFor fresh uses f ∧ x.Serves f len := by
  intro settings fresh frame uses
  have missing : ({} : FileTree).remove "o" = .error .notFound := by cbv
  have opened : (fresh.step (.start { seconds := 0, nanos := 0 })).recorder.state = .recording := by
    unfold fresh settings step Recorder.start Recorder.openRecording
    dsimp only
    rw [Recorder.clearOutput_of_missing missing]
    decide +kernel
  have state : (fresh.run uses).recorder.state = .recording := by
    have idle : fresh.recorder.Sound := Recorder.sound_of_ne (show RecorderState.idle ≠ .recording by decide)
    obtain ⟨sound, _⟩ := step_sound idle (.start { seconds := 0, nanos := 0 })
    obtain ⟨_, kept, _⟩ := sound.write frame (fresh.step (.start { seconds := 0, nanos := 0 })).around
    exact kept.trans opened
  exact ⟨state, parts_fit (γ := Mp4.Movie) settings ({} : Loopback) Jpeg.decode .ample {} uses state⟩

end Life

end Camcorder
