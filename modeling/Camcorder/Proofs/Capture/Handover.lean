import Mathlib
import Camcorder.Mp4.Document
import Camcorder.Proofs.Capture.Calls
import Camcorder.Proofs.Capture.Frames
import Camcorder.Proofs.Capture.Writing
import Camcorder.Proofs.Encoding.LoopbackPace

/-!
# Handing everything over

A recorder drains its encoder once after every picture, and once more when it is stopped. With a loopback encoder
that is enough: whatever was queued is given to the writer. A `Reel` is a recorder that is being used, with a record
of what went through it; the record is kept by an observed writer, which does not change what the recorder does
(`Encoder.drain_observed`). `Loopback.Underway` is what holds between two frames, and `Loopback.Underway.write` and
`Loopback.Underway.stop` say what a call comes to.

The record is kept beside the recorder, so it has to be shown true of it. `Traffic.Faithful` says that the writer in the
recorder was given just what the record says; every frame keeps it (`Traffic.Faithful.write`), and at the end the
recorder finishes the writer that was given the rest (`Recorder.stop_given`).
-/

namespace Camcorder

open Delivery

/-- A frame as it comes to a recorder, and what the clocks show meanwhile. -/
structure Incoming where
  raw : Bytes
  hint : Option FrameFormat := none
  clock : Readings := {}

/-- What went through a recorder: pictures to the encoder, and what the writer was given. -/
structure Traffic where
  submissions : List Submitted := []
  heard : List Delivery := []

namespace Recorder

variable {β σ γ : Type} [Coder σ] [Container γ]

/-- The traffic after a picture was encoded (`Traffic.Faithful.encode`: the writer was given what is heard). -/
def encodeTraffic (r : Recorder β σ γ) (t : Traffic) (x : Recording σ γ) (frame : Converted) (now : Nat)
    (s : Surroundings) : Traffic :=
  let pts := (x.encoder.stamp now).1
  let submissions := t.submissions ++ [{ picture := frame.bytes, pts, answer := (offered x frame.bytes now).1 }]
  match r.submit x frame.bytes now s with
  | (.error _, _) => { t with submissions }
  | (.ok (), _, x, s) =>
    { submissions, heard := x.encoder.heardAfter false ({ writer := x.writer, around := s } : WritingDesk γ) t.heard now }

/-- The traffic after a frame (`Traffic.Faithful.write`). -/
def writeTraffic (r : Recorder β σ γ) (t : Traffic) (i : Incoming) (s : Surroundings) : Traffic :=
  match r.state, r.recording with
  | .recording, some x =>
    match r.receive.prepare x i.raw i.hint s with
    | (.ok (some frame), r, x, s) => r.encodeTraffic t x frame i.clock.now s
    | _ => t
  | _, _ => t

/-- The traffic after the end of the recording (`stop_given`: the writer that is finished was given all that is heard). -/
def stopTraffic (r : Recorder β σ γ) (t : Traffic) (now : Nat) (s : Surroundings) : Traffic :=
  match r.state, r.recording with
  | .recording, some x =>
    { t with heard := x.encoder.heardAfter true ({ writer := x.writer, around := s } : WritingDesk γ) t.heard now }
  | _, _ => t

/-- What is not recorded does not go through. -/
theorem writeTraffic_elsewhere {r : Recorder β σ γ} (state : r.state ≠ .recording) (t : Traffic)
    (i : Incoming) (s : Surroundings) : r.writeTraffic t i s = t := by
  unfold writeTraffic
  split
  · contradiction
  · rfl

/-- What is not recorded has no end. -/
theorem stopTraffic_elsewhere {r : Recorder β σ γ} (state : r.state ≠ .recording) (t : Traffic) (now : Nat)
    (s : Surroundings) : r.stopTraffic t now s = t := by
  unfold stopTraffic
  split
  · contradiction
  · rfl

/-- What is recorded goes through once it is prepared. -/
theorem writeTraffic_recording {r : Recorder β σ γ} {x : Recording σ γ} (state : r.state = .recording)
    (held : r.recording = some x) (t : Traffic) (i : Incoming) (s : Surroundings) :
    r.writeTraffic t i s = match r.receive.prepare x i.raw i.hint s with
      | (.ok (some frame), r, x, s) => r.encodeTraffic t x frame i.clock.now s
      | _ => t := by
  unfold writeTraffic
  rw [state, held]

/-- At the end the writer hears what the encoder still holds. -/
theorem stopTraffic_recording {r : Recorder β σ γ} {x : Recording σ γ} (state : r.state = .recording)
    (held : r.recording = some x) (t : Traffic) (now : Nat) (s : Surroundings) :
    r.stopTraffic t now s = { t with
      heard := x.encoder.heardAfter true ({ writer := x.writer, around := s } : WritingDesk γ) t.heard now } := by
  unfold stopTraffic
  rw [state, held]

/-- A picture that the encoder has an answer for, and a drain that the writer survives. -/
theorem encode_of_drained (r : Recorder β σ γ) {r₁ : Recorder β σ γ} {x x₁ : Recording σ γ} {frame : Converted}
    {clock : Readings} {s s₁ : Surroundings} {tally : Tally} {e : Encoder σ} {desk : WritingDesk γ}
    (submitted : r.submit x frame.bytes clock.now s = (.ok (), r₁, x₁, s₁))
    (drained : x₁.encoder.drain false ({ writer := x₁.writer, around := s₁ } : WritingDesk γ) clock.now =
      (.ok tally, e, desk)) :
    ∃ throughput s', r.encode x frame clock s = (.ok (), { r₁ with
        counters := { r₁.counters with samplesWritten := desk.writer.written, samplesDropped := desk.writer.dropped }
        recording := some { x₁ with encoder := e, writer := desk.writer, throughput } }, s') := by
  simp only [encode, submitted, forward, drained]
  exact ⟨_, _, rfl⟩

/-- A stop whose drain the writer survives answers with statistics. -/
theorem stop_of_drained [Backend β σ] {r : Recorder β σ γ} {x : Recording σ γ} {now : Nat} {s : Surroundings}
    {tally : Tally} {e : Encoder σ} {desk : WritingDesk γ} (state : r.state = .recording)
    (recording : r.recording = some x)
    (drained : x.encoder.drain true ({ writer := x.writer, around := s } : WritingDesk γ) now = (.ok tally, e, desk))
    (elapsed : Float) : ∃ statistics, (r.stop now elapsed s).1 = .ok (some statistics) := by
  simp only [stop, state, recording, close, drained]
  exact ⟨_, rfl⟩

end Recorder

/-! ## What went through was given to the writer -/

namespace Traffic

variable {β σ γ : Type} [Coder σ] [Container γ] {r : Recorder β σ γ} {x : Recording σ γ} {t : Traffic}
  {w : TrackWriter γ}

/-- What the traffic says was heard is what the writer of the recorder was given since it was `w`. -/
def Faithful (t : Traffic) (w : TrackWriter γ) (r : Recorder β σ γ) : Prop :=
  ∀ x, r.recording = some x → w.Given t.heard x.writer

omit [Coder σ] in
/-- The traffic is faithful if it is so of the one recording that the recorder has. -/
theorem faithful_recording {r' : Recorder β σ γ} (held : r'.recording = some x) (given : w.Given t.heard x.writer) :
    t.Faithful w r' := by
  intro x' held'
  rw [held] at held'
  cases held'
  exact given

omit [Coder σ] [Container γ] in
/-- A frame that is made ready for the encoder does not reach the writer. -/
theorem prepare_writer (r : Recorder β σ γ) (x : Recording σ γ) (raw : Bytes) (hint : Option FrameFormat)
    (s : Surroundings) : (r.prepare x raw hint s).2.2.1.writer = x.writer := by
  unfold Recorder.prepare
  split
  · rfl
  · split
    · rfl
    · rfl
    · dsimp only
      split
      · rfl
      · rfl
      · rfl

/-- A frame that is encoded keeps the traffic faithful, even if the encoder or the writer breaks down over it. -/
theorem Faithful.encode (given : w.Given t.heard x.writer) (frame : Converted) (clock : Readings) (s : Surroundings) :
    (r.encodeTraffic t x frame clock.now s).Faithful w (r.encode x frame clock s).2.1 := by
  unfold Recorder.encodeTraffic Recorder.encode
  rcases submitted : r.submit x frame.bytes clock.now s with ⟨answer, r₁, x₁, s₁⟩
  -- Submitting a picture does not touch the writer.
  obtain rfl : x₁ = { x with encoder := (Recorder.offered x frame.bytes clock.now).2 } :=
    congrArg (·.2.2.1) (submitted.symm.trans (r.submit_eq x frame.bytes clock.now s))
  cases answer with
  | error failure => exact faithful_recording rfl given
  | ok _ =>
    have forwarded := (Recorder.offered x frame.bytes clock.now).2.drain_given
      (k := { writer := x.writer, around := s₁ }) given false clock.now
    unfold Recorder.forward
    dsimp only
    rcases drained : (Recorder.offered x frame.bytes clock.now).2.drain false
        ({ writer := x.writer, around := s₁ } : WritingDesk γ) clock.now with ⟨(e | fault) | tally, encoder, desk⟩
    · rw [drained] at forwarded
      exact faithful_recording rfl forwarded
    · rw [drained] at forwarded
      exact faithful_recording rfl forwarded
    · rw [drained] at forwarded
      exact faithful_recording rfl forwarded

/-- Every frame keeps the traffic faithful. -/
theorem Faithful.write (h : t.Faithful w r) (i : Incoming) (s : Surroundings) :
    (r.writeTraffic t i s).Faithful w (r.write i.raw i.hint i.clock s).2.1 := by
  by_cases state : r.state = .recording
  · cases held : r.recording with
    | none =>
      unfold Recorder.writeTraffic Recorder.write
      rw [state, held]
      exact h
    | some x =>
      have ready : w.Given t.heard (r.receive.prepare x i.raw i.hint s).2.2.1.writer := by
        rw [prepare_writer]
        exact h x held
      rw [Recorder.writeTraffic_recording state held, Recorder.write_recording state held]
      unfold Recorder.process
      rcases prepared : r.receive.prepare x i.raw i.hint s with ⟨failure | _ | frame, r₁, x₁, s₁⟩
      · rw [prepared] at ready
        exact faithful_recording rfl ready
      · rw [prepared] at ready
        exact faithful_recording rfl ready
      · rw [prepared] at ready
        exact Faithful.encode ready frame i.clock s₁
  · rw [Recorder.writeTraffic_elsewhere state, Recorder.write_elsewhere state]
    exact h

end Traffic

/-- A recorder that is being used. -/
structure Reel (β σ γ : Type) where
  recorder : Recorder β σ γ
  around : Surroundings
  traffic : Traffic := {}
  /-- Whether every call so far came to an end. -/
  returned : Bool := true

namespace Reel

variable {β σ γ : Type} [Coder σ] [Container γ]

def write (t : Reel β σ γ) (i : Incoming) : Reel β σ γ :=
  let (answer, recorder, around) := t.recorder.write i.raw i.hint i.clock t.around
  { recorder, around
    traffic := t.recorder.writeTraffic t.traffic i t.around
    returned := t.returned && answer.isOk }

/-- Takes the frames one after the other. -/
def run (t : Reel β σ γ) (frames : List Incoming) : Reel β σ γ := frames.foldl write t

end Reel

/-! ## The beginning -/

/-- The encoder of a recording is configured for the size of the settings, and opened. -/
theorem Recorder.openEncoder_ok {β σ : Type} [Coder σ] [Backend β σ] {c : CaptureSettings} {b b' : β} {j j' : Journal}
    {encoder : Encoder σ} {layout : Layout} (h : openEncoder c b j = (.ok (encoder, layout), b', j')) :
    ∃ f e, ({} : Encoder σ).configure b c.request j = (.ok f, e, j') ∧ e.launch b = (.ok (), encoder, b') ∧
      f.width = c.width ∧ f.height = c.height := by
  unfold openEncoder at h
  rcases configured : ({} : Encoder σ).configure b c.request j with ⟨failure | f, e, j₁⟩
  · rw [configured] at h
    cases h
  · rw [configured] at h
    dsimp only at h
    rcases launched : e.launch b with ⟨failure | _, e', b₁⟩
    · rw [launched] at h
      cases h
    · rw [launched] at h
      cases h
      exact ⟨f, e, rfl, launched, (Encoder.configure_ok configured).2⟩

namespace Loopback

variable {β γ : Type} [Container γ] {b : Loopback} {f : StreamFormat} {len : Nat}

/-! ## A picture -/

/-- What one call adds to the traffic of the recording `x`: at most one picture of the right length, with a time stamp
of its own. -/
structure Added (len : Nat) (x : Recording Instance γ) (now : Nat) (t t' : Traffic) : Prop where
  count : (queued t'.submissions).length ≤ (queued t.submissions).length + 1
  stamps : ∀ p ∈ queued t'.submissions, p ∈ queued t.submissions ∨ p.2 ≤ max x.encoder.lastPts now
  sizes : ∀ p ∈ queued t'.submissions, p.1.size = len

/-- The writer of the recording `x` breaks down over what it is to be given next. -/
def BreaksDown (f : StreamFormat) (x : Recording Instance γ) (t t' : Traffic) : Prop :=
  ∃ (k : WritingDesk γ) (l : List Delivery), k.writer = x.writer ∧ Sink.Breaks k l ∧
    t.heard ++ l <+: script (parameters f) (queued t'.submissions)

/-- The recording `x` became `x'` while its writer took what is new in the traffic. -/
structure Moved (x x' : Recording Instance γ) (now : Nat) (t t' : Traffic) : Prop where
  lastPts : x'.encoder.lastPts ≤ max x.encoder.lastPts now
  took : ∃ (k k' : WritingDesk γ) (l : List Delivery), k.writer = x.writer ∧ k'.writer = x'.writer ∧
    Sink.Takes k l k' ∧ t'.heard = t.heard ++ l

/-- The counters keep pace with the pictures that were queued, and none is dropped for want of a slot if there are
two. -/
structure Counted (b : Loopback) (k k' : Counters) (t t' : Traffic) : Prop where
  submitted : k'.framesSubmitted + (queued t.submissions).length =
    k.framesSubmitted + (queued t'.submissions).length
  backpressure : 2 ≤ b.slots → k'.droppedBackpressure = k.droppedBackpressure

omit [Container γ] in
/-- How the answer of the encoder shows in the traffic and in the counters. -/
theorem counted_of_answer {x : Recording Instance γ} {t : Traffic} {picture : Bytes} {pts now : Nat}
    {a : Attempt Submission} (answer : a = .ok (.queued pts) ∨ a = .ok .dropped ∧ b.slots < 2) (heard : List Delivery)
    (stamp : pts ≤ max x.encoder.lastPts now) (k : Counters)
    (sizes : ∀ p ∈ queued (t.submissions ++ [{ picture, pts, answer := a }]), p.1.size = len) :
    let t' : Traffic := { submissions := t.submissions ++ [{ picture, pts, answer := a }], heard }
    Added len x now t t' ∧ Counted b k (k.count (Fate.ofSubmission a)) t t' := by
  intro t'
  rcases answer with rfl | ⟨rfl, few⟩
  · -- The picture was queued.
    have more : queued t'.submissions = queued t.submissions ++ [(picture, pts)] := queued_concat _ rfl
    refine ⟨⟨by rw [more, List.length_append]; rfl, ?_, sizes⟩, ⟨?_, fun _ => rfl⟩⟩
    · intro p hp
      rw [more] at hp
      rcases List.mem_append.mp hp with old | new
      · exact .inl old
      · cases List.mem_singleton.mp new
        exact .inr stamp
    · rw [more, List.length_append]
      simp only [Fate.ofSubmission, Counters.count, List.length_singleton]
      omega
  · -- No slot was free, so there are fewer than two.
    have same : queued t'.submissions = queued t.submissions := queued_concat_of_none _ rfl
    refine ⟨⟨by rw [same]; omega, ?_, sizes⟩, ⟨by rw [same]; rfl, ?_⟩⟩
    · intro p hp
      rw [same] at hp
      exact .inl hp
    · intro two
      omega

/-- A picture that is encoded is counted, and what comes of it given to the writer. -/
theorem encode_cases (r : Recorder β Instance γ) {x : Recording Instance γ} {t : Traffic} {c : Instance}
    (p : Pace b f len t.submissions x.encoder t.heard c) {frame : Converted} (fits : frame.bytes.size = len)
    (clock : Readings) (s : Surroundings) :
    let t' := r.encodeTraffic t x frame clock.now s
    Added len x clock.now t t' ∧
      ((∃ fault, (r.encode x frame clock s).1 = .error (.fault fault) ∧ BreaksDown f x t t') ∨
      ∃ counters x' s' c', r.encode x frame clock s = (.ok (), { r with counters, recording := some x' }, s') ∧
        x'.converter = x.converter ∧ Counted b r.counters counters t t' ∧ Moved x x' clock.now t t' ∧
        Pace b f len t'.submissions x'.encoder t'.heard c') := by
  intro t'
  let k : WritingDesk γ := { writer := x.writer, around := s }
  rcases offered : Recorder.offered x frame.bytes clock.now with ⟨a, e⟩
  rcases (p.stamp clock.now).exchange fits offered clock.now k with ⟨answer, sizes, outcome⟩
  have submitted : r.submit x frame.bytes clock.now s =
      (.ok (), { r with counters := r.counters.count (Fate.ofSubmission a) }, { x with encoder := e }, s) := by
    rw [r.submit_eq, offered]
    rcases answer with rfl | ⟨rfl, _⟩ <;> rfl
  have traffic : t' = {
      submissions := t.submissions ++ [{ picture := frame.bytes, pts := (x.encoder.stamp clock.now).1, answer := a }]
      heard := e.heardAfter false k t.heard clock.now } := by
    simp only [t', Recorder.encodeTraffic, submitted, offered]
    rfl
  have drained := e.drain_observed false ({ sink := k, heard := t.heard } : Observed (WritingDesk γ)) clock.now
  rcases counted_of_answer answer (e.heardAfter false k t.heard clock.now) (x.encoder.stamp_le clock.now) r.counters sizes
    with ⟨added, counted⟩
  rw [traffic]
  refine ⟨added, ?_⟩
  rcases outcome with ⟨fault, l, broken, breaks, isPrefix⟩ | ⟨tally, l, c', answered, takes, heard, pace⟩
  · -- The writer breaks down, and with it the call.
    left
    refine ⟨fault, ?_, k, l, rfl, breaks, isPrefix⟩
    rw [broken] at drained
    simp only [Recorder.encode, submitted, Recorder.forward]
    rw [drained]
    rfl
  · right
    let r₀ := e.drain false ({ sink := k, heard := t.heard } : Observed (WritingDesk γ)) clock.now
    have drained : e.drain false k clock.now = (.ok tally, r₀.2.1, r₀.2.2.sink) := by rw [drained, answered]
    rcases r.encode_of_drained submitted drained with ⟨throughput, s', encoded⟩
    have lastPts : r₀.2.1.lastPts = e.lastPts := e.drain_lastPts _ clock.now
    have stamped : e.lastPts = (x.encoder.stamp clock.now).1 := by
      have kept := (x.encoder.stamp clock.now).2.submit_lastPts frame.bytes (x.encoder.stamp clock.now).1
      rw [show (x.encoder.stamp clock.now).2.submit frame.bytes _ = (a, e) from offered] at kept
      exact kept
    refine ⟨_, _, s', c', encoded, rfl, ⟨counted.submitted, counted.backpressure⟩, ⟨?_, ?_⟩, pace⟩
    · rw [lastPts, stamped]
      exact x.encoder.stamp_le clock.now
    · exact ⟨k, r₀.2.2.sink, l, rfl, rfl, takes, heard⟩

/-! ## A frame -/

/-- A recorder with an encoder that keeps pace, between two frames. -/
structure Underway (b : Loopback) (f : StreamFormat) (len : Nat) (t : Reel β Instance γ) (x : Recording Instance γ)
    (c : Instance) : Prop where
  state : t.recorder.state = .recording
  recording : t.recorder.recording = some x
  converter : x.converter.Sound
  length : x.converter.geometry.pixels * 3 / 2 = len
  pace : Pace b f len t.traffic.submissions x.encoder t.traffic.heard c
  submitted : t.recorder.counters.framesSubmitted = (queued t.traffic.submissions).length
  backpressure : 2 ≤ b.slots → t.recorder.counters.droppedBackpressure = 0

variable {t : Reel β Instance γ} {x : Recording Instance γ} {c : Instance}

omit [Container γ] in
/-- Nothing but the recorder and its traffic has a part in this. -/
theorem Underway.congr (u : Underway b f len t x c) {t' : Reel β Instance γ} (recorder : t'.recorder = t.recorder)
    (traffic : t'.traffic = t.traffic) : Underway b f len t' x c := by
  refine ⟨?_, ?_, u.converter, u.length, ?_, ?_, ?_⟩
  · rw [recorder]
    exact u.state
  · rw [recorder]
    exact u.recording
  · rw [traffic]
    exact u.pace
  · rw [recorder, traffic]
    exact u.submitted
  · rw [recorder]
    exact u.backpressure

/-- A frame leaves the recorder as it was, unless the writer breaks down over what it is to be given next. -/
theorem Underway.write (u : Underway b f len t x c) (i : Incoming) :
    let answer := (t.recorder.write i.raw i.hint i.clock t.around).1
    let t' := t.write i
    Added len x i.clock.now t.traffic t'.traffic ∧
      ((∃ fault, answer = .error (.fault fault) ∧ BreaksDown f x t.traffic t'.traffic) ∨
      ∃ x' c', answer = .ok () ∧ Underway b f len t' x' c' ∧ Moved x x' i.clock.now t.traffic t'.traffic) := by
  intro answer t'
  rcases Recorder.prepare_cases (β := β) u.converter i.raw i.hint with
    ⟨fate, early, dropped⟩ | ⟨frame, converter, kept, size, became⟩
  · -- The frame is dropped, and the encoder does not hear of it.
    rcases dropped t.recorder.receive t.around with ⟨dumps, s, prepared, _⟩
    have written : t.recorder.write i.raw i.hint i.clock t.around =
        (.ok (), { t.recorder.receive.afterDrop fate dumps with recording := some x }, s) := by
      simp only [Recorder.write, Recorder.process, u.state, u.recording, prepared]
    have traffic : t'.traffic = t.traffic := by
      simp only [t', Reel.write, Recorder.writeTraffic, u.state, u.recording, prepared]
    have recorder : t'.recorder = { t.recorder.receive.afterDrop fate dumps with recording := some x } := by
      simp only [t', Reel.write, written]
    rw [traffic]
    refine ⟨⟨by omega, fun p hp => .inl hp, fun p hp => size_of_mem_queued u.pace.keeps hp⟩, .inr ?_⟩
    refine ⟨x, c, congrArg Prod.fst written, ?_, ?_⟩
    · refine ⟨?_, ?_, u.converter, u.length, by rw [traffic]; exact u.pace, ?_, ?_⟩
      · rw [recorder]
        exact u.state
      · rw [recorder]
      · rw [recorder, traffic, ← u.submitted]
        rcases early with rfl | rfl | rfl <;> rfl
      · intro two
        rw [recorder, ← u.backpressure two]
        rcases early with rfl | rfl | rfl <;> rfl
    · exact ⟨le_max_left _ _, { writer := x.writer, around := s }, { writer := x.writer, around := s }, [], rfl, rfl,
        .nil _, (List.append_nil _).symm⟩
  · -- The frame becomes a picture of the right length.
    rcases became t.recorder.receive t.around with ⟨s, prepared, _⟩
    rcases encode_cases t.recorder.receive (x := { x with converter }) u.pace (size.trans u.length) i.clock s with
      ⟨added, outcome⟩
    have written : t.recorder.write i.raw i.hint i.clock t.around =
        t.recorder.receive.encode { x with converter } frame i.clock s := by
      simp only [Recorder.write, Recorder.process, u.state, u.recording, prepared]
    have traffic : t'.traffic =
        t.recorder.receive.encodeTraffic t.traffic { x with converter } frame i.clock.now s := by
      simp only [t', Reel.write, Recorder.writeTraffic, u.state, u.recording, prepared]
    rw [← traffic] at added outcome
    rw [← written] at outcome
    refine ⟨⟨added.count, added.stamps, added.sizes⟩, ?_⟩
    rcases outcome with ⟨fault, broken, breaks⟩ | ⟨counters, x', s', c', encoded, same, counted, moved, pace⟩
    · exact .inl ⟨fault, broken, breaks⟩
    · have recorder : t'.recorder = { t.recorder.receive with counters, recording := some x' } := by
        simp only [t', Reel.write, encoded]
      refine .inr ⟨x', c', congrArg Prod.fst encoded, ?_, moved.lastPts, moved.took⟩
      refine ⟨?_, ?_, ?_, ?_, pace, ?_, ?_⟩
      · rw [recorder]
        exact u.state
      · rw [recorder]
      · rw [same]
        exact kept.sound
      · rw [same, kept.geometry]
        exact u.length
      · have before : t.recorder.receive.counters.framesSubmitted = _ := u.submitted
        have balance := counted.submitted
        rw [before] at balance
        rw [recorder]
        dsimp only
        omega
      · intro two
        rw [recorder]
        exact (counted.backpressure two).trans (u.backpressure two)

/-! ## The end -/

/-- Stopping gives the writer all that was queued, unless the writer breaks down over it. -/
theorem Underway.stop [Backend β Instance] (u : Underway b f len t x c) (now : Nat) (elapsed : Float) :
    let answer := (t.recorder.stop now elapsed t.around).1
    let traffic := t.recorder.stopTraffic t.traffic now t.around
    (∃ fault, answer = .error (.fault fault) ∧ BreaksDown f x t.traffic t.traffic) ∨
      ∃ statistics, answer = .ok (some statistics) ∧
        traffic.heard = script (parameters f) (queued t.traffic.submissions) := by
  intro answer traffic
  let k : WritingDesk γ := { writer := x.writer, around := t.around }
  have drained := x.encoder.drain_observed true ({ sink := k, heard := t.traffic.heard } : Observed (WritingDesk γ)) now
  have traffic_eq : traffic = { t.traffic with heard := x.encoder.heardAfter true k t.traffic.heard now } := by
    simp only [traffic, Recorder.stopTraffic, u.state, u.recording, k]
  rcases u.pace.drain_end now k with ⟨fault, l, broken, breaks, isPrefix⟩ | ⟨⟨tally, answered⟩, heard⟩
  · refine .inl ⟨fault, ?_, k, l, rfl, breaks, isPrefix⟩
    rw [broken] at drained
    simp only [answer, Recorder.stop, u.state, u.recording, Recorder.close]
    rw [drained]
    rfl
  · rw [answered] at drained
    rcases Recorder.stop_of_drained u.state u.recording drained elapsed with ⟨statistics, stopped⟩
    refine .inr ⟨statistics, stopped, ?_⟩
    rw [traffic_eq]
    exact heard

/-! ## Time stamps -/

/-- The time stamps from `m` on were not given yet, and the writer is not farther behind them than it took samples. -/
structure Calm (m : Nat) (x : Recording Instance γ) (t : Traffic) : Prop where
  clock : x.encoder.lastPts < m
  stamps : ∀ p ∈ queued t.submissions, p.2 < m
  writer : x.writer.Below (m + (samples t.heard).length)

theorem length_samples_script (q : CodecParameters) (l : List (Bytes × Nat)) :
    (samples (script q l)).length = l.length := by
  cases l with
  | nil => rfl
  | cons p l => simp [script, samples, List.filterMap_cons, Delivery.sample?, Function.comp_def]

/-- What a writer is to be given next can be read, and there are no more samples than pictures. -/
theorem readable_of_isPrefix (length : f.inputLength? = some len) {t : Traffic} {heard l : List Delivery} {m : Nat}
    (isPrefix : heard ++ l <+: script (parameters f) (queued t.submissions))
    (sizes : ∀ p ∈ queued t.submissions, p.1.size = len) (stamps : ∀ p ∈ queued t.submissions, p.2 < m) (n : Nat) :
    WritingDesk.Readable (m + n) l ∧
      (samples heard).length + (samples l).length ≤ (queued t.submissions).length := by
  constructor
  · intro s hs
    rcases eq_unit_of_mem_script (isPrefix.subset (List.mem_append_right _ hs)) with ⟨first, p, hp, rfl⟩
    refine ⟨payload?_unit length first (sizes p hp), ?_⟩
    have early : (unit first p).info.pts < m := stamps p hp
    omega
  · have le := (isPrefix.filterMap Delivery.sample?).length_le
    have split : samples (heard ++ l) = samples heard ++ samples l := List.filterMap_append
    have le : (samples (heard ++ l)).length ≤ (samples (script (parameters f) (queued t.submissions))).length := le
    rwa [split, List.length_append, length_samples_script] at le

variable {x' : Recording Instance γ} {t₀ t₁ : Traffic} {m now : Nat}

omit [Container γ] in
theorem Calm.stamps_of_added (calm : Calm m x t₀) (added : Added len x now t₀ t₁) (early : now < m) :
    ∀ p ∈ queued t₁.submissions, p.2 < m := by
  intro p hp
  rcases added.stamps p hp with old | new
  · exact calm.stamps p old
  · have clock := calm.clock
    omega

/-- As long as there are time stamps left for all pictures, the writer does not break down. -/
theorem Calm.not_breaksDown (calm : Calm m x t₀) (length : f.inputLength? = some len)
    (sizes : ∀ p ∈ queued t₁.submissions, p.1.size = len) (stamps : ∀ p ∈ queued t₁.submissions, p.2 < m)
    (room : m + (queued t₁.submissions).length ≤ wordLimit) : ¬ BreaksDown f x t₀ t₁ := by
  rintro ⟨k, l, writer, breaks, isPrefix⟩
  rcases readable_of_isPrefix length isPrefix sizes stamps (samples t₀.heard).length with ⟨readable, few⟩
  have below := calm.writer
  rw [← writer] at below
  exact WritingDesk.not_breaks below readable (by omega) breaks

/-- A recording stays calm over a frame that comes before `m`, as long as there is room for the pictures. -/
theorem Calm.moved (calm : Calm m x t₀) (length : f.inputLength? = some len) (added : Added len x now t₀ t₁)
    (early : now < m) (room : m + (queued t₁.submissions).length ≤ wordLimit) (moved : Moved x x' now t₀ t₁)
    (isPrefix : t₁.heard <+: script (parameters f) (queued t₁.submissions)) : Calm m x' t₁ := by
  have stamps := calm.stamps_of_added added early
  rcases moved.took with ⟨k, k', l, writer, writer', takes, heard⟩
  rw [heard] at isPrefix
  rcases readable_of_isPrefix length isPrefix added.sizes stamps (samples t₀.heard).length with ⟨readable, few⟩
  refine ⟨?_, stamps, ?_⟩
  · have clock := calm.clock
    have lastPts := moved.lastPts
    omega
  · have below := calm.writer
    have split : samples t₁.heard = samples t₀.heard ++ samples l := by
      rw [heard]
      exact List.filterMap_append
    rw [← writer] at below
    rw [← writer', split, List.length_append, ← Nat.add_assoc]
    exact WritingDesk.below_of_takes takes below readable (by omega)

/-! ## Runs -/

theorem returned_of_run {frames : List Incoming} (h : (t.run frames).returned = true) : t.returned = true := by
  induction frames generalizing t with
  | nil => exact h
  | cons i frames ih =>
    have returned : (t.write i).returned = true := ih h
    simp only [Reel.write, Bool.and_eq_true] at returned
    exact returned.1

/-- Between two frames the encoder keeps pace, if no call broke down before. -/
theorem Underway.run (u : Underway b f len t x c) (frames : List Incoming)
    (returned : (t.run frames).returned = true) : ∃ x' c', Underway b f len (t.run frames) x' c' := by
  -- By induction on the frames. A call that broke down would show in `returned` at the end.
  induction frames generalizing t x c with
  | nil => exact ⟨x, c, u⟩
  | cons i frames ih =>
    rcases (u.write i).2 with ⟨fault, broken, _⟩ | ⟨x', c', _, u', _⟩
    · have returned : (t.write i).returned = true := returned_of_run returned
      simp [Reel.write, broken, Except.isOk, Except.toBool] at returned
    · exact ih u' returned

/-- No call breaks down as long as there are time stamps left for all frames. -/
theorem Underway.run_calm (u : Underway b f len t x c) (length : f.inputLength? = some len)
    (calm : Calm m x t.traffic) (ok : t.returned = true) (frames : List Incoming)
    (early : ∀ i ∈ frames, i.clock.now < m)
    (room : m + (queued t.traffic.submissions).length + frames.length ≤ wordLimit) :
    (t.run frames).returned = true ∧ ∃ x' c', Underway b f len (t.run frames) x' c' ∧
      Calm m x' (t.run frames).traffic ∧
      (queued (t.run frames).traffic.submissions).length ≤ (queued t.traffic.submissions).length + frames.length := by
  -- By induction on the frames. Each uses up at most one of the time stamps that `room` leaves.
  induction frames generalizing t x c with
  | nil => exact ⟨ok, x, c, u, calm, le_refl _⟩
  | cons i frames ih =>
    rw [List.length_cons] at room
    have now : i.clock.now < m := early i (.head _)
    rcases u.write i with ⟨added, outcome⟩
    have count := added.count
    have room' : m + (queued (t.write i).traffic.submissions).length ≤ wordLimit := by omega
    rcases outcome with ⟨_, _, breaks⟩ | ⟨x', c', answered, u', moved⟩
    · have stamps := calm.stamps_of_added added now
      exact absurd breaks (calm.not_breaksDown length added.sizes stamps room')
    · have calm' := calm.moved length added now room' moved u'.pace.keeps.isPrefix
      have ok' : (t.write i).returned = true := by
        simp [Reel.write, ok, answered, Except.isOk, Except.toBool]
      rcases ih u' calm' ok' (fun j hj => early j (.tail _ hj)) (by omega) with ⟨returned, x'', c'', u'', calm'', fewer⟩
      refine ⟨returned, x'', c'', u'', calm'', ?_⟩
      rw [List.length_cons]
      exact fewer.trans (by omega)

omit [Container γ] in
/-- A recorder that was started is under way, and no time stamp was given yet. -/
theorem underway_of_started {settings : CaptureSettings}
    {decode : (g : Geometry) → Bytes → Except DecodeCause (ColourPicture g)} {memory : Memory}
    {startedAt : Timestamp} {s s' : Surroundings} {r : Recorder Loopback Instance γ}
    (started :
      ({ settings, backend := b, decode, memory } : Recorder Loopback Instance γ).start startedAt s = (.ok true, r, s')) :
    ∃ f len x c, f.inputLength? = some len ∧
      parameters f = { width := settings.width, height := settings.height, sps, pps } ∧
      Underway b f len ({ recorder := r, around := s' } : Reel Loopback Instance γ) x c ∧
      x.encoder.lastPts = 0 ∧ x.writer = TrackWriter.create settings startedAt.render := by
  unfold Recorder.start at started
  rw [if_pos rfl] at started
  rcases opened :
      ({ settings, backend := b, decode, memory } : Recorder Loopback Instance γ).openRecording startedAt s with
    ⟨(e | fault) | x, b', s₁⟩
  · rw [opened] at started
    cases started
  · rw [opened] at started
    cases started
  · rw [opened] at started
    cases started
    rcases Recorder.openRecording_ok opened with ⟨e, layout, j, j', converter, throughput, encoder, created, rfl⟩
    rcases Recorder.openEncoder_ok encoder with ⟨f, e₀, configured, launched, width, height⟩
    rcases Converter.create_sound created with ⟨sound, geometry, _⟩
    rcases keeps_of_opened configured launched with ⟨len, c, length, keeps, backlog⟩
    rcases Encoder.opened configured launched with ⟨_, c', _, _, rfl⟩
    have pixels : f.geometry.pixels = converter.geometry.pixels := by
      rw [geometry]
      simp only [StreamFormat.geometry, Geometry.pixels, CaptureSettings.geometry, width, height]
    refine ⟨f, len, _, c, length, ?_, ⟨rfl, rfl, ⟨sound.fits, sound.arena⟩, ?_, ⟨keeps, rfl, .inl backlog⟩, rfl, fun _ => rfl⟩,
      rfl, rfl⟩
    · simp only [parameters, width, height]
    · rw [StreamFormat.inputLength?_eq, Geometry.len420?_eq_some_iff] at length
      rw [← pixels]
      exact length.2.symm

end Loopback

end Camcorder
