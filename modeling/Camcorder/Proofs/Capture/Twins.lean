import Mathlib
import Camcorder.Proofs.Capture.Dropping
import Camcorder.Proofs.Capture.DumpFolder
import Camcorder.Proofs.Capture.OutputFile

/-!
# Recorders side by side

Two writers are twins if only the files that they hold open differ. Twins that find the same along their output path go
on to give the same answers (`WritingDesk.alike_beside`), so two recorders with twins for writers do the same with a
picture and at the end (`Recorder.encode_beside`, `Recorder.stop_beside`), and also with a frame that only one of them
keeps (`Recorder.write_beside`). What is true of the writer and its disk, and is kept by whatever the writer is given, is
carried along.
-/

namespace Camcorder

open FileTree

/-! ## Writers -/

namespace TrackWriter

variable {γ : Type} [Container γ] {w w' : TrackWriter γ} {s s' : Surroundings}

omit [Container γ] in
/-- The writers are the same but for the identity of the file that is open. -/
def Twin (w w' : TrackWriter γ) : Prop :=
  ∃ track, w' = { w with track } ∧ track.map (·.container) = w.track.map (·.container)

omit [Container γ] in
theorem Twin.refl (w : TrackWriter γ) : w.Twin w := ⟨w.track, rfl, rfl⟩

/-- A registration leaves the writer as it was and at most creates the file, or begins the track in it. -/
theorem register_effect (w : TrackWriter γ) (p : CodecParameters) (s : Surroundings) :
    ((w.register p s).2.1 = w ∧
      ((w.register p s).2.2.disk = s.disk ∨ (w.register p s).2.2.disk = (s.disk.create w.path).2)) ∨
    ∃ file container, (s.disk.create w.path).1 = .ok file ∧
      (w.register p s).2.1 = { w with track := some { file, container }, parameters := some p } ∧
      (w.register p s).2.2.disk = (s.disk.create w.path).2 := by
  cases track : w.track with
  | some t =>
    have started : w.isStarted = true := by
      unfold isStarted
      rw [track]
      rfl
    unfold register
    rw [if_pos started]
    exact .inl ⟨rfl, .inl rfl⟩
  | none =>
    obtain ⟨j, registered⟩ := register_idle track p s
    rw [registered]
    unfold build
    rcases s.disk.create w.path with ⟨cause | file, disk⟩
    · exact .inl ⟨rfl, .inr rfl⟩
    · dsimp only
      rcases (Container.build w.settings : Except String γ) with reason | container
      · exact .inl ⟨rfl, .inr rfl⟩
      · exact .inr ⟨file, container, rfl, rfl, rfl⟩

/-- Twins begin a track in the same way. -/
theorem Twin.register (twin : w.Twin w') (p : CodecParameters) (agree : AgreeOn (route w.path) s.disk s'.disk)
    (refusals : s'.disk.refusals = s.disk.refusals) :
    (w'.register p s').1 = (w.register p s).1 ∧ (w.register p s).2.1.Twin (w'.register p s').2.1 ∧
      AgreeOn (route w.path) (w.register p s).2.2.disk (w'.register p s').2.2.disk ∧
      (w'.register p s').2.2.disk.refusals = (w.register p s).2.2.disk.refusals := by
  obtain ⟨track', rfl, same⟩ := twin
  cases track : w.track with
  | some t =>
    -- A track is begun once.
    rw [track] at same
    obtain ⟨t', rfl, _⟩ := Option.map_eq_some_iff.mp same
    have started : w.isStarted = true := by
      unfold isStarted
      rw [track]
      rfl
    have again : w.register p s = (Attempt.refuse (.invalidState .trackRegistered), w, s) := by
      unfold TrackWriter.register
      rw [if_pos started]
    rw [again]
    exact ⟨rfl, ⟨some t', rfl, by rw [track]; exact same⟩, agree, refusals⟩
  | none =>
    rw [track] at same
    cases Option.map_eq_none_iff.mp same
    have idle : w.Twin { w with track := none } := ⟨none, rfl, by rw [track]⟩
    obtain ⟨j, registered⟩ := register_idle track p s
    obtain ⟨j', registered'⟩ := register_idle (w := ({ w with track := none } : TrackWriter γ)) rfl p s'
    rw [registered, registered']
    unfold build
    dsimp only
    rcases create_agree agree refusals with ⟨cause, u, u', refused, refused', along, left⟩ |
      ⟨id, id', u, u', created, created', along, left⟩
    · rw [refused, refused']
      exact ⟨rfl, idle, along, left⟩
    · rw [created, created']
      dsimp only
      rcases (Container.build w.settings : Except String γ) with reason | container
      · exact ⟨rfl, idle, along, left⟩
      · exact ⟨rfl, ⟨_, rfl, rfl⟩, along, left⟩

/-- Twins take a sample in the same way. -/
theorem Twin.accept (twin : w.Twin w') (sample : Sample) (s s' : Surroundings) :
    (w'.accept sample s').1 = (w.accept sample s).1 ∧ (w.accept sample s).2.1.Twin (w'.accept sample s').2.1 := by
  obtain ⟨track', rfl, same⟩ := twin
  unfold TrackWriter.accept
  cases track : w.track with
  | none =>
    rw [track] at same
    cases Option.map_eq_none_iff.mp same
    exact ⟨rfl, none, rfl, rfl⟩
  | some t =>
    rw [track] at same
    obtain ⟨t', rfl, container⟩ := Option.map_eq_some_iff.mp same
    dsimp only at container ⊢
    unfold writeTo
    dsimp only
    rw [container]
    split
    · exact ⟨rfl, some t', rfl, by rw [track]; exact same⟩
    · split
      · exact ⟨rfl, _, rfl, rfl⟩
      · exact ⟨rfl, _, rfl, rfl⟩

/-- Twins have the same to say in the end. -/
theorem Twin.finish (twin : w.Twin w') (s s' : Surroundings) : (w'.finish s').1 = (w.finish s).1 := by
  obtain ⟨track', rfl, same⟩ := twin
  unfold TrackWriter.finish
  cases track : w.track with
  | none =>
    rw [track] at same
    cases Option.map_eq_none_iff.mp same
    rfl
  | some t =>
    rw [track] at same
    obtain ⟨t', rfl, container⟩ := Option.map_eq_some_iff.mp same
    dsimp only at container ⊢
    rw [container]
    split
    · rfl
    · split
      · rfl
      · rfl

/-- What is true of a writer and its disk stays true whatever the writer is given. -/
structure Steady (P : TrackWriter γ → FileTree → Prop) : Prop where
  register {w : TrackWriter γ} {s : Surroundings} (h : P w s.disk) (p : CodecParameters) :
    P (w.register p s).2.1 (w.register p s).2.2.disk
  accept {w : TrackWriter γ} {s : Surroundings} (h : P w s.disk) (sample : Sample) :
    P (w.accept sample s).2.1 (w.accept sample s).2.2.disk

end TrackWriter

namespace WritingDesk

variable {γ : Type} [Container γ] {out : String} {P : TrackWriter γ → FileTree → Prop}

omit [Container γ] in
/-- At both desks there are twins, who find the same along their output path. What is said of the first desk is true. -/
structure Beside (out : String) (P : TrackWriter γ → FileTree → Prop) (d d' : WritingDesk γ) : Prop where
  path : d.writer.path = out
  twin : d.writer.Twin d'.writer
  agree : AgreeOn (route out) d.around.disk d'.around.disk
  refusals : d'.around.disk.refusals = d.around.disk.refusals
  held : P d.writer d.around.disk

omit [Container γ] in
/-- The journals do not matter. -/
theorem Beside.of_disk {w w' : TrackWriter γ} {s s' t t' : Surroundings}
    (b : Beside out P { writer := w, around := s } { writer := w', around := s' }) (disk : t.disk = s.disk)
    (disk' : t'.disk = s'.disk) : Beside out P { writer := w, around := t } { writer := w', around := t' } where
  path := b.path
  twin := b.twin
  agree := by
    show AgreeOn (route out) t.disk t'.disk
    rw [disk, disk']
    exact b.agree
  refusals := by
    show t'.disk.refusals = t.disk.refusals
    rw [disk, disk']
    exact b.refusals
  held := by
    show P w t.disk
    rw [disk]
    exact b.held

omit [Container γ] in
theorem Beside.refl {d : WritingDesk γ} (path : d.writer.path = out) (held : P d.writer d.around.disk) :
    Beside out P d d :=
  ⟨path, .refl d.writer, .refl _ _, rfl, held⟩

/-- Two desks beside each other answer alike, and remain beside each other. -/
theorem alike_beside (steady : TrackWriter.Steady P) : Sink.Alike (Beside (γ := γ) out P) where
  register := by
    rintro d d' ⟨path, twin, agree, refusals, held⟩ q
    obtain ⟨place, _⟩ := give_place d (.format q)
    subst path
    obtain ⟨answer, twin', agree', refusals'⟩ := twin.register q agree refusals
    exact ⟨answer, place, twin', agree', refusals', steady.register held q⟩
  accept := by
    rintro d d' ⟨path, twin, agree, refusals, held⟩ sample
    obtain ⟨place, _⟩ := give_place d (.sample sample)
    have disk : (d.writer.accept sample d.around).2.2.disk = d.around.disk := (give_sample d sample).1
    have disk' : (d'.writer.accept sample d'.around).2.2.disk = d'.around.disk := (give_sample d' sample).1
    obtain ⟨answer, twin'⟩ := twin.accept sample d.around d'.around
    have b : Beside out P { writer := (d.writer.accept sample d.around).2.1, around := (d.writer.accept sample d.around).2.2 }
        { writer := (d'.writer.accept sample d'.around).2.1, around := (d'.writer.accept sample d'.around).2.2 } := by
      refine ⟨place.trans path, twin', ?_, ?_, steady.accept held sample⟩
      · dsimp only
        rw [disk, disk']
        exact agree
      · dsimp only
        rw [disk, disk']
        exact refusals
    exact ⟨answer, b⟩
  note := by
    rintro d d' ⟨path, twin, agree, refusals, held⟩ n
    exact ⟨path, twin, agree, refusals, held⟩

end WritingDesk

open WritingDesk (Beside)

/-! ## Drains -/

namespace Encoder

variable {σ γ : Type} [Coder σ] [Container γ] {out : String} {P : TrackWriter γ → FileTree → Prop} {w w' : TrackWriter γ}
  {s s' : Surroundings}

/-- A drain to desks with twins comes to the same. -/
theorem drain_beside (steady : TrackWriter.Steady P)
    (b : Beside out P { writer := w, around := s } { writer := w', around := s' }) (e : Encoder σ) (atEnd : Bool)
    (now : Nat) :
    ∃ a e₁ w₁ w₁' t t', e.drain atEnd ({ writer := w, around := s } : WritingDesk γ) now =
        (a, e₁, { writer := w₁, around := t }) ∧
      e.drain atEnd ({ writer := w', around := s' } : WritingDesk γ) now = (a, e₁, { writer := w₁', around := t' }) ∧
      Beside out P { writer := w₁, around := t } { writer := w₁', around := t' } := by
  obtain ⟨⟨w₁', t'⟩, related, drained'⟩ := drain_onto (WritingDesk.alike_beside steady) b e atEnd now
  rcases drained : e.drain atEnd ({ writer := w, around := s } : WritingDesk γ) now with ⟨a, e₁, ⟨w₁, t⟩⟩
  rw [drained] at related drained'
  exact ⟨a, e₁, w₁, w₁', t, t', rfl, drained', related⟩

/-- An encoder says the same to two desks beside each other. -/
theorem heardAfter_beside (steady : TrackWriter.Steady P)
    (b : Beside out P { writer := w, around := s } { writer := w', around := s' }) (e : Encoder σ) (atEnd : Bool)
    (heard : List Delivery) (now : Nat) :
    e.heardAfter atEnd ({ writer := w', around := s' } : WritingDesk γ) heard now =
      e.heardAfter atEnd ({ writer := w, around := s } : WritingDesk γ) heard now := by
  let o : Observed (WritingDesk γ) := { sink := { writer := w, around := s }, heard }
  let o' : Observed (WritingDesk γ) := { sink := { writer := w', around := s' }, heard }
  have related : Beside out P o.sink o'.sink ∧ o'.heard = o.heard := ⟨b, rfl⟩
  obtain ⟨_, ⟨_, same⟩, drained⟩ :=
    drain_onto (alike_observed_of (WritingDesk.alike_beside steady)) related e atEnd now
  unfold heardAfter
  rw [drained]
  exact same

end Encoder

/-! ## Recorders -/

namespace Recorder

variable {β σ γ : Type} {out : String} {P : TrackWriter γ → FileTree → Prop} {r : Recorder β σ γ} {x : Recording σ γ}
  {w' : TrackWriter γ} {s s' : Surroundings}

/-- The recorder with another directory to keep frames in, and at work on another recording. -/
def dumpingTo (r : Recorder β σ γ) (folder : Option String) (recording : Option (Recording σ γ)) : Recorder β σ γ :=
  { r with settings := { r.settings with dumpFolder := folder }, recording }

theorem noteRejected_disk (s : Surroundings) (frame : Nat) (a : Attempt Submission) :
    (noteRejected s frame a).disk = s.disk := by
  unfold noteRejected
  split
  · rfl
  · rfl

variable [Coder σ] [Container γ]

/-- Samples are passed on in the same way. -/
theorem forward_beside (steady : TrackWriter.Steady P)
    (b : Beside out P { writer := x.writer, around := s } { writer := w', around := s' }) (r : Recorder β σ γ)
    (folder : Option String) (recording : Option (Recording σ γ)) (now : Nat) :
    ∃ a counters x₁ w₁ s₁ s₁', r.forward x now s = (a, { r with counters }, x₁, s₁) ∧
      (r.dumpingTo folder recording).forward { x with writer := w' } now s' =
        (a, { r with counters }.dumpingTo folder recording, { x₁ with writer := w₁ }, s₁') ∧
      Beside out P { writer := x₁.writer, around := s₁ } { writer := w₁, around := s₁' } := by
  obtain ⟨a, e, w₁, w₁', t, t', drained, drained', b₁⟩ := x.encoder.drain_beside steady b false now
  obtain ⟨_, rfl, _⟩ := b₁.twin
  unfold forward
  dsimp only
  rw [drained, drained']
  rcases a with (e | f) | tally
  · exact ⟨_, _, _, _, _, _, rfl, rfl, b₁.of_disk rfl rfl⟩
  · exact ⟨_, r.counters, _, _, _, _, rfl, rfl, b₁⟩
  · exact ⟨_, _, _, _, _, _, rfl, rfl, b₁⟩

/-- A picture is encoded in the same way, and the traffic is the same. -/
theorem encode_beside (steady : TrackWriter.Steady P)
    (b : Beside out P { writer := x.writer, around := s } { writer := w', around := s' }) (r : Recorder β σ γ)
    (folder : Option String) (recording : Option (Recording σ γ)) (frame : Converted) (clock : Readings) :
    (∃ a counters x₁ w₁ s₁ s₁', r.encode x frame clock s = (a, { r with counters, recording := some x₁ }, s₁) ∧
      (r.dumpingTo folder recording).encode { x with writer := w' } frame clock s' =
        (a, { r with counters }.dumpingTo folder (some { x₁ with writer := w₁ }), s₁') ∧
      Beside out P { writer := x₁.writer, around := s₁ } { writer := w₁, around := s₁' }) ∧
    ∀ t, (r.dumpingTo folder recording).encodeTraffic t { x with writer := w' } frame clock.now s' =
      r.encodeTraffic t x frame clock.now s := by
  have same : offered { x with writer := w' } frame.bytes clock.now = offered x frame.bytes clock.now := rfl
  have counters : (r.dumpingTo folder recording).counters = r.counters := rfl
  unfold encode encodeTraffic
  rw [submit_eq, submit_eq, same, counters]
  generalize offered x frame.bytes clock.now = out at *
  have b₁ := b.of_disk (noteRejected_disk s r.counters.framesReceived out.1)
    (noteRejected_disk s' r.counters.framesReceived out.1)
  cases verdict out.1 with
  | error failure =>
    refine ⟨⟨_, _, { x with encoder := out.2 }, w', _, _, rfl, rfl, b₁⟩, fun t => rfl⟩
  | ok u =>
    obtain ⟨a, counters, x₁, w₁, s₁, s₁', forwarded, forwarded', b₂⟩ :=
      forward_beside (x := { x with encoder := out.2 }) steady b₁
        { r with counters := r.counters.count (Fate.ofSubmission out.1) } folder recording clock.now
    constructor
    · dsimp only [dumpingTo] at forwarded forwarded' ⊢
      rw [forwarded, forwarded']
      cases a with
      | error failure => exact ⟨_, _, _, _, _, _, rfl, rfl, b₂⟩
      | ok u => exact ⟨_, _, { x₁ with throughput := _ }, _, _, _, rfl, rfl, b₂.of_disk rfl rfl⟩
    · intro t
      dsimp only
      rw [Encoder.heardAfter_beside steady b₁]

/-- A frame gets the same answer and meets the same fate, and the traffic is the same. A frame that cannot be decoded is
kept by the recorder that has a directory for it; it leaves the recording as it was. -/
theorem write_beside (steady : TrackWriter.Steady P) (state : r.state = .recording) (held : r.recording = some x)
    (sound : x.converter.Sound) (b : Beside out P { writer := x.writer, around := s } { writer := w', around := s' })
    (i : Incoming) :
    let r' := r.dumpingTo none (some { x with writer := w' })
    ((∃ a counters fate x₁ w₁ s₁ s₁',
        r.write i.raw i.hint i.clock s = (a, { r with counters, recording := some x₁ }, s₁) ∧
        r'.write i.raw i.hint i.clock s' =
          (a, { r with counters }.dumpingTo none (some { x₁ with writer := w₁ }), s₁') ∧
        counters.frames = (r.counters.settle (some fate)).frames ∧ fate ≠ .undecodable ∧
        Beside out P { writer := x₁.writer, around := s₁ } { writer := w₁, around := s₁' }) ∨
      ∃ s₁ s₁', r.write i.raw i.hint i.clock s = (.ok (), r.besides .undecodable (countDump r.dumps), s₁) ∧
        r'.write i.raw i.hint i.clock s' = (.ok (), r'.besides .undecodable (countDump r.dumps), s₁') ∧
        s₁.disk = dumped r.settings.dumpFolder r.dumps i.raw s.disk ∧ s₁'.disk = s'.disk) ∧
    ∀ t, r'.writeTraffic t i s' = r.writeTraffic t i s := by
  intro r'
  let x' : Recording σ γ := { x with writer := w' }
  have state' : r'.state = .recording := state
  have held' : r'.recording = some x' := rfl
  rw [write_recording state held, write_recording state' held']
  simp only [writeTraffic_recording state held, writeTraffic_recording state' held']
  unfold process
  rcases prepare_outcomes (β := β) (σ := σ) (γ := γ) sound i.raw i.hint with
    ⟨fate, early, dropped⟩ | dropped | ⟨frame, after, _, _, became⟩
  · -- The frame is dropped by both.
    obtain ⟨s₁, prepared, disk⟩ := dropped r.receive x s rfl
    obtain ⟨s₁', prepared', disk'⟩ := dropped r'.receive x' s' rfl
    rw [prepared, prepared']
    refine ⟨.inl ⟨_, _, fate, x, w', s₁, s₁', rfl, rfl, rfl, ?_, b.of_disk disk disk'⟩, fun t => rfl⟩
    rcases early with rfl | rfl <;> nofun
  · -- The frame is dropped by both, and kept by one.
    obtain ⟨s₁, prepared, disk⟩ := dropped r.receive x s rfl
    obtain ⟨s₁', prepared', disk'⟩ := dropped r'.receive x' s' rfl
    rw [prepared, prepared']
    refine ⟨.inr ⟨s₁, s₁', ?_, rfl, disk, disk'⟩, fun t => rfl⟩
    dsimp only
    rw [← held]
    rfl
  · -- The frame is encoded by both.
    obtain ⟨s₁, prepared, disk⟩ := became r.receive x s rfl
    obtain ⟨s₁', prepared', disk'⟩ := became r'.receive x' s' rfl
    obtain ⟨⟨a, counters, x₁, w₁, s₂, s₂', encoded, encoded', b₂⟩, traffic⟩ :=
      encode_beside (x := { x with converter := after }) steady (b.of_disk disk disk') r.receive none (some x') frame i.clock
    obtain ⟨_, _, _, _, encoded₀, _, _, frames⟩ := r.receive.encode_frames { x with converter := after } frame i.clock s₁
    rw [encoded] at encoded₀
    cases encoded₀
    have late := Fate.ofSubmission_late (offered { x with converter := after } frame.bytes i.clock.now).1
    rw [prepared, prepared']
    refine ⟨.inl ⟨a, counters, _, x₁, w₁, s₂, s₂', encoded, encoded', frames, ?_, b₂⟩, traffic⟩
    exact fun undecodable => late (.inr (.inr undecodable))

/-- Containers are finished in the same way. -/
theorem conclude_beside {w : TrackWriter γ} (twin : w.Twin w') (s s' : Surroundings) :
    ∃ summary u u', conclude w s = (summary, u) ∧ conclude w' s' = (summary, u') ∧ u.disk = (w.finish s).2.disk := by
  have answer := twin.finish s s'
  unfold conclude
  dsimp only
  rw [answer]
  exact ⟨_, _, _, rfl, rfl, noteFailure_disk _ _ _⟩

/-- The disk is left as the writer leaves it: with the container finished, or as it stands if the writer breaks down. -/
def LeftBy (P : TrackWriter γ → FileTree → Prop) (t : FileTree) : Prop :=
  ∃ w u, P w u.disk ∧ (t = u.disk ∨ t = (w.finish u).2.disk)

variable [Backend β σ]

/-- A recording is finished in the same way. -/
theorem close_beside (steady : TrackWriter.Steady P)
    (b : Beside out P { writer := x.writer, around := s } { writer := w', around := s' }) (r : Recorder β σ γ)
    (folder : Option String) (recording : Option (Recording σ γ)) (now : Nat) (elapsed : Float) :
    ∃ a backend counters s₁ s₁', r.close x now elapsed s = (a, { r with backend, counters }, s₁) ∧
      (r.dumpingTo folder recording).close { x with writer := w' } now elapsed s' =
        (a, { r with backend, counters }.dumpingTo folder recording, s₁') ∧
      counters.frames = r.counters.frames ∧ LeftBy P s₁.disk := by
  obtain ⟨a, e, w₁, w₁', t, t', drained, drained', b₁⟩ := x.encoder.drain_beside steady b true now
  have twin : w₁.Twin w₁' := b₁.twin
  have held : P w₁ t.disk := b₁.held
  -- The container is finished in the same way, whatever went wrong before.
  have concluded (closed : Attempt Unit) : ∃ summary v v',
      conclude w₁ (noteFailure .closeFailed closed (noteFailure .finalDrainFailed a t)) = (summary, v) ∧
      conclude w₁' (noteFailure .closeFailed closed (noteFailure .finalDrainFailed a t')) = (summary, v') ∧
      LeftBy P v.disk := by
    obtain ⟨summary, v, v', done, done', left⟩ := conclude_beside twin
      (noteFailure .closeFailed closed (noteFailure .finalDrainFailed a t))
      (noteFailure .closeFailed closed (noteFailure .finalDrainFailed a t'))
    refine ⟨summary, v, v', done, done', w₁, _, ?_, .inr left⟩
    rw [noteFailure_disk, noteFailure_disk]
    exact held
  obtain ⟨_, rfl, _⟩ := twin
  unfold close
  dsimp only [dumpingTo]
  rw [drained, drained']
  rcases a with (cause | f) | tally
  · dsimp only
    rcases e.close r.backend with ⟨closed, _, backend⟩
    obtain ⟨summary, v, v', done, done', left⟩ := concluded closed
    dsimp only
    rw [done, done']
    exact ⟨_, _, _, _, _, rfl, rfl, rfl, left⟩
  · -- The encoder is given up, which does to the backend what closing it does.
    have given := (e.discard_eq_close r.backend t'.journal).trans (e.discard_eq_close r.backend t.journal).symm
    dsimp only
    rw [given]
    exact ⟨_, _, r.counters, _, _, rfl, rfl, rfl, w₁, t, held, .inl rfl⟩
  · dsimp only
    rcases e.close r.backend with ⟨closed, _, backend⟩
    obtain ⟨summary, v, v', done, done', left⟩ := concluded closed
    dsimp only
    rw [done, done']
    exact ⟨_, _, _, _, _, rfl, rfl, rfl, left⟩

/-- A recording is ended in the same way, and the traffic is the same. -/
theorem stop_beside (steady : TrackWriter.Steady P) (state : r.state = .recording) (held : r.recording = some x)
    (b : Beside out P { writer := x.writer, around := s } { writer := w', around := s' }) (now : Nat) (elapsed : Float) :
    let r' := r.dumpingTo none (some { x with writer := w' })
    (∃ a backend counters s₁ s₁', r.stop now elapsed s =
        (a, { r with state := .stopped, recording := none, backend, counters }, s₁) ∧
      r'.stop now elapsed s' = (a, { r with state := .stopped, backend, counters }.dumpingTo none none, s₁') ∧
      counters.frames = r.counters.frames ∧ LeftBy P s₁.disk) ∧
    ∀ t, r'.stopTraffic t now s' = r.stopTraffic t now s := by
  intro r'
  have state' : r'.state = .recording := state
  have held' : r'.recording = some { x with writer := w' } := rfl
  constructor
  · obtain ⟨a, backend, counters, s₁, s₁', closed, closed', frames, left⟩ :=
      close_beside steady b { r with state := .stopped, recording := none } none none now elapsed
    refine ⟨a.map some, backend, counters, s₁, s₁', ?_, ?_, frames, left⟩
    · unfold stop
      rw [state, held]
      dsimp only
      rw [closed]
    · unfold stop
      rw [state', held']
      dsimp only [r', dumpingTo] at closed' ⊢
      rw [closed']
  · intro t
    rw [stopTraffic_recording state held, stopTraffic_recording state' held']
    dsimp only
    rw [x.encoder.heardAfter_beside steady b]

end Recorder

end Camcorder
