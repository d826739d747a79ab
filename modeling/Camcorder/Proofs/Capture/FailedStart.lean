import Mathlib
import Camcorder.Encoding.Loopback
import Camcorder.Mp4.Document
import Camcorder.Proofs.Capture.Calls
import Camcorder.Proofs.Files

/-!
# A start that fails

A start first removes the file at the output path, then sets up the encoder, then the rest. It may be refused at each
of these steps. `Recorder.failed_start` says what is left of an attempt that was refused: of the recorder and of the
instances nothing, whichever step it was. The file that was removed stays removed.
-/

namespace Camcorder

/-- The number `live` goes up with every instance that a backend makes, goes down with every one that is destroyed, and
stays where a backend refuses to make one. -/
structure Backend.Counts {β σ : Type} [Backend β σ] (live : β → Nat) : Prop where
  created : ∀ {b b' : β} {f : StreamFormat} {c : σ}, Backend.create b f = (.ok c, b') → live b' = live b + 1
  refused : ∀ {b b' : β} {f : StreamFormat} {e : RecordingError},
    Backend.create (σ := σ) b f = (.error (.error e), b') → live b' = live b
  destroyed : ∀ (b : β) (c : σ), live (Backend.destroy b c) = live b - 1

/-- The loopback backend counts its instances. -/
theorem Loopback.counts : Backend.Counts Loopback.live where
  created := by
    intro b b' f c created
    have created : Loopback.create b f = (.ok c, b') := created
    unfold Loopback.create at created
    split at created
    · cases created
    · dsimp only at created
      split at created
      · cases created
      · cases created
        rfl
  refused := by
    intro b b' f e refused
    have refused : Loopback.create b f = (.error (.error e), b') := refused
    unfold Loopback.create at refused
    split at refused
    · cases refused
      rfl
    · -- A backend that makes instances breaks down over a picture that is too large, but it does not refuse.
      dsimp only at refused
      cases length : f.inputLength? with
      | none =>
        rw [length] at refused
        cases refused
      | some len =>
        rw [length] at refused
        cases refused
  destroyed := by
    intro b c
    rfl

/-- The file that the path names is removed, if it names one, and nothing else is. -/
def FileTree.Cleared (path : String) (t t' : FileTree) : Prop :=
  (∃ id content, t.resolve path = .ok (.file id content) ∧ FileTree.Without path t t') ∨
    (∀ id content, t.resolve path ≠ .ok (.file id content)) ∧ t' = t

/-- A converter is made, or it breaks down over the size of a picture. -/
theorem Converter.create_not_refused (g : Geometry) (layout : Layout) (j : Journal) (memory : Memory)
    (e : RecordingError) : (create g layout j memory).1 ≠ Attempt.refuse e := by
  unfold create allocate
  cases g.len420? with
  | none => nofun
  | some len =>
    dsimp only [Attempt.ofOption, bind, Except.bind, pure, Except.pure]
    split
    · rename_i broken
      cases broken
    · nofun
    · nofun

theorem Throughput.create_not_refused (capacity : Nat) (minimumRate : Float) (e : RecordingError) :
    create capacity minimumRate ≠ Attempt.refuse e := by
  unfold create
  dsimp only
  split
  · nofun
  · nofun

namespace Encoder

variable {β σ : Type} [Coder σ] [Backend β σ] {live : β → Nat}

/-- An encoder that is not opened leaves no instance behind. -/
theorem launch_refused (counts : Backend.Counts live) {e e' : Encoder σ} {b b' : β} {cause : RecordingError}
    (refused : e.launch b = (.error (.error cause), e', b')) : live b' = live b := by
  unfold launch at refused
  split at refused
  · cases format : e.format with
    | none =>
      rw [format] at refused
      cases refused
      rfl
    | some f =>
      rw [format] at refused
      dsimp only at refused
      rcases created : Backend.create b f with ⟨failure | coder, made⟩
      · rw [created] at refused
        cases refused
        exact counts.refused created
      · rw [created] at refused
        dsimp only at refused
        rcases started : Coder.start coder with ⟨failure | _, coder'⟩
        · -- The instance is made and does not start, so it is destroyed.
          rw [started] at refused
          cases refused
          have more : live made = live b + 1 := counts.created created
          have fewer : live (Backend.destroy made coder') = live made - 1 := counts.destroyed made coder'
          omega
        · rw [started] at refused
          cases refused
  · cases refused
    rfl

end Encoder

namespace Recorder

variable {β σ γ : Type}

/-- The way is clear, or there is something in it that is no file, and is left there. -/
theorem clearOutput_cases (c : CaptureSettings) (disk : FileTree) :
    (∃ disk', clearOutput c disk = .ok disk' ∧ FileTree.Cleared c.outputPath disk disk') ∨
    ∃ e, clearOutput c disk = Attempt.refuse e ∧ FileTree.Cleared c.outputPath disk disk := by
  unfold clearOutput
  rcases FileTree.remove_cases disk c.outputPath with
    ⟨id, content, disk', named, removed, without⟩ | ⟨none, cause, refused⟩
  · left
    rw [removed]
    exact ⟨disk', rfl, .inl ⟨id, content, named, without⟩⟩
  · rw [refused]
    have untouched : FileTree.Cleared c.outputPath disk disk := .inr ⟨none, rfl⟩
    cases cause with
    | notFound => exact .inl ⟨disk, rfl, untouched⟩
    | _ => exact .inr ⟨_, rfl, untouched⟩

variable [Coder σ] [Backend β σ] {live : β → Nat}

/-- A recording that is under way found its way cleared. -/
theorem clearOutput_of_start {r r' : Recorder β σ γ} {startedAt : Timestamp} {s s' : Surroundings}
    (started : r.start startedAt s = (.ok true, r', s')) : clearOutput r.settings s.disk = .ok s'.disk := by
  by_cases idle : r.state = .idle
  · rcases start_cases idle startedAt s with ⟨_, a, _, _, other, same⟩ | ⟨x, b, _, opened, _, same⟩
    · rw [same] at started
      cases started
      exact absurd rfl other
    · rw [same] at started
      cases started
      exact clearOutput_of_openRecording opened
  · rw [start_busy idle] at started
    cases started

/-- No instance is left of an encoder that was refused. -/
theorem openEncoder_refused (counts : Backend.Counts live) {c : CaptureSettings} {b b' : β} {j j' : Journal}
    {e : RecordingError} (refused : openEncoder c b j = (.error (.error e), b', j')) : live b' = live b := by
  unfold openEncoder at refused
  rcases configured : ({} : Encoder σ).configure b c.request j with ⟨failure | f, encoder, j₁⟩
  · rw [configured] at refused
    cases refused
    rfl
  · rw [configured] at refused
    dsimp only at refused
    rcases launched : encoder.launch b with ⟨failure | _, encoder', b₁⟩
    · rw [launched] at refused
      cases refused
      exact Encoder.launch_refused counts launched
    · rw [launched] at refused
      cases refused

/-- A recording that cannot be opened leaves no instance behind, and no file at the output path. -/
theorem openRecording_refused (counts : Backend.Counts live) {r : Recorder β σ γ} {startedAt : Timestamp}
    {s s' : Surroundings} {b' : β} {e : RecordingError}
    (refused : r.openRecording startedAt s = (.error (.error e), b', s')) :
    live b' = live r.backend ∧ FileTree.Cleared r.settings.outputPath s.disk s'.disk := by
  unfold openRecording at refused
  rcases clearOutput_cases r.settings s.disk with ⟨disk, cleared, same⟩ | ⟨cause, stuck, same⟩
  · rw [cleared] at refused
    dsimp only at refused
    rcases opened : openEncoder r.settings r.backend s.journal with ⟨failure | ⟨encoder, layout⟩, b, journal⟩
    · rw [opened] at refused
      cases refused
      exact ⟨openEncoder_refused counts opened, same⟩
    · -- From here on nothing is refused: what is left to be built breaks down if it is too large.
      rw [opened] at refused
      dsimp only at refused
      have converter := Converter.create_not_refused r.settings.geometry layout journal r.memory
      rcases made : Converter.create r.settings.geometry layout journal r.memory with ⟨(cause | f) | c, j⟩
      · rw [made] at converter
        exact absurd rfl (converter cause)
      · rw [made] at refused
        cases refused
      · rw [made] at refused
        rcases collected : Throughput.create r.settings.window r.settings.minimumRate with (cause | f) | t
        · exact absurd collected (Throughput.create_not_refused _ _ cause)
        · rw [collected] at refused
          cases refused
        · rw [collected] at refused
          cases refused
  · rw [stuck] at refused
    cases refused
    exact ⟨rfl, same⟩

/-- The attempt to start `r` came to nothing: the recorder `r'` is what `r` was, with as many instances. Only an idle
recorder tries to start, so only then the way is cleared for the recording. -/
structure NotStarted (live : β → Nat) (r r' : Recorder β σ γ) (s s' : Surroundings) : Prop where
  recorder : r' = { r with backend := r'.backend }
  resources : r'.resources = r.resources
  instances : live r'.backend = live r.backend
  disk : if r.state = .idle then FileTree.Cleared r.settings.outputPath s.disk s'.disk else s'.disk = s.disk

/-- **A start that fails leaves nothing behind.** Whatever the settings, the backend and the state of the recorder are:
if a start answers that nothing is under way, then the recorder has the state, the counters and the resources that it
had, the backend has as many instances, and nothing was done to the disk, but that a file at the output path was
removed if the recorder was idle. -/
theorem failed_start {live : β → Nat} (counts : Backend.Counts live) {r r' : Recorder β σ γ} {startedAt : Timestamp}
    {s s' : Surroundings} (failed : r.start startedAt s = (.ok false, r', s')) : NotStarted live r r' s s' := by
  by_cases idle : r.state = .idle
  · unfold start at failed
    rw [if_pos idle] at failed
    rcases opened : r.openRecording startedAt s with ⟨(e | f) | x, b, s₁⟩
    · rw [opened] at failed
      cases failed
      obtain ⟨instances, cleared⟩ := openRecording_refused counts opened
      refine ⟨rfl, rfl, instances, ?_⟩
      rw [if_pos idle]
      exact cleared
    · rw [opened] at failed
      cases failed
    · rw [opened] at failed
      cases failed
  · rw [start_busy idle] at failed
    cases failed
    refine ⟨rfl, rfl, rfl, ?_⟩
    rw [if_neg idle]
    rfl

/-- A file that stands at the output path is gone after a start that is refused because of an odd width. -/
theorem failed_start_removes_file :
    let settings : CaptureSettings := { width := 3, height := 2, outputPath := "o" }
    let r : Recorder Loopback Loopback.Instance Mp4.Movie := { settings, backend := {} }
    let disk : FileTree := { entries := [(["o"], .file 0 #[1])], nextId := 1 }
    ∃ s', r.start { seconds := 0, nanos := 0 } { disk } = (.ok false, r, s') ∧
      disk.read "o" = .ok #[1] ∧ s'.disk.read "o" = .error .notFound := by
  intro settings r disk
  have removed : disk.remove "o" = .ok { entries := [], nextId := 1 } := by cbv
  have cleared : clearOutput settings disk = .ok { entries := [], nextId := 1 } := by
    unfold clearOutput
    rw [removed]
  have there : disk.read "o" = .ok #[1] := by cbv
  have gone : ({ entries := [], nextId := 1 } : FileTree).read "o" = .error .notFound := by cbv
  let left : Surroundings := { disk := { entries := [], nextId := 1 } }
  have refused : r.start { seconds := 0, nanos := 0 } { disk } =
      (.ok false, r, left.note (.startFailed (.configuration (.oddDimension 3 2)))) := by
    unfold start openRecording
    dsimp only
    rw [cleared]
    with_unfolding_all rfl
  exact ⟨_, refused, there, gone⟩

/-- A backend that refuses to make an instance has none afterwards, and the file at the output path is gone. -/
theorem failed_start_refusing :
    let settings : CaptureSettings := { width := 2, height := 2, outputPath := "o" }
    let r : Recorder Loopback Loopback.Instance Mp4.Movie := { settings, backend := { refuses := true } }
    let s : Surroundings := { disk := { entries := [(["o"], .file 0 #[1])], nextId := 1 } }
    Backend.Counts Loopback.live ∧ ∃ r' s', r.start { seconds := 0, nanos := 0 } s = (.ok false, r', s') ∧
      NotStarted Loopback.live r r' s s' := by
  intro settings r s
  have removed : s.disk.remove "o" = .ok { entries := [], nextId := 1 } := by cbv
  have cleared : clearOutput settings s.disk = .ok { entries := [], nextId := 1 } := by
    unfold clearOutput
    rw [removed]
  let left : Surroundings := { disk := { entries := [], nextId := 1 } }
  have refused : r.start { seconds := 0, nanos := 0 } s =
      (.ok false, r, left.note (.startFailed (.configuration (.instanceRefused "loopback")))) := by
    unfold start openRecording
    dsimp only
    rw [cleared]
    with_unfolding_all rfl
  exact ⟨Loopback.counts, _, _, refused, failed_start Loopback.counts refused⟩

end Recorder

end Camcorder
