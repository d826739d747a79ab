import Mathlib
import Camcorder.Proofs.CommandLine.Playing

/-!
# Dumps that are read back

Without a format the length of the frames in a dump is found by the size of the file alone. `recordDump_readBack` says when
the pieces that a command hands over are the frames that the dump was made of.
-/

namespace Camcorder.CommandLine

/-- What comes of a dump of `frames` without a format, whose length is the one that is found. -/
theorem recordDump_of_frames {ε γ : Type} [Compressor ε] [Container γ] (compact : Compressor.Compact ε)
    {means : Means} {clock : Clock} {tokens : List String} {a : Arguments} {o : RecordingOperands} {s : Surroundings}
    {frames : List Bytes} {len : ℕ} (order : readOrder .dump tokens = .ok (a, o)) (untagged : a.format = none)
    (there : s.disk.read o.source = .ok (Dump.ofFrames frames)) (all : ∀ frame ∈ frames, frame.size = len)
    (found : Dump.frameLength none o.geometry (frames.length * len) = .ok len) {x : Session ε γ} {s' : Surroundings}
    (started : Session.start means clock a o.geometry o.outputPath s = (.ok x, s')) :
    let given := Dump.upTo a.limit frames
    (s.disk.locate o.source ≠ s.disk.locate o.outputPath → clock.Timely a given.length →
      ∃ y, Dump.handOver (Session.take clock a none) 0 given x = (.ok (), y) ∧
        y.recorder.counters.framesReceived = given.length ∧
        recordDump ε γ means clock tokens s = y.finish clock a) ∧
    (s.disk.locate o.source = s.disk.locate o.outputPath →
      recordDump ε γ means clock tokens s = x.abandon clock a (.file .notFound)) := by
  have found : Dump.frameLength a.format o.geometry (Dump.ofFrames frames).size = .ok len := by
    rw [untagged, Dump.size_ofFrames all]
    exact found
  obtain ⟨len_pos, given⟩ := recordDump_of_started compact order there found started
  rw [Dump.pieces_ofFrames len_pos all, untagged] at given
  exact given

/-- **Reading a dump back.** The dimensions are even and not zero, and the length of a 4:2:0 frame can be computed.
Without a format the length that is found for a dump of `n` frames of 4:2:2 is theirs; for one of `n` frames of 4:2:0 it
is theirs unless `n` is a multiple of four, when it is that of 4:2:2. Where it is theirs, a session that begins is given
exactly these frames in order, or as many as the limit allows, and takes every one of them; unless the output is to be
put in the place of the dump, which is then removed before it is read. What compresses, decodes and stores the pictures
and what the clocks show may be anything, as for `recordDump_of_started`. -/
theorem recordDump_readBack {ε γ : Type} [Compressor ε] [Container γ] (compact : Compressor.Compact ε) {g : Geometry}
    (width : 2 ∣ g.width) (height : 2 ∣ g.height) (holds : 0 < g.pixels) (fits : g.pixels * 3 < wordLimit) {n : ℕ}
    (n_pos : 0 < n) :
    let len420 := g.pixels * 3 / 2
    let len422 := g.pixels * 2
    Dump.frameLength none g (n * len420) = .ok (if 4 ∣ n then len422 else len420) ∧
      Dump.frameLength none g (n * len422) = .ok len422 ∧
      ∀ {means : Means} {clock : Clock} {tokens : List String} {a : Arguments} {o : RecordingOperands}
        {s : Surroundings} {frames : List Bytes} {len : ℕ},
        readOrder .dump tokens = .ok (a, o) → a.format = none → o.geometry = g →
        s.disk.read o.source = .ok (Dump.ofFrames frames) → frames.length = n → (∀ frame ∈ frames, frame.size = len) →
        (len = len420 ∧ ¬4 ∣ n ∨ len = len422) →
        (∀ {failure : CommandFailure} {s' : Surroundings},
          (Session.start means clock a g o.outputPath s : Except CommandFailure (Session ε γ) × Surroundings) =
            (.error failure, s') → recordDump ε γ means clock tokens s = (.error failure, s')) ∧
        ∀ {x : Session ε γ} {s' : Surroundings}, Session.start means clock a g o.outputPath s = (.ok x, s') →
          let given := Dump.upTo a.limit frames
          (s.disk.locate o.source ≠ s.disk.locate o.outputPath → clock.Timely a given.length →
            ∃ y, Dump.handOver (Session.take clock a none) 0 given x = (.ok (), y) ∧
              y.recorder.counters.framesReceived = given.length ∧
              recordDump ε γ means clock tokens s = y.finish clock a) ∧
          (s.disk.locate o.source = s.disk.locate o.outputPath →
            recordDump ε γ means clock tokens s = x.abandon clock a (.file .notFound)) := by
  intro len420 len422
  obtain ⟨short, long⟩ := Dump.frameLength_of_frames width height holds fits n_pos
  refine ⟨short, long, ?_⟩
  intro means clock tokens a o s frames len order untagged size there length all which
  have found : Dump.frameLength none o.geometry (frames.length * len) = .ok len := by
    rw [size, length]
    rcases which with ⟨rfl, odd⟩ | rfl
    · rw [short, if_neg odd]
    · exact long
  rw [← size]
  constructor
  · intro failure s' refused
    have found : Dump.frameLength a.format o.geometry (Dump.ofFrames frames).size = .ok len := by
      rw [untagged, Dump.size_ofFrames all]
      exact found
    rw [recordDump_eq order there found, refused]
  · intro x s' started
    exact recordDump_of_frames compact order untagged there all found started

/-- Three frames of 4:2:0, of 2 × 2 pixels each. -/
theorem recordDump_readBack_three :
    let g : Geometry := { width := 2, height := 2 }
    let clock : Clock := { startedAt := { seconds := 0, nanos := 0 } }
    let frames : List Bytes := [Bytes.fill 6 1, Bytes.fill 6 2, Bytes.fill 6 3]
    let tokens := ["d", "2", "2", "o"]
    let s : Surroundings :=
      { disk := { entries := [(["d"], .file 0 (Dump.ofFrames frames))], nextId := 1 } }
    ∃ (a : Arguments) (o : RecordingOperands) (x y : Session Cadence Mp4.Movie) (s' : Surroundings),
      readOrder .dump tokens = .ok (a, o) ∧ a.limit = none ∧ Dump.frameLength none g 18 = .ok 6 ∧
      Session.start {} clock a g "o" s = (.ok x, s') ∧ clock.Timely a 3 ∧
      Dump.handOver (Session.take clock a none) 0 frames x = (.ok (), y) ∧
      y.recorder.counters.framesReceived = 3 ∧
      recordDump Cadence Mp4.Movie {} clock tokens s = y.finish clock a := by
  intro g clock frames tokens s
  let a : Arguments := { operands := tokens }
  let o : RecordingOperands := { source := "d", geometry := g, outputPath := "o" }
  have order : readOrder .dump tokens = .ok (a, o) := by cbv
  have there : s.disk.read "d" = .ok (Dump.ofFrames frames) := by cbv
  have source : s.disk.locate "d" = .ok ["d"] := by cbv
  have output : s.disk.locate "o" = .ok ["o"] := by cbv
  have apart : s.disk.locate "d" ≠ s.disk.locate "o" := by
    rw [source, output]
    decide
  have missing : s.disk.remove "o" = .error .notFound := by cbv
  have sizes : ∀ frame ∈ frames, frame.size = 6 := by decide
  have timely : clock.Timely a 3 := by
    unfold Clock.Timely
    decide
  obtain ⟨x, s', started⟩ := Session.start_smallest (γ := Mp4.Movie) (a := a) rfl (s := s)
    (Recorder.clearOutput_of_missing missing) {} clock
  have len420 : g.pixels * 3 / 2 = 6 := by decide
  obtain ⟨short, _, given⟩ := recordDump_readBack (γ := Mp4.Movie) Cadence.compact (g := g) (by decide) (by decide)
    (by decide) (by decide) (n := 3) (by decide)
  rw [if_neg (by decide), len420] at short
  obtain ⟨_, begins⟩ := @given {} clock tokens a o s frames 6 order rfl rfl there rfl sizes
    (.inl ⟨len420.symm, by decide⟩)
  obtain ⟨y, handed, count, result⟩ := (begins started).1 apart timely
  exact ⟨a, o, x, y, s', order, rfl, short, started, timely, handed, count, result⟩

/-- Four frames of 4:2:0 are taken for three frames of 4:2:2. -/
theorem frameLength_of_four :
    let g : Geometry := { width := 2, height := 2 }
    let frames : List Bytes := [Bytes.fill 6 1, Bytes.fill 6 2, Bytes.fill 6 3, Bytes.fill 6 4]
    g.len420? = some 6 ∧ (∀ frame ∈ frames, frame.size = 6) ∧ (Dump.ofFrames frames).size = 24 ∧
      Dump.frameLength none g 24 = .ok 8 ∧ (Dump.pieces (Dump.ofFrames frames) 8).length = 3 := by
  decide

end Camcorder.CommandLine
