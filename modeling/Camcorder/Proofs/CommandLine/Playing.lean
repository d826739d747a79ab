import Mathlib
import Camcorder.CommandLine.Program
import Camcorder.Proofs.Capture.FailedStart
import Camcorder.Proofs.Capture.SoundPreferences
import Camcorder.Proofs.Capture.Unfailing
import Camcorder.Proofs.CommandLine.Pieces
import Camcorder.Proofs.Files

/-!
# Playing a dump to its end

Whatever compresses its pictures and whatever container they go to, once a session has begun nothing ends it before the
last frame of its dump: the recorder deals with every frame (`Session.handOver_onTime`), and the frames are not empty,
since no recorder starts with pictures of no pixels (`Dump.frameLength_pos`). `recordDump_of_started` puts this together;
`recordDump_plays` says which frames the recorder is given.
-/

namespace Camcorder

/-- Clearing the way removes the file at its end, by whatever path it is read, and no other. -/
theorem Recorder.read_of_clearOutput {c : CaptureSettings} {t t' : FileTree} (cleared : clearOutput c t = .ok t')
    {source : String} {content : Bytes} (there : t.read source = .ok content) :
    t'.read source = if t.locate source = t.locate c.outputPath then .error .notFound else .ok content := by
  unfold clearOutput at cleared
  split at cleared
  · cases cleared
    exact FileTree.read_of_remove (by assumption) there
  · cases cleared
    rw [if_neg (FileTree.locate_ne_of_remove (by assumption) there)]
    exact there
  · cases cleared

namespace CommandLine

variable {ε γ : Type} [Compressor ε] {means : Means} {clock : Clock} {a : Arguments} {o : RecordingOperands}

/-! ## Beginning -/

/-- A session that begins has a recorder for pictures of the size `g`, which was started. -/
theorem Session.start_ok {g : Geometry} {outputPath : String} {s s' : Surroundings} {x : Session ε γ}
    (started : Session.start means clock a g outputPath s = (.ok x, s')) :
    ∃ settings : CaptureSettings, settings.outputPath = outputPath ∧ settings.geometry = g ∧
      ({ settings, backend := {}, decode := means.decode, memory := means.memory } : ProgramRecorder ε γ).start
        clock.startedAt s = (.ok true, x.recorder, x.around) := by
  unfold Session.start at started
  dsimp only at started
  split at started
  · cases started
  · rename_i settings loaded
    have chosen : settings.outputPath = outputPath ∧ settings.geometry = g := by
      simp only [bind, Except.bind] at loaded
      -- The preferences are read from a file or are the ones without a file; then they are looked through for flaws.
      split at loaded
      · split at loaded
        · cases loaded
        · split at loaded
          · cases loaded
          · cases loaded
            exact ⟨rfl, rfl⟩
      · split at loaded
        · cases loaded
        · cases loaded
          exact ⟨rfl, rfl⟩
    split at started
    · rename_i recorder around begun
      cases started
      exact ⟨settings, chosen.1, chosen.2, begun⟩
    · cases started
    · cases started
    · cases started

/-- Without preferences of its own, a session for pictures of 2 × 2 pixels begins if the way to its output can be
cleared. -/
theorem Session.start_smallest (plain : a.preferences = none) {path : String} {s : Surroundings} {disk : FileTree}
    (cleared : Recorder.clearOutput (({} : Preferences).capture 2 2 path) s.disk = .ok disk) (means : Means)
    (clock : Clock) :
    ∃ (x : Session Cadence γ) (s' : Surroundings),
      Session.start means clock a { width := 2, height := 2 } path s = (.ok x, s') := by
  have flawless : ({} : Preferences).flaw? = none := by decide +kernel
  have smallest : Geometry.Recordable { width := 2, height := 2 } :=
    ⟨by decide, by decide, by decide, by decide, by decide, by decide⟩
  have window : Throughput.create 30 15.0 = .ok { capacity := 30, minimumRate := 15.0 } := by
    rw [Throughput.create_eq, if_pos (by decide +kernel)]
    rfl
  unfold Session.start Recorder.start Recorder.openRecording
  rw [plain]
  dsimp only [bind, Except.bind]
  rw [flawless]
  dsimp only
  set settings : CaptureSettings := ({} : Preferences).capture 2 2 path
  have encodes : (Recorder.openEncoder settings ({} : Avc Cadence) s.journal).1.toOption.isSome = true := by
    with_unfolding_all rfl
  rw [if_pos rfl, cleared]
  dsimp only
  rcases opened : Recorder.openEncoder settings ({} : Avc Cadence) s.journal with
    ⟨_ | ⟨encoder, layout⟩, backend, journal⟩
  · rw [opened] at encodes
    cases encodes
  · obtain ⟨converter, j, made⟩ := Converter.create_recordable smallest layout journal means.memory
    have made : Converter.create settings.geometry layout journal means.memory = (.ok converter, j) := made
    have window : Throughput.create settings.window settings.minimumRate = _ := window
    dsimp only
    rw [made]
    dsimp only
    rw [window]
    exact ⟨_, _, rfl⟩

variable [Container γ]

/-- A dump whose frames have a length is played once a session has begun. -/
theorem recordDump_eq {tokens : List String} {s : Surroundings} (order : readOrder .dump tokens = .ok (a, o))
    {dump : Bytes} (there : s.disk.read o.source = .ok dump) {len : ℕ}
    (found : Dump.frameLength a.format o.geometry dump.size = .ok len) :
    recordDump ε γ means clock tokens s =
      match (Session.start means clock a o.geometry o.outputPath s :
          Except CommandFailure (Session ε γ) × Surroundings) with
      | (.error failure, s) => (.error failure, s)
      | (.ok x, _) => playDump clock a o len x := by
  have size : s.disk.size o.source = .ok dump.size := by
    obtain ⟨id, named⟩ := FileTree.read_eq_ok_iff.mp there
    unfold FileTree.size
    rw [named]
    rfl
  unfold recordDump
  rcases started : (Session.start means clock a o.geometry o.outputPath s :
    Except CommandFailure (Session ε γ) × Surroundings) with ⟨failure | x, s'⟩
  · simp only [order, size, found, started, bind, Except.bind, pure, Except.pure, Except.mapError]
  · simp only [order, size, found, started, bind, Except.bind, pure, Except.pure, Except.mapError]

/-- A dump that is there is handed over piece by piece. -/
theorem playDump_eq {x : Session ε γ} {dump : Bytes} (there : x.around.disk.read o.source = .ok dump) {len : ℕ}
    (len_pos : 0 < len) :
    playDump clock a o len x = Session.conclude clock a
      (Dump.handOver (Session.take clock a a.format) 0 (Dump.upTo a.limit (Dump.pieces dump len)) x) := by
  unfold playDump
  rw [there]
  dsimp only
  rw [dif_pos len_pos, Dump.feed_eq]

/-- A dump that is no longer there is reported, and the recording is abandoned. -/
theorem playDump_of_missing {x : Session ε γ} (missing : x.around.disk.read o.source = .error .notFound) (len : ℕ) :
    playDump clock a o len x = x.abandon clock a (.file .notFound) := by
  unfold playDump
  rw [missing]
  exact if_neg nofun

/-! ## Going on -/

/-- The clock leaves room for `n` frames: a time stamp for each of them is left after whatever it shows meanwhile. -/
def Clock.Timely (clock : Clock) (a : Arguments) (n : ℕ) : Prop := ∀ k < n, (clock.frame a k).now + n < wordLimit

/-- Frames that come in time are all handed over. -/
theorem Session.handOver_onTime (compact : Compressor.Compact ε) (format : Option FrameFormat) {f : StreamFormat}
    {len m : ℕ} {frames : List Bytes} {k : ℕ} {x : Session ε γ} {y : Recording (Avc.Instance ε) γ}
    (h : Recorder.OnTime f len m k x.recorder y) (early : ∀ i < k + frames.length, (clock.frame a i).now < m)
    (room : m + (k + frames.length) ≤ wordLimit) :
    ∃ x' y', Dump.handOver (Session.take clock a format) k frames x = (.ok (), x') ∧
      Recorder.OnTime f len m (k + frames.length) x'.recorder y' := by
  -- By induction on the frames that are left; `room` leaves a time stamp for each of them.
  induction frames generalizing k x y with
  | nil => exact ⟨x, y, rfl, h⟩
  | cons frame rest ih =>
    rw [List.length_cons] at early room ⊢
    obtain ⟨answered, y₁, h₁⟩ := h.write compact (by omega) frame format (early k (by omega)) x.around
    rcases written : x.recorder.write frame format (clock.frame a k) x.around with ⟨answer, recorder, around⟩
    rw [written] at answered h₁
    have answered : answer = .ok () := answered
    subst answered
    have taken : Session.take clock a format k frame x = (.ok (), { recorder, around }) := by
      unfold Session.take
      rw [written]
    obtain ⟨x', y', handed, h'⟩ := ih (x := { recorder, around }) h₁ (fun i hi => early i (by omega)) (by omega)
    refine ⟨x', y', ?_, ?_⟩
    · rw [Dump.handOver, taken]
      exact handed
    · rwa [Nat.add_right_comm] at h'

/-- What comes of a dump for which a session has begun. Its frames are not empty, and the recorder takes all of them,
unless the dump was where the output is to be. -/
theorem recordDump_of_started (compact : Compressor.Compact ε) {tokens : List String} {s s' : Surroundings}
    {dump : Bytes} {len : ℕ} {x : Session ε γ} (order : readOrder .dump tokens = .ok (a, o))
    (there : s.disk.read o.source = .ok dump) (found : Dump.frameLength a.format o.geometry dump.size = .ok len)
    (started : Session.start means clock a o.geometry o.outputPath s = (.ok x, s')) :
    let frames := Dump.upTo a.limit (Dump.pieces dump len)
    0 < len ∧
      (s.disk.locate o.source ≠ s.disk.locate o.outputPath → clock.Timely a frames.length →
        ∃ y, Dump.handOver (Session.take clock a a.format) 0 frames x = (.ok (), y) ∧
          y.recorder.counters.framesReceived = frames.length ∧
          recordDump ε γ means clock tokens s = y.finish clock a) ∧
      (s.disk.locate o.source = s.disk.locate o.outputPath →
        recordDump ε γ means clock tokens s = x.abandon clock a (.file .notFound)) := by
  intro frames
  obtain ⟨settings, path, size, begun⟩ := Session.start_ok started
  have full := Recorder.pixels_pos_of_started rfl begun
  rw [size] at full
  have len_pos := Dump.frameLength_pos full found
  have read := Recorder.read_of_clearOutput (Recorder.clearOutput_of_start begun) there
  rw [path] at read
  have played : recordDump ε γ means clock tokens s = playDump clock a o len x := by
    rw [recordDump_eq order there found, started]
  refine ⟨len_pos, fun apart timely => ?_, fun itself => ?_⟩
  · rw [if_neg apart] at read
    -- What the clock shows stays below `m`, and that leaves a stamp for every frame.
    obtain ⟨m, positive, early, room⟩ : ∃ m, 0 < m ∧ (∀ i < 0 + frames.length, (clock.frame a i).now < m) ∧
        m + (0 + frames.length) ≤ wordLimit := by
      rw [Nat.zero_add]
      rcases frames.length.eq_zero_or_pos with none | some
      · exact ⟨wordLimit, by decide, by rw [none]; nofun, by omega⟩
      · have first := timely 0 some
        refine ⟨wordLimit - frames.length, by omega, fun i hi => ?_, by omega⟩
        have := timely i hi
        omega
    obtain ⟨f, len', y, onTime⟩ := Recorder.onTime_of_started rfl rfl begun positive
    obtain ⟨x', y', handed, ended⟩ := Session.handOver_onTime compact a.format onTime early room
    refine ⟨x', handed, ended.counted.trans (Nat.zero_add _), ?_⟩
    rw [played, playDump_eq read len_pos, handed]
    rfl
  · rw [if_pos itself] at read
    rw [played]
    exact playDump_of_missing read len

/-- **A dump is played to its end.** Let the frames of a dump have a length, and let a session begin. Then they are not
empty, though they would be by their format alone if pictures had no pixels. The recorder is given the whole frames of
the dump in order, each with the format that was asked for, or as many as the limit allows, and deals with all of them;
what is left of the dump is not a whole frame and is passed over. Only where the output is to be put in the place of the
dump is there no frame: the dump is removed before it is read, and the command fails. The compressor, the container, the
decoder, the memory and the clocks may be any, if an access unit has a size that a word can hold and the clocks leave a
time stamp for each frame. -/
theorem recordDump_plays (compact : Compressor.Compact ε) {tokens : List String} {s s' : Surroundings} {dump : Bytes}
    {len : ℕ} {x : Session ε γ} (order : readOrder .dump tokens = .ok (a, o))
    (there : s.disk.read o.source = .ok dump) (found : Dump.frameLength a.format o.geometry dump.size = .ok len)
    (started : Session.start means clock a o.geometry o.outputPath s = (.ok x, s')) :
    let count := a.limit.elim (dump.size / len) (min · (dump.size / len))
    let frames := (List.range count).map fun k => dump.extract (k * len) (k * len + len)
    0 < len ∧
      (∀ (g : Geometry) (tag : FrameFormat) (size : ℕ), g.pixels = 0 → tag ≠ .compressed →
        Dump.frameLength (some tag) g size = .ok 0) ∧
      (s.disk.locate o.source ≠ s.disk.locate o.outputPath → clock.Timely a count →
        ∃ y, Dump.handOver (Session.take clock a a.format) 0 frames x = (.ok (), y) ∧
          y.recorder.counters.framesReceived = count ∧
          recordDump ε γ means clock tokens s = y.finish clock a) ∧
      (s.disk.locate o.source = s.disk.locate o.outputPath →
        recordDump ε γ means clock tokens s = x.abandon clock a (.file .notFound)) := by
  intro count frames
  obtain ⟨len_pos, apart, itself⟩ := recordDump_of_started compact order there found started
  have same : Dump.upTo a.limit (Dump.pieces dump len) = frames := by
    rw [Dump.upTo_pieces, ← List.range_eq_range']
    rfl
  have length : frames.length = count := by rw [List.length_map, List.length_range]
  rw [same, length] at apart
  exact ⟨len_pos, fun g tag size empty raw => Dump.frameLength_empty empty raw size, apart, itself⟩

/-- Two frames of 2 × 2 pixels and a part of a third one. -/
theorem recordDump_plays_pair :
    let clock : Clock := { startedAt := { seconds := 0, nanos := 0 } }
    let dump : Bytes := Bytes.fill 15 1
    let tokens := ["d", "2", "2", "o", "--format", "nv12"]
    let s : Surroundings := { disk := { entries := [(["d"], .file 0 dump)], nextId := 1 } }
    let frames := (List.range 2).map fun k => dump.extract (k * 6) (k * 6 + 6)
    ∃ (a : Arguments) (o : RecordingOperands) (x y : Session Cadence Mp4.Movie) (s' : Surroundings),
      readOrder .dump tokens = .ok (a, o) ∧
      Session.start {} clock a o.geometry o.outputPath s = (.ok x, s') ∧ clock.Timely a 2 ∧
      Dump.handOver (Session.take clock a (some .semiPlanar420)) 0 frames x = (.ok (), y) ∧
      y.recorder.counters.framesReceived = 2 ∧
      recordDump Cadence Mp4.Movie {} clock tokens s = y.finish clock a := by
  intro clock dump tokens s frames
  let a : Arguments := { operands := ["d", "2", "2", "o"], format := some .semiPlanar420 }
  let o : RecordingOperands := { source := "d", geometry := { width := 2, height := 2 }, outputPath := "o" }
  have order : readOrder .dump tokens = .ok (a, o) := by cbv
  have there : s.disk.read "d" = .ok dump := by cbv
  have source : s.disk.locate "d" = .ok ["d"] := by cbv
  have output : s.disk.locate "o" = .ok ["o"] := by cbv
  have apart : s.disk.locate "d" ≠ s.disk.locate "o" := by
    rw [source, output]
    decide
  have found : Dump.frameLength a.format o.geometry dump.size = .ok 6 := by decide
  have missing : s.disk.remove "o" = .error .notFound := by cbv
  have two : a.limit.elim (dump.size / 6) (min · (dump.size / 6)) = 2 := by decide
  have timely : clock.Timely a 2 := by
    unfold Clock.Timely
    decide
  obtain ⟨x, s', started⟩ := Session.start_smallest (γ := Mp4.Movie) (a := a) rfl (s := s)
    (Recorder.clearOutput_of_missing missing) {} clock
  obtain ⟨_, _, played, _⟩ := recordDump_plays Cadence.compact order there found started
  rw [two] at played
  obtain ⟨y, handed, count, result⟩ := played apart timely
  exact ⟨a, o, x, y, s', order, started, timely, handed, count, result⟩

/-- A dump of one frame in whose place the output is to be put. The session begins, and no frame is handed over. -/
theorem recordDump_of_own_output :
    let clock : Clock := { startedAt := { seconds := 0, nanos := 0 } }
    let dump : Bytes := Bytes.fill 6 1
    let tokens := ["d", "2", "2", "d", "--format", "nv12"]
    let s : Surroundings := { disk := { entries := [(["d"], .file 0 dump)], nextId := 1 } }
    ∃ (a : Arguments) (o : RecordingOperands) (x : Session Cadence Mp4.Movie) (s' : Surroundings),
      readOrder .dump tokens = .ok (a, o) ∧ s.disk.read o.source = .ok dump ∧
      Dump.frameLength a.format o.geometry dump.size = .ok 6 ∧
      a.limit.elim (dump.size / 6) (min · (dump.size / 6)) = 1 ∧
      Session.start {} clock a o.geometry o.outputPath s = (.ok x, s') ∧
      x.recorder.counters.framesReceived = 0 ∧
      recordDump Cadence Mp4.Movie {} clock tokens s = x.abandon clock a (.file .notFound) := by
  intro clock dump tokens s
  let a : Arguments := { operands := ["d", "2", "2", "d"], format := some .semiPlanar420 }
  let o : RecordingOperands := { source := "d", geometry := { width := 2, height := 2 }, outputPath := "d" }
  have order : readOrder .dump tokens = .ok (a, o) := by cbv
  have there : s.disk.read "d" = .ok dump := by cbv
  have found : Dump.frameLength a.format o.geometry dump.size = .ok 6 := by decide
  have removed : s.disk.remove "d" = .ok { entries := [], nextId := 1 } := by cbv
  have cleared : Recorder.clearOutput (({} : Preferences).capture 2 2 "d") s.disk =
      .ok { entries := [], nextId := 1 } := by
    unfold Recorder.clearOutput
    rw [show (({} : Preferences).capture 2 2 "d").outputPath = "d" from rfl, removed]
  obtain ⟨x, s', started⟩ :=
    Session.start_smallest (γ := Mp4.Movie) (a := a) rfl (s := s) cleared {} clock
  obtain ⟨settings, path, _, begun⟩ := Session.start_ok started
  obtain ⟨_, _, _, onTime⟩ := Recorder.onTime_of_started rfl rfl begun Nat.one_pos
  obtain ⟨_, _, missing⟩ := recordDump_of_started Cadence.compact order there found started
  exact ⟨a, o, x, s', order, there, found, by decide, started, onTime.counted, missing rfl⟩

end CommandLine

end Camcorder
