import Mathlib
import Camcorder.Encoding.Loopback
import Camcorder.Mp4.Document
import Camcorder.Proofs.Capture.Frames
import Camcorder.Settings.Preferences

/-!
# Preferences without a flaw

Preferences are checked when they are made, long before a recorder is. The check covers what an encoder refuses, so a
recorder with flawless preferences gets its encoder (`Preferences.openEncoder_granted`). It does not cover the window of
the throughput reports, for which a buffer is asked for: a window of more than `Throughput.greatestWindow` frames passes
and stops the recorder from starting (`Preferences.starts_iff_window`).
-/

namespace Camcorder

namespace Throughput

/-- The most frames in a window for which a buffer can be asked for. -/
def greatestWindow : Nat := bufferLimit / timingSize

/-- A throughput meter is made just for the windows that its buffer can have. -/
theorem create_eq (window : Nat) (minimumRate : Float) : create window minimumRate =
    if window ≤ greatestWindow then .ok { capacity := max window 1, minimumRate } else Attempt.halt .tooLarge := by
  have fits : max window 1 * timingSize ≤ bufferLimit ↔ window ≤ greatestWindow := by
    unfold greatestWindow timingSize bufferLimit signedWordLimit
    omega
  unfold create
  dsimp only
  by_cases small : window ≤ greatestWindow
  · rw [if_pos small, if_pos (fits.mpr small)]
  · rw [if_neg small, if_neg (fun room => small (fits.mp room))]

end Throughput

/-- The sizes of pictures that are recorded: even, not empty, and up to 16384 pixels either way. -/
structure Geometry.Recordable (g : Geometry) : Prop where
  wide : 0 < g.width
  high : 0 < g.height
  evenWidth : g.width % 2 = 0
  evenHeight : g.height % 2 = 0
  notTooWide : g.width ≤ 16384
  notTooHigh : g.height ≤ 16384

/-- The bytes of a picture that is recorded can be counted. -/
theorem Geometry.Recordable.length {g : Geometry} (h : g.Recordable) : g.len420? = some (g.pixels * 3 / 2) := by
  have few : g.pixels ≤ 16384 * 16384 := Nat.mul_le_mul h.notTooWide h.notTooHigh
  apply Geometry.len420?_eq_some_iff.mpr
  unfold wordLimit
  omega

/-- A converter for such pictures is made, whether there is memory for its arena or not. -/
theorem Converter.create_recordable {g : Geometry} (h : g.Recordable) (layout : Layout) (j : Journal)
    (memory : Memory) : ∃ c j', create g layout j memory = (.ok c, j') := by
  unfold create allocate
  rw [h.length]
  dsimp only [Attempt.ofOption, bind, Except.bind, pure, Except.pure]
  cases memory (g.pixels * 3 / 2) with
  | true => exact ⟨_, _, rfl⟩
  | false => exact ⟨_, _, rfl⟩

/-- A request for pictures of even dimensions at positive rates is granted, if it leaves a layout to choose. -/
theorem Encoder.grant_of_fit (name : String) {supported : List Layout} {q : StreamRequest} {layout : Layout}
    (wide : 0 < q.width) (high : 0 < q.height) (even : q.width % 2 = 0 ∧ q.height % 2 = 0)
    (rates : q.bitrate ≠ 0 ∧ q.frameRate ≠ 0) (chosen : chooseLayout supported q.layout = some layout) :
    ∃ f, grant name supported q = .ok f ∧ f.geometry = { width := q.width, height := q.height } := by
  have positive : ¬(q.width = 0 ∨ q.height = 0) := by omega
  have halved : ¬(q.width % 2 ≠ 0 ∨ q.height % 2 ≠ 0) := by omega
  have paced : ¬(q.bitrate = 0 ∨ q.frameRate = 0) := by omega
  unfold grant
  rw [if_neg positive, if_neg halved, if_neg paced, chosen]
  exact ⟨_, rfl, rfl⟩

namespace Preferences

variable {p : Preferences} {width height : Nat} {path : String}

/-- What is asked of the encoder by flawless preferences is in reach of an encoder. -/
theorem bounds_of_flawless (flawless : p.flaw? = none) : p.encoder.bitrate ≠ 0 ∧ p.encoder.frameRate ≠ 0 := by
  unfold flaw? at flawless
  split at flawless
  · cases flawless
  · split at flawless
    · cases flawless
    · omega

/-- The default loopback backend takes pictures in any layout that may be asked for. -/
theorem chooseLayout_loopback (wanted : Option Layout) :
    ∃ layout, Encoder.chooseLayout (({} : Loopback).layouts) wanted = some layout := by
  rcases wanted with _ | _ | _
  · exact ⟨_, rfl⟩
  · exact ⟨_, rfl⟩
  · exact ⟨_, rfl⟩

/-- With flawless preferences, an encoder for pictures that can be recorded is configured and opened. -/
theorem openEncoder_granted (flawless : p.flaw? = none) (size : Geometry.Recordable { width, height }) (path : String)
    (j : Journal) :
    ∃ encoder layout backend, Recorder.openEncoder (p.capture width height path) ({} : Loopback) j =
      (.ok (encoder, layout), backend, j) := by
  obtain ⟨bitrate, frameRate⟩ := bounds_of_flawless flawless
  obtain ⟨layout, chosen⟩ := chooseLayout_loopback p.encoder.layout
  obtain ⟨f, granted, geometry⟩ := Encoder.grant_of_fit (Backend.name ({} : Loopback))
    (q := (p.capture width height path).request) size.wide size.high ⟨size.evenWidth, size.evenHeight⟩
    ⟨bitrate, frameRate⟩ chosen
  have configured : ({} : Encoder Loopback.Instance).configure ({} : Loopback) (p.capture width height path).request j =
      (.ok f, { state := .configured, format := some f }, j) := by
    have supported : Backend.layouts ({} : Loopback) = ({} : Loopback).layouts := rfl
    unfold Encoder.configure Encoder.grantNotices
    rw [if_pos rfl]
    dsimp only
    rw [supported, granted]
    simp
  have length : f.inputLength? = some (({ width, height } : Geometry).pixels * 3 / 2) := by
    rw [StreamFormat.inputLength?_eq, geometry]
    exact size.length
  have launched : ∃ encoder backend, ({ state := .configured, format := some f } : Encoder Loopback.Instance).launch
      ({} : Loopback) = (.ok (), encoder, backend) := by
    unfold Encoder.launch
    dsimp only [Backend.create, Loopback.create]
    rw [length]
    exact ⟨_, _, rfl⟩
  obtain ⟨encoder, backend, launched⟩ := launched
  refine ⟨encoder, f.layout, backend, ?_⟩
  unfold Recorder.openEncoder
  rw [configured]
  dsimp only
  rw [launched]

/-- **Flawless preferences let a recorder start, but for the window.** Let preferences have no flaw, let the pictures be
of a size that can be recorded, and let nothing be at the output path. Then, whether there is memory for an arena or
not, a recorder with the default loopback backend starts if the window of the throughput reports has at most
`greatestWindow` frames, and otherwise breaks down over it. -/
theorem starts_iff_window {γ : Type} (flawless : p.flaw? = none) (size : Geometry.Recordable { width, height })
    {s : Surroundings} (missing : s.disk.remove path = .error .notFound) (memory : Memory) (startedAt : Timestamp) :
    let r : Recorder Loopback Loopback.Instance γ :=
      { settings := p.capture width height path, backend := {}, memory }
    ((r.start startedAt s).1 = .ok true ↔ p.diagnostics.window ≤ Throughput.greatestWindow) ∧
      (Throughput.greatestWindow < p.diagnostics.window → (r.start startedAt s).1 = Attempt.halt .tooLarge) := by
  intro r
  obtain ⟨encoder, layout, backend, opened⟩ := openEncoder_granted flawless size path s.journal
  obtain ⟨converter, _, made⟩ := Converter.create_recordable size layout s.journal memory
  have cleared : Recorder.clearOutput (p.capture width height path) s.disk = .ok s.disk :=
    Recorder.clearOutput_of_missing missing
  -- All that a start comes to hangs on the window.
  have answer : (r.start startedAt s).1 =
      if p.diagnostics.window ≤ Throughput.greatestWindow then .ok true else Attempt.halt .tooLarge := by
    have window := Throughput.create_eq p.diagnostics.window p.diagnostics.minimumRate
    have idle : r.state = .idle := rfl
    have geometry : (p.capture width height path).geometry = { width, height } := rfl
    have settings : (p.capture width height path).window = p.diagnostics.window ∧
      (p.capture width height path).minimumRate = p.diagnostics.minimumRate := ⟨rfl, rfl⟩
    unfold Recorder.start Recorder.openRecording
    rw [if_pos idle]
    dsimp only [r]
    rw [cleared]
    dsimp only
    rw [opened]
    dsimp only
    rw [geometry, made, settings.1, settings.2, window]
    by_cases small : p.diagnostics.window ≤ Throughput.greatestWindow
    · rw [if_pos small, if_pos small]
      rfl
    · rw [if_neg small, if_neg small]
      rfl
  rw [answer]
  by_cases small : p.diagnostics.window ≤ Throughput.greatestWindow
  · rw [if_pos small]
    exact ⟨⟨fun _ => small, fun _ => rfl⟩, fun large => absurd small (Nat.not_le.mpr large)⟩
  · rw [if_neg small]
    exact ⟨⟨nofun, fun holds => absurd holds small⟩, fun _ => rfl⟩

/-- The longest window with which a recorder starts, and the widest pictures. -/
theorem starts_iff_window_longest :
    let p : Preferences := { diagnostics := { window := 192153584101141162, minimumRate := 0.0 } }
    let r : Recorder Loopback Loopback.Instance Mp4.Movie := { settings := p.capture 16384 2 "o", backend := {} }
    p.flaw? = none ∧ Geometry.Recordable { width := 16384, height := 2 } ∧
      ({} : FileTree).remove "o" = .error .notFound ∧ (r.start { seconds := 0, nanos := 0 } {}).1 = .ok true := by
  intro p r
  have flawless : p.flaw? = none := by decide +kernel
  have size : Geometry.Recordable { width := 16384, height := 2 } :=
    ⟨by decide, by decide, by decide, by decide, by decide, by decide⟩
  have missing : ({} : FileTree).remove "o" = .error .notFound := by cbv
  obtain ⟨starts, _⟩ :=
    starts_iff_window (γ := Mp4.Movie) flawless size (s := {}) missing .ample { seconds := 0, nanos := 0 }
  exact ⟨flawless, size, missing, starts.mpr (by decide +kernel)⟩

/-- The longest window that a document can hold has no flaw, and a recorder with it breaks down. -/
theorem longest_window_breaks :
    let p : Preferences := { diagnostics := { window := 9223372036854775807 } }
    let r : Recorder Loopback Loopback.Instance Mp4.Movie := { settings := p.capture 2 2 "o", backend := {} }
    p.flaw? = none ∧ ({} : FileTree).remove "o" = .error .notFound ∧
      (r.start { seconds := 0, nanos := 0 } {}).1 = Attempt.halt .tooLarge := by
  intro p r
  have missing : ({} : FileTree).remove "o" = .error .notFound := by cbv
  have cleared : Recorder.clearOutput r.settings {} = .ok {} := Recorder.clearOutput_of_missing missing
  refine ⟨by decide +kernel, missing, ?_⟩
  unfold Recorder.start Recorder.openRecording
  dsimp only
  rw [cleared]
  decide +kernel

end Preferences

end Camcorder
