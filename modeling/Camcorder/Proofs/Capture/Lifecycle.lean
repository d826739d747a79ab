import Mathlib
import Camcorder.Mp4.Document
import Camcorder.Proofs.Capture.Life

/-!
# The stages of a recorder

A recorder with a loopback backend goes through its stages once, in whatever order it is used: it is idle until a start
succeeds, records until it is stopped, and is stopped for good. An instance of the encoder is allocated exactly while
it records (`Life.Stage`). `Life.records_once` puts this together.
-/

namespace Camcorder

namespace Loopback

variable {γ : Type}

/-! ## Instances -/

/-- Closing a session destroys its instance. -/
theorem close_live {e : Encoder Instance} (allocated : e.isAllocated = true) (b : Loopback) :
    (e.close b).2.2.live = b.live - 1 := by
  obtain ⟨coder, held⟩ := Option.isSome_iff_exists.mp allocated
  unfold Encoder.close
  rw [held]
  rfl

/-- An instance is refused, or it is made and starts. -/
theorem launch_cases {f : StreamFormat} {len : Nat} (length : f.inputLength? = some len) (b : Loopback) :
    let e : Encoder Instance := { state := .configured, format := some f }
    (∃ failure, e.launch b = (.error failure, e, b)) ∨
    ∃ e' b', e.launch b = (.ok (), e', b') ∧ e'.isAllocated = true ∧ b'.live = b.live + 1 := by
  intro e
  cases refuses : b.refuses with
  | true =>
    left
    have created : Backend.create b f = (Attempt.refuse (.configuration (.instanceRefused "loopback")), b) := by
      show create b f = _
      unfold create
      rw [if_pos refuses]
    unfold Encoder.launch
    rw [if_pos rfl]
    dsimp only [e]
    rw [created]
    exact ⟨_, rfl⟩
  | false =>
    right
    have created : ∃ coder, Backend.create b f = (.ok coder, { b with live := b.live + 1, created := b.created + 1 }) := by
      show ∃ coder, create b f = _
      unfold create
      rw [if_neg (by rw [refuses]; nofun), length]
      exact ⟨_, rfl⟩
    obtain ⟨coder, created⟩ := created
    unfold Encoder.launch
    rw [if_pos rfl]
    dsimp only [e]
    rw [created]
    exact ⟨_, _, rfl, rfl, rfl⟩

/-- An encoder is opened with an instance of its own, or not at all. -/
theorem openEncoder_cases {settings : CaptureSettings} (fits : settings.geometry.pixels * 3 < wordLimit) (b : Loopback)
    (j : Journal) :
    (∃ failure j', Recorder.openEncoder settings b j = (.error failure, b, j')) ∨
    ∃ e layout b' j', Recorder.openEncoder settings b j = (.ok (e, layout), b', j') ∧ e.isAllocated = true ∧
      b'.live = b.live + 1 := by
  unfold Recorder.openEncoder
  rcases configured : ({} : Encoder Instance).configure b settings.request j with ⟨failure | f, e, j'⟩
  · left
    exact ⟨failure, j', rfl⟩
  · obtain ⟨rfl, width, height⟩ := Encoder.configure_ok configured
    -- The buffers of the instance can be had.
    have length : f.inputLength? = some (settings.geometry.pixels * 3 / 2) := by
      have pixels : f.geometry.pixels = settings.geometry.pixels := by
        unfold StreamFormat.geometry Geometry.pixels
        rw [width, height]
        rfl
      rw [StreamFormat.inputLength?_eq, Geometry.len420?_eq_some_iff, pixels]
      exact ⟨fits, rfl⟩
    dsimp only
    rcases launch_cases length b with ⟨failure, refused⟩ | ⟨e', b', launched, allocated, live⟩
    · left
      rw [refused]
      exact ⟨failure, j', rfl⟩
    · right
      rw [launched]
      exact ⟨e', f.layout, b', j', rfl, allocated, live⟩

/-- What cannot be opened as a whole is given up, with its instance. -/
theorem openRecording_cases {r : Recorder Loopback Instance γ} (fits : r.settings.geometry.pixels * 3 < wordLimit)
    (startedAt : Timestamp) (s : Surroundings) :
    (∃ failure b s', r.openRecording startedAt s = (.error failure, b, s') ∧ b.live = r.backend.live) ∨
    ∃ x b s', r.openRecording startedAt s = (.ok x, b, s') ∧ x.encoder.isAllocated = true ∧
      b.live = r.backend.live + 1 := by
  rcases opened : r.openRecording startedAt s with ⟨failure | x, b, s'⟩
  · left
    refine ⟨failure, b, s', rfl, ?_⟩
    unfold Recorder.openRecording at opened
    split at opened
    · cases opened
      rfl
    · rcases openEncoder_cases fits r.backend s.journal with ⟨_, _, refused⟩ | ⟨e, _, b₁, _, launched, allocated, live⟩
      · rw [refused] at opened
        cases opened
        rfl
      · -- What is built after the encoder cannot be had, so the encoder is given up with its instance.
        rw [launched] at opened
        dsimp only at opened
        split at opened
        · cases opened
        · cases opened
          rw [e.discard_eq_close, close_live allocated]
          omega
  · right
    obtain ⟨e, _, _, _, _, _, encoder, _, rfl⟩ := Recorder.openRecording_ok opened
    refine ⟨_, b, s', rfl, ?_⟩
    rcases openEncoder_cases fits r.backend s.journal with ⟨_, _, refused⟩ | ⟨_, _, _, _, launched, allocated, live⟩
    · rw [encoder] at refused
      cases refused
    · rw [encoder] at launched
      cases launched
      exact ⟨allocated, live⟩

end Loopback

/-! ## Stages -/

namespace Reply

/-- Whether the reply is that a recording began. -/
def begins : Reply → Bool
  | .started (.ok true) => true
  | _ => false

/-- The statistics that the reply gives, if it gives any. -/
def statistics? : Reply → Option Statistics
  | .stopped (.ok statistics) => statistics
  | _ => none

end Reply

/-- The frame that is brought, if there is one. -/
def Use.frame? : Use → Option Incoming
  | .write i => some i
  | _ => none

/-- Whether this can be done with a recorder in that state. Otherwise nothing happens. -/
def Use.Fits : Use → RecorderState → Prop
  | .start _, state => state = .idle
  | .write _, state => state = .recording
  | .stop .., state => state ≠ .stopped
  | .discard _, state => state = .recording

namespace Life

open Loopback

section Replies

variable {β σ γ : Type} {c c' : Life β σ γ} {reply : Reply}

/-- How often a recording began. -/
def starts (c : Life β σ γ) : Nat := c.replies.countP Reply.begins

/-- The statistics that were given. -/
def statistics (c : Life β σ γ) : List Statistics := c.replies.filterMap Reply.statistics?

theorem starts_concat (said : c'.replies = c.replies ++ [reply]) :
    c'.starts = c.starts + if reply.begins then 1 else 0 := by
  unfold starts
  rw [said, List.countP_append, List.countP_singleton]

theorem statistics_concat (said : c'.replies = c.replies ++ [reply]) :
    c'.statistics = c.statistics ++ reply.statistics?.toList := by
  unfold statistics
  rw [said, List.filterMap_append]
  cases told : reply.statistics? <;> simp [told]

/-- The life `c'` is where `c` is. -/
structure Unmoved (c c' : Life β σ γ) : Prop where
  recorder : c'.recorder = c.recorder
  traffic : c'.traffic = c.traffic
  starts : c'.starts = c.starts
  statistics : c'.statistics = c.statistics

theorem Unmoved.of_reply (reply : Reply) (recorder : c'.recorder = c.recorder) (traffic : c'.traffic = c.traffic)
    (said : c'.replies = c.replies ++ [reply]) (begins : reply.begins = false) (none : reply.statistics? = none) :
    Unmoved c c' := by
  refine ⟨recorder, traffic, ?_, ?_⟩
  · rw [starts_concat said, begins]
    rfl
  · rw [statistics_concat said, none]
    exact List.append_nil _

/-- What cannot be done in this state has no effect. -/
theorem unmoved_of_not_fits [Coder σ] [Backend β σ] [Container γ] {use : Use} (h : ¬use.Fits c.recorder.state) :
    Unmoved c (c.step use) := by
  cases use with
  | start startedAt =>
    have busy : c.recorder.state ≠ .idle := h
    have started := Recorder.start_busy busy startedAt c.around
    refine .of_reply (.started (.ok false)) (congrArg (·.2.1) started) rfl ?_ rfl rfl
    show c.replies ++ [.started (c.recorder.start startedAt c.around).1] = _
    rw [started]
  | write i =>
    have elsewhere : c.recorder.state ≠ .recording := h
    have written := Recorder.write_elsewhere elsewhere i.raw i.hint i.clock c.around
    refine .of_reply _ (congrArg (·.2.1) written) ?_ rfl rfl rfl
    exact Recorder.writeTraffic_elsewhere elsewhere c.traffic i c.around
  | stop now elapsed =>
    have stopped : c.recorder.state = .stopped := not_not.mp h
    have elsewhere : c.recorder.state ≠ .recording := by rw [stopped]; nofun
    have ended := Recorder.stop_elsewhere elsewhere now elapsed c.around
    refine .of_reply (.stopped (.ok none)) ?_ ?_ ?_ rfl rfl
    · show (c.recorder.stop now elapsed c.around).2.1 = c.recorder
      rw [ended, ← stopped]
    · exact Recorder.stopTraffic_elsewhere elsewhere c.traffic now c.around
    · show c.replies ++ [.stopped (c.recorder.stop now elapsed c.around).1] = _
      rw [ended]
  | discard now =>
    have elsewhere : c.recorder.state ≠ .recording := h
    have discarded := Recorder.discard_elsewhere elsewhere now c.around
    refine .of_reply _ (congrArg Prod.fst discarded) ?_ rfl rfl rfl
    exact Recorder.stopTraffic_elsewhere elsewhere c.traffic now _

end Replies

variable {γ : Type} [Container γ] {c c' : Life Loopback Instance γ} {settings : CaptureSettings}
  {decode : (g : Geometry) → Bytes → Except DecodeCause (ColourPicture g)} {memory : Memory} {live : Nat}

/-- The stage that a recorder is in, what it holds there and what it has said by then. There are `live` instances that
are not its own. -/
inductive Stage (settings : CaptureSettings) (decode : (g : Geometry) → Bytes → Except DecodeCause (ColourPicture g))
    (memory : Memory) (live : Nat) (c : Life Loopback Instance γ) : Prop where
  /-- It is as it was made, but for what failed starts did to the backend. -/
  | idle (b : Loopback) (fresh : c.recorder = { settings, backend := b, decode, memory }) (instances : b.live = live)
      (quiet : c.traffic = {}) (starts : c.starts = 0) (statistics : c.statistics = [])
  /-- It has a session with an instance of its own. -/
  | recording (x : Recording Instance γ) (state : c.recorder.state = .recording) (held : c.recorder.recording = some x)
      (sound : x.converter.Sound) (allocated : x.encoder.isAllocated = true)
      (instances : c.recorder.backend.live = live + 1) (starts : c.starts = 1) (statistics : c.statistics = [])
  /-- It has no session, and will not have one. -/
  | stopped (state : c.recorder.state = .stopped) (none : c.recorder.recording = none)
      (instances : c.recorder.backend.live = live) (starts : c.starts ≤ 1) (once : c.statistics.length ≤ 1)
      (counted : ∀ t ∈ c.statistics, t.counters = c.recorder.counters)

omit [Container γ] in
/-- A stage does not change while nothing moves. -/
theorem Stage.unmoved (h : Stage settings decode memory live c) (same : Unmoved c c') :
    Stage settings decode memory live c' := by
  obtain ⟨recorder, traffic, starts', statistics'⟩ := same
  cases h with
  | idle b fresh instances quiet starts statistics =>
    exact .idle b (recorder.trans fresh) instances (traffic.trans quiet) (starts'.trans starts)
      (statistics'.trans statistics)
  | recording x state held sound allocated instances starts statistics =>
    rw [← recorder] at state held instances
    exact .recording x state held sound allocated instances (starts'.trans starts) (statistics'.trans statistics)
  | stopped state none instances starts once counted =>
    rw [← recorder] at state none instances counted
    rw [← starts'] at starts
    rw [← statistics'] at once counted
    exact .stopped state none instances starts once counted

/-- An idle recorder that is started is idle still, or it records. -/
theorem Stage.start (fits : settings.geometry.pixels * 3 < wordLimit) {b : Loopback}
    (fresh : c.recorder = { settings, backend := b, decode, memory }) (instances : b.live = live) (quiet : c.traffic = {})
    (starts : c.starts = 0) (statistics : c.statistics = []) (startedAt : Timestamp) :
    Stage settings decode memory live (c.step (.start startedAt)) := by
  have idle : c.recorder.state = .idle := by rw [fresh]
  have fits : c.recorder.settings.geometry.pixels * 3 < wordLimit := by
    rw [fresh]
    exact fits
  have backend : c.recorder.backend.live = live := by
    rw [fresh]
    exact instances
  have said : (c.step (.start startedAt)).replies =
      c.replies ++ [.started (c.recorder.start startedAt c.around).1] := rfl
  have recorder : (c.step (.start startedAt)).recorder = (c.recorder.start startedAt c.around).2.1 := rfl
  rcases Recorder.start_cases idle startedAt c.around with
    ⟨failure, a, s', failed, refused, started⟩ | ⟨x, b', s', opened, sound, started⟩
  · -- The attempt leaves no instance behind.
    rw [started] at said recorder
    have live' : (c.recorder.openRecording startedAt c.around).2.1.live = live := by
      rcases openRecording_cases fits startedAt c.around with ⟨_, _, _, opened, same⟩ | ⟨_, _, _, opened, _⟩
      · rw [opened]
        exact same.trans backend
      · rw [opened] at failed
        cases failed
    have begins : (Reply.started a).begins = false := by
      unfold Reply.begins
      split
      · rename_i same
        cases same
        contradiction
      · rfl
    refine .idle _ ?_ live' quiet ?_ ?_
    · rw [recorder, fresh]
    · rw [starts_concat said, begins, starts]
      rfl
    · rw [statistics_concat said, statistics]
      rfl
  · -- The recording comes with an instance of its own.
    rw [started] at said recorder
    rcases openRecording_cases fits startedAt c.around with ⟨_, _, _, failed, _⟩ | ⟨_, _, _, opened', allocated, more⟩
    · rw [opened] at failed
      cases failed
    · rw [opened] at opened'
      cases opened'
      rw [backend] at more
      refine .recording x ?_ ?_ sound allocated ?_ ?_ ?_
      · rw [recorder]
      · rw [recorder]
      · rw [recorder]
        exact more
      · rw [starts_concat said, starts]
        rfl
      · rw [statistics_concat said, statistics]
        rfl

/-- A recorder that records goes on with it when a frame comes. -/
theorem Stage.write {x : Recording Instance γ} (state : c.recorder.state = .recording)
    (held : c.recorder.recording = some x) (sound : x.converter.Sound) (allocated : x.encoder.isAllocated = true)
    (instances : c.recorder.backend.live = live + 1) (starts : c.starts = 1) (statistics : c.statistics = [])
    (i : Incoming) : Stage settings decode memory live (c.step (.write i)) := by
  obtain ⟨_, _, x', _, _, _, written, sound', kept, _⟩ :=
    Recorder.write_cases state held sound i.raw i.hint i.clock c.around
  have recorder : (c.step (.write i)).recorder = (c.recorder.write i.raw i.hint i.clock c.around).2.1 := rfl
  rw [written] at recorder
  refine .recording x' ?_ ?_ sound' (kept.trans allocated) ?_ ?_ ?_
  · rw [recorder]
    exact state
  · rw [recorder]
  · rw [recorder]
    exact instances
  · rw [starts_concat (c := c) rfl, starts]
    rfl
  · rw [statistics_concat (c := c) rfl, statistics]
    rfl

/-- A recorder that is stopped while it records gives its instance back. It says no more than the one statistics, which
count what it counted. -/
theorem Stage.stop {x : Recording Instance γ} (state : c.recorder.state = .recording)
    (held : c.recorder.recording = some x) (allocated : x.encoder.isAllocated = true)
    (instances : c.recorder.backend.live = live + 1) (starts : c.starts = 1) (statistics : c.statistics = [])
    (now : Nat) (elapsed : Float) (s : Surroundings) (reply : Reply) (begins : reply.begins = false)
    (given : reply.statistics? = none ∨ reply = .stopped (c.recorder.stop now elapsed s).1)
    (recorder : c'.recorder = (c.recorder.stop now elapsed s).2.1) (said : c'.replies = c.replies ++ [reply]) :
    Stage settings decode memory live c' := by
  obtain ⟨a, counters, e, s', stopped, kept, _, answer⟩ := Recorder.stop_cases state held now elapsed s
  rw [stopped] at given recorder
  -- A stop that breaks down, and a recorder that is given up, say nothing.
  have told : reply.statistics? = none ∨ ∃ t, reply.statistics? = some t ∧ t.counters = counters := by
    rcases given with none | rfl
    · exact .inl none
    · rcases answer with ⟨f, rfl⟩ | ⟨t, rfl, same⟩
      · exact .inl rfl
      · exact .inr ⟨t, rfl, same⟩
  refine .stopped ?_ ?_ ?_ ?_ ?_ ?_
  · rw [recorder]
  · rw [recorder]
  · rw [recorder]
    dsimp only
    rw [close_live (kept.trans allocated), instances]
    rfl
  · rw [starts_concat said, begins, starts]
    rfl
  · rw [statistics_concat said, statistics]
    rcases told with none | ⟨t, given, _⟩
    · rw [none]
      exact Nat.zero_le 1
    · rw [given]
      exact le_refl 1
  · rw [statistics_concat said, statistics]
    rcases told with none | ⟨t, given, same⟩
    · rw [none]
      nofun
    · rw [given, recorder]
      intro t' ht
      cases List.mem_singleton.mp ht
      exact same

/-- A recorder that is stopped while it is idle has nothing to give back. -/
theorem Stage.stop_idle {b : Loopback} (fresh : c.recorder = { settings, backend := b, decode, memory })
    (instances : b.live = live) (starts : c.starts = 0) (statistics : c.statistics = []) (now : Nat) (elapsed : Float) :
    Stage settings decode memory live (c.step (.stop now elapsed)) := by
  have elsewhere : c.recorder.state ≠ .recording := by
    rw [fresh]
    nofun
  have ended := Recorder.stop_elsewhere elsewhere now elapsed c.around
  have said : (c.step (.stop now elapsed)).replies =
      c.replies ++ [.stopped (c.recorder.stop now elapsed c.around).1] := rfl
  have recorder : (c.step (.stop now elapsed)).recorder = (c.recorder.stop now elapsed c.around).2.1 := rfl
  have none : (c.step (.stop now elapsed)).statistics = [] := by
    rw [ended] at said
    rw [statistics_concat said, statistics]
    rfl
  rw [ended] at recorder
  refine .stopped ?_ ?_ ?_ ?_ ?_ ?_
  · rw [recorder]
  · rw [recorder, fresh]
  · rw [recorder, fresh]
    exact instances
  · rw [starts_concat said, starts]
    exact Nat.zero_le 1
  · rw [none]
    exact Nat.zero_le 1
  · rw [none]
    nofun

/-- Whatever is done with a recorder, it is in one of its stages afterwards. -/
theorem Stage.step (fits : settings.geometry.pixels * 3 < wordLimit) (h : Stage settings decode memory live c)
    (use : Use) : Stage settings decode memory live (c.step use) := by
  by_cases able : use.Fits c.recorder.state
  · cases h with
    | idle b fresh instances quiet starts statistics =>
      have idle : c.recorder.state = .idle := by rw [fresh]
      rw [idle] at able
      cases use with
      | start startedAt => exact .start fits fresh instances quiet starts statistics startedAt
      | write i => cases able
      | discard now => cases able
      | stop now elapsed =>
        exact .stop_idle fresh instances starts statistics now elapsed
    | recording x state held sound allocated instances starts statistics =>
      cases use with
      | start startedAt =>
        rw [state] at able
        cases able
      | write i => exact .write state held sound allocated instances starts statistics i
      | stop now elapsed =>
        exact .stop state held allocated instances starts statistics now elapsed c.around _ rfl (.inr rfl) rfl rfl
      | discard now =>
        refine .stop state held allocated instances starts statistics now 0.0 (c.around.note .abandoned)
          .discarded rfl (.inl rfl) ?_ rfl
        show (c.recorder.discard now c.around).1 = _
        rw [Recorder.discard_recording state]
    | stopped state =>
      rw [state] at able
      cases use with
      | start startedAt => cases able
      | write i => cases able
      | stop now elapsed => exact absurd rfl able
      | discard now => cases able
  · exact h.unmoved (unmoved_of_not_fits able)

/-- A recorder that is stopped stays as it is. -/
theorem run_stopped (state : c.recorder.state = .stopped) (uses : List Use) : (c.run uses).recorder = c.recorder := by
  induction uses generalizing c with
  | nil => rfl
  | cons use uses ih =>
    have unable : ¬use.Fits c.recorder.state := by
      rw [state]
      cases use with
      | stop now elapsed => exact not_not.mpr rfl
      | _ => nofun
    have same := (unmoved_of_not_fits unable).recorder
    rw [← same] at state
    exact (ih state).trans same

/-! ## Time stamps -/

/-- The recorder as it is between two frames. -/
def reel (c : Life Loopback Instance γ) : Reel Loopback Instance γ :=
  { recorder := c.recorder, around := c.around, traffic := c.traffic }

/-- If the recorder records, its encoder keeps pace, the time stamps from `m` on were not given yet, and no more than
`n` pictures were queued. -/
def Prompt (m n : Nat) (c : Life Loopback Instance γ) : Prop :=
  c.recorder.state = .recording → ∃ b f len x i, f.inputLength? = some len ∧ Underway b f len c.reel x i ∧
    Calm m x c.traffic ∧ (queued c.traffic.submissions).length ≤ n

omit [Container γ] in
/-- A prompt recorder stays so while nothing moves. -/
theorem Prompt.unmoved {m n : Nat} (h : Prompt m n c) (same : Unmoved c c') : Prompt m n c' := by
  intro state
  rw [same.recorder] at state
  obtain ⟨b, f, len, x, i, length, u, calm, count⟩ := h state
  refine ⟨b, f, len, x, i, length, u.congr same.recorder same.traffic, ?_, ?_⟩
  · rw [same.traffic]
    exact calm
  · rw [same.traffic]
    exact count

omit [Container γ] in
theorem Prompt.mono {m n n' : Nat} (h : Prompt m n c) (le : n ≤ n') : Prompt m n' c := by
  intro state
  obtain ⟨b, f, len, x, i, length, u, calm, count⟩ := h state
  exact ⟨b, f, len, x, i, length, u, calm, count.trans le⟩

/-- A recording that was just started is prompt: there is no picture yet. -/
theorem Prompt.start {b : Loopback} (fresh : c.recorder = { settings, backend := b, decode, memory })
    (quiet : c.traffic = {}) {m : Nat} (positive : 0 < m) (n : Nat) (startedAt : Timestamp) : Prompt m n (c.step (.start startedAt)) := by
  intro state
  rcases started : c.recorder.start startedAt c.around with ⟨a, r, s⟩
  have recorder : (c.step (.start startedAt)).recorder = r := congrArg (·.2.1) started
  have around : (c.step (.start startedAt)).around = s := congrArg (·.2.2) started
  have traffic : (c.step (.start startedAt)).traffic = {} := quiet
  have idle : c.recorder.state = .idle := by rw [fresh]
  -- As it records now, it was started with success.
  have answered : a = .ok true := by
    rcases Recorder.start_cases idle startedAt c.around with ⟨_, _, _, _, _, failed⟩ | ⟨_, _, _, _, _, began⟩
    · rw [started] at failed
      cases failed
      rw [recorder] at state
      have still : c.recorder.state = .recording := state
      rw [idle] at still
      cases still
    · rw [started] at began
      cases began
      rfl
  rw [fresh, answered] at started
  obtain ⟨f, len, x, i, length, _, u, clock, writer⟩ := underway_of_started started
  have reel : (c.step (.start startedAt)).reel = { recorder := r, around := s } := by
    unfold Life.reel
    rw [recorder, around, traffic]
  refine ⟨b, f, len, x, i, length, ?_, ?_, ?_⟩
  · rw [reel]
    exact u
  · rw [traffic]
    refine ⟨by rw [clock]; exact positive, nofun, ?_⟩
    intro last written
    rw [writer] at written
    cases written
  · rw [traffic]
    exact Nat.zero_le n

/-- A frame uses up one time stamp. -/
theorem Prompt.write {m n : Nat} (h : Prompt m n c) (state : c.recorder.state = .recording) {i : Incoming}
    (early : i.clock.now < m) (room : m + n + 1 ≤ wordLimit) : Prompt m (n + 1) (c.step (.write i)) := by
  intro _
  obtain ⟨b, f, len, x, j, length, u, calm, count⟩ := h state
  have left : m + (queued c.traffic.submissions).length + 1 ≤ wordLimit := by omega
  have only : ∀ k ∈ [i], k.clock.now < m := by
    intro k hk
    cases List.mem_singleton.mp hk
    exact early
  obtain ⟨_, x', j', u', calm', count'⟩ := u.run_calm length calm rfl [i] only left
  exact ⟨b, f, len, x', j', length, u'.congr rfl rfl, calm', count'.trans (Nat.add_le_add_right count 1)⟩

/-- As long as there are time stamps left, whatever is done with a recorder leaves it prompt. -/
theorem Prompt.step {m n : Nat} (stage : Stage settings decode memory live c) (h : Prompt m n c) (positive : 0 < m)
    (use : Use) (early : ∀ i, use.frame? = some i → i.clock.now < m) (room : m + n + use.frame?.toList.length ≤ wordLimit) :
    Prompt m (n + use.frame?.toList.length) (c.step use) := by
  by_cases able : use.Fits c.recorder.state
  · cases use with
    | start startedAt =>
      cases stage with
      | idle b fresh _ quiet => exact .start fresh quiet positive _ startedAt
      | recording _ state =>
        rw [state] at able
        cases able
      | stopped state =>
        rw [state] at able
        cases able
    | write i => exact h.write able (early i rfl) room
    | stop now elapsed =>
      -- It does not record any more.
      intro state
      have ended : (c.step (.stop now elapsed)).recorder.state = .stopped := Recorder.state_stop ..
      rw [ended] at state
      cases state
    | discard now =>
      intro state
      have ended : (c.step (.discard now)).recorder.state = _ := Recorder.state_discard c.recorder now c.around
      have able : c.recorder.state = .recording := able
      rw [if_pos able, state] at ended
      cases ended
  · exact (h.unmoved (unmoved_of_not_fits able)).mono (Nat.le_add_right _ _)

/-- A recorder that is prompt stays so in any run that leaves time stamps for its frames. -/
theorem Prompt.run (fits : settings.geometry.pixels * 3 < wordLimit) {m n : Nat}
    (stage : Stage settings decode memory live c) (h : Prompt m n c) (positive : 0 < m) (uses : List Use)
    (early : ∀ i ∈ uses.filterMap Use.frame?, i.clock.now < m)
    (room : m + n + (uses.filterMap Use.frame?).length ≤ wordLimit) :
    Prompt m (n + (uses.filterMap Use.frame?).length) (c.run uses) := by
  -- By induction on the uses. Only a frame uses up one of the time stamps that `room` leaves.
  induction uses generalizing c n with
  | nil => exact h
  | cons use uses ih =>
    have split : (use :: uses).filterMap Use.frame? = use.frame?.toList ++ uses.filterMap Use.frame? := by
      cases frame : use.frame? <;> simp [frame]
    rw [split] at early room ⊢
    rw [List.length_append, ← Nat.add_assoc] at room ⊢
    have first : ∀ i, use.frame? = some i → i.clock.now < m := by
      intro i frame
      exact early i (List.mem_append_left _ (by rw [frame]; exact .head _))
    have next := h.step stage positive use first (by omega)
    exact ih (stage.step fits use) next (fun i hi => early i (List.mem_append_right _ hi)) (by omega)

/-- A prompt recorder that is stopped answers with statistics. -/
theorem Prompt.stop {m n : Nat} (h : Prompt m n c) (room : m + n ≤ wordLimit) (state : c.recorder.state = .recording)
    (now : Nat) (elapsed : Float) : ∃ t, (c.recorder.stop now elapsed c.around).1 = .ok (some t) := by
  obtain ⟨b, f, len, x, i, length, u, calm, count⟩ := h state
  rcases u.stop now elapsed with ⟨_, _, breaks⟩ | ⟨t, stopped, _⟩
  · have sizes : ∀ p ∈ queued c.traffic.submissions, p.1.size = len := by
      intro p hp
      exact size_of_mem_queued u.pace.keeps hp
    have left : m + (queued c.traffic.submissions).length ≤ wordLimit := by omega
    exact absurd breaks (calm.not_breaksDown length sizes calm.stamps left)
  · exact ⟨t, stopped⟩

/-! ## The whole life -/

/-- While a recorder records, and only then, it has a session, with one instance, and reports it. It has begun to
record and has given statistics at most once, and since it gave them it is stopped and counts what they count. -/
structure Consistent (live : Nat) (c : Life Loopback Instance γ) : Prop where
  session : c.recorder.recording.isSome = true ↔ c.recorder.state = .recording
  instances : c.recorder.backend.live = if c.recorder.state = .recording then live + 1 else live
  encoder : c.recorder.resources.encoder = true ↔ c.recorder.state = .recording
  muxer : c.recorder.resources.muxer = true ↔ c.recorder.state = .recording
  starts : c.starts ≤ 1
  statistics : c.statistics.length ≤ 1
  counted : ∀ t ∈ c.statistics, c.recorder.state = .stopped ∧ t.counters = c.recorder.counters

omit [Container γ] in
/-- In every stage the resources agree with the instances that live. -/
theorem Stage.consistent (h : Stage settings decode memory live c) : Consistent live c := by
  cases h with
  | idle b fresh instances quiet starts statistics =>
    refine ⟨?_, ?_, ?_, ?_, by omega, by rw [statistics]; exact Nat.zero_le 1, by rw [statistics]; nofun⟩
    · rw [fresh]
      exact ⟨nofun, nofun⟩
    · rw [fresh]
      exact instances
    · rw [fresh]
      exact ⟨nofun, nofun⟩
    · rw [fresh]
      exact ⟨nofun, nofun⟩
  | recording x state held sound allocated instances starts statistics =>
    have resources : c.recorder.resources = { encoder := true, muxer := true, scratch := x.converter.hasArena } := by
      unfold Recorder.resources
      rw [held, ← allocated]
    refine ⟨?_, ?_, ?_, ?_, by omega, by rw [statistics]; exact Nat.zero_le 1, by rw [statistics]; nofun⟩
    · rw [held]
      exact ⟨fun _ => state, fun _ => rfl⟩
    · rw [if_pos state]
      exact instances
    · rw [resources]
      exact ⟨fun _ => state, fun _ => rfl⟩
    · rw [resources]
      exact ⟨fun _ => state, fun _ => rfl⟩
  | stopped state none instances starts once counted =>
    have elsewhere : c.recorder.state ≠ .recording := by rw [state]; nofun
    have resources : c.recorder.resources = {} := by
      unfold Recorder.resources
      rw [none]
    refine ⟨?_, ?_, ?_, ?_, starts, once, fun t ht => ⟨state, counted t ht⟩⟩
    · rw [none]
      exact ⟨nofun, fun h => absurd h elsewhere⟩
    · rw [if_neg elsewhere]
      exact instances
    · rw [resources]
      exact ⟨nofun, fun h => absurd h elsewhere⟩
    · rw [resources]
      exact ⟨nofun, fun h => absurd h elsewhere⟩

/-- How a recorder answers next. A start succeeds in the idle recorder only, and one that does not succeed leaves the
state as it is; a stop ends a recording with statistics, unless a part of the recorder breaks down, and else says
nothing; and a stopped recorder stays as it is. -/
structure Answers (c : Life Loopback Instance γ) : Prop where
  start (startedAt : Timestamp) {answer : Attempt Bool} {next : Recorder Loopback Instance γ} {s : Surroundings}
    (started : c.recorder.start startedAt c.around = (answer, next, s)) :
    (answer = .ok true ∧ c.recorder.state = .idle ∧ next.state = .recording) ∨
      (answer ≠ .ok true ∧ next.state = c.recorder.state)
  stop (now : Nat) (elapsed : Float) {answer : Attempt (Option Statistics)} {next : Recorder Loopback Instance γ}
    {s : Surroundings} (ended : c.recorder.stop now elapsed c.around = (answer, next, s)) :
    next.state = .stopped ∧
      if c.recorder.state = .recording then (∃ t, answer = .ok (some t)) ∨ ∃ f, answer = Attempt.halt f
      else answer = .ok none
  stopped : c.recorder.state = .stopped → ∀ more, (c.run more).recorder = c.recorder

/-- In every stage the answers so far are as they should be. -/
theorem Stage.answers (h : Stage settings decode memory live c) : Answers c := by
  refine ⟨?_, ?_, run_stopped⟩
  · intro startedAt answer next s started
    by_cases idle : c.recorder.state = .idle
    · rcases Recorder.start_cases idle startedAt c.around with ⟨_, _, _, _, failed, refused⟩ | ⟨_, _, _, _, _, began⟩
      · rw [refused] at started
        cases started
        exact .inr ⟨failed, rfl⟩
      · rw [began] at started
        cases started
        exact .inl ⟨rfl, idle, rfl⟩
    · rw [Recorder.start_busy idle] at started
      cases started
      exact .inr ⟨nofun, rfl⟩
  · intro now elapsed answer next s ended
    by_cases state : c.recorder.state = .recording
    · obtain ⟨x, held⟩ := Option.isSome_iff_exists.mp (h.consistent.session.mpr state)
      obtain ⟨a, _, _, _, stopped, _, _, outcome⟩ := Recorder.stop_cases state held now elapsed c.around
      rw [stopped] at ended
      cases ended
      rw [if_pos state]
      refine ⟨rfl, ?_⟩
      rcases outcome with ⟨f, rfl⟩ | ⟨t, rfl, _⟩
      · exact .inr ⟨f, rfl⟩
      · exact .inl ⟨t, rfl⟩
    · rw [Recorder.stop_elsewhere state] at ended
      cases ended
      rw [if_neg state]
      exact ⟨rfl, rfl⟩

/-- **A recorder records once.** However a loopback backend is set up, and in whatever order a recorder whose pictures
fit in memory is started, given frames, stopped and given up: what it has and what it has said is consistent with its
state, and it answers the next start and the next stop as its state demands. A recording that is stopped does answer
with statistics, unless the clock is so near to its end that there are fewer time stamps left than frames. -/
theorem records_once {settings : CaptureSettings} (fits : settings.geometry.pixels * 3 < wordLimit) (b : Loopback)
    (decode : (g : Geometry) → Bytes → Except DecodeCause (ColourPicture g)) (memory : Memory) (around : Surroundings)
    (uses : List Use) :
    let c := ({ recorder := { settings, backend := b, decode, memory }, around } : Life Loopback Instance γ).run uses
    let frames := uses.filterMap Use.frame?
    Consistent b.live c ∧ Answers c ∧
      ((∀ i ∈ frames, i.clock.now + frames.length < wordLimit) → c.recorder.state = .recording →
        ∀ now elapsed, ∃ t, (c.recorder.stop now elapsed c.around).1 = .ok (some t)) := by
  intro c frames
  have fresh : Stage settings decode memory b.live
      ({ recorder := { settings, backend := b, decode, memory }, around } : Life Loopback Instance γ) :=
    .idle b rfl rfl rfl rfl rfl
  have stage : Stage settings decode memory b.live c := run_induct (fun _ use h => h.step fits use) fresh uses
  refine ⟨stage.consistent, stage.answers, ?_⟩
  intro early state now elapsed
  have room : frames.length < wordLimit := by
    cases h : frames with
    | nil => decide
    | cons i rest =>
      rw [← h]
      exact (Nat.le_add_left _ _).trans_lt (early i (by rw [h]; exact .head _))
  have before : ∀ i ∈ frames, i.clock.now < wordLimit - frames.length := by
    intro i hi
    have := early i hi
    omega
  have prompt : Prompt (wordLimit - frames.length) (0 + frames.length) c :=
    Prompt.run fits fresh nofun (by omega) uses before (by show _ + 0 + frames.length ≤ _; omega)
  exact prompt.stop (by omega) state now elapsed

/-- After a start and a frame, the next stop ends the recording. -/
theorem records_once_single :
    let settings : CaptureSettings := { width := 2, height := 2, outputPath := "o" }
    let frame : Incoming := { raw := Bytes.fill 6 1, clock := { now := 5 } }
    let fresh : Life Loopback Instance Mp4.Movie := { recorder := { settings, backend := {} } }
    let c := fresh.run [.start { seconds := 0, nanos := 0 }, .write frame]
    settings.geometry.pixels * 3 < wordLimit ∧ frame.clock.now + 1 < wordLimit ∧ c.recorder.state = .recording ∧
      Consistent 0 c ∧ Answers c ∧ ∀ now elapsed, ∃ t, (c.recorder.stop now elapsed c.around).1 = .ok (some t) := by
  intro settings frame fresh c
  have fits : settings.geometry.pixels * 3 < wordLimit := by decide
  have early : frame.clock.now + 1 < wordLimit := by decide
  have missing : ({} : FileTree).remove "o" = .error .notFound := by cbv
  have opened : (fresh.step (.start { seconds := 0, nanos := 0 })).recorder.state = .recording := by
    unfold fresh settings step Recorder.start Recorder.openRecording
    dsimp only
    rw [Recorder.clearOutput_of_missing missing]
    decide +kernel
  have state : c.recorder.state = .recording := by
    have idle : fresh.recorder.Sound := Recorder.sound_of_ne (show RecorderState.idle ≠ .recording by decide)
    obtain ⟨sound, _⟩ := step_sound idle (.start { seconds := 0, nanos := 0 })
    obtain ⟨_, kept, _⟩ := sound.write frame (fresh.step (.start { seconds := 0, nanos := 0 })).around
    exact kept.trans opened
  obtain ⟨consistent, answers, ends⟩ := records_once (γ := Mp4.Movie) fits {} Jpeg.decode .ample {}
    [.start { seconds := 0, nanos := 0 }, .write frame]
  refine ⟨fits, early, state, consistent, answers, ends ?_ state⟩
  intro i hi
  rcases List.mem_singleton.mp hi with rfl
  exact early

end Life

end Camcorder
