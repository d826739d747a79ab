import Mathlib
import Camcorder.Encoding.Loopback
import Camcorder.Mp4.Document
import Camcorder.Proofs.Capture.SideBySide

/-!
# Frames that are kept

A recorder may be told to keep the first few frames that cannot be decoded. `Recorder.Kept` says what is then on the
disk: these frames, each in a file of its own, and nothing else but the output. It is true before the first frame, and
every use of the recorder keeps it (`Life.Minded.step`), since the writer stays at its own path whatever it is given
(`Recorder.steady_custody`), and there is room for one more frame (`Recorder.Custody.dumped`) until there are enough.
With `Life.Alongside.meetAll`, by which the directory shows nowhere else, this is `Life.undecodable_kept`.
-/

namespace Camcorder

open FileTree

namespace Recorder

variable {γ : Type} {folder out : String} {frames : List Bytes} {t₀ t u : FileTree} {w : TrackWriter γ}

/-! ## On the disk -/

/-- The tree `t` is the tree `t₀` with the first of these frames kept in the directory: the directories on the way there
are made if there is something to keep, one file for each frame, and nothing else but what stands at the output path. -/
structure Kept (folder out : String) (frames : List Bytes) (t₀ t : FileTree) : Prop where
  paved : frames ≠ [] → ∀ p ∈ route folder, t.node? p = some .directory
  files : ∀ k < maxDumps, ∀ raw, frames[k]? = some raw → ∃ id, t.node? (dumpPlace folder k) = some (.file id raw)
  absent : ∀ k < maxDumps, frames.length ≤ k → t.node? (dumpPlace folder k) = none
  others : ∀ p, p ∉ route folder → p ≠ aim out → (∀ k < min maxDumps frames.length, p ≠ dumpPlace folder k) →
    t.node? p = t₀.node? p

/-- What happens at the output path has nothing to do with the frames that are kept. -/
theorem Kept.mono (h : Kept folder out frames t₀ t) (clear : ∀ k < maxDumps, dumpPlace folder k ∉ route out)
    (same : SameBut (aim out) t u)
    (still : t.node? (aim out) = some .directory → u.node? (aim out) = some .directory) :
    Kept folder out frames t₀ u := by
  have away (k : Nat) (few : k < maxDumps) : u.node? (dumpPlace folder k) = t.node? (dumpPlace folder k) := by
    refine same _ fun clash => clear k few ?_
    rw [clash]
    exact aim_mem_route out
  refine ⟨fun any p passed => ?_, fun k few raw kept => ?_, fun k few none => ?_, fun p off elsewhere free => ?_⟩
  · have directory := h.paved any p passed
    by_cases clash : p = aim out
    · rw [clash] at directory ⊢
      exact still directory
    · rw [same p clash]
      exact directory
  · rw [away k few]
    exact h.files k few raw kept
  · rw [away k few]
    exact h.absent k few none
  · rw [same p elsewhere]
    exact h.others p off elsewhere free

/-- What is kept depends on the nodes of the disk alone. -/
theorem Kept.of_nodes (h : Kept folder out frames t₀ t) (same : u.node? = t.node?) : Kept folder out frames t₀ u := by
  constructor
  · rw [same]
    exact h.paved
  · rw [same]
    exact h.files
  · rw [same]
    exact h.absent
  · rw [same]
    exact h.others

/-- A frame that was kept is read back from its place. -/
theorem Kept.read (h : Kept folder out frames t₀ t) {k : Nat} (few : k < maxDumps) {raw : Bytes}
    (kept : frames[k]? = some raw) : t.read (join folder (dumpName k)) = .ok raw := by
  have any : frames ≠ [] := by
    rintro rfl
    cases kept
  obtain ⟨id, stands⟩ := h.files k few raw kept
  rw [dumpPlace_eq] at stands
  have plain := plain_dumpName k
  exact read_of_resolve
    (resolve_eq_file_iff.mpr ⟨_, locate_join plain (h.paved any), stands, asksForDirectory_join folder plain⟩)

/-- While a recording is under way, the frames are kept, there is room for more of them, and the file that the writer
holds open is at the output path or nowhere. -/
structure Custody (folder out : String) (frames : List Bytes) (t₀ : FileTree) (w : TrackWriter γ) (t : FileTree) : Prop where
  path : w.path = out
  numbered : Numbered t
  aside : Aside folder out t
  way : Open folder t
  kept : Kept folder out frames t₀ t
  track : ∀ o, w.track = some o → o.file < t.nextId ∧ ∀ p c, t.node? p = some (.file o.file c) → p = aim out

/-- Where a file is opened for the output, the directory is as open as it was. -/
theorem way_mono (h : Open folder t) (aside : Aside folder out t) (same : SameBut (aim out) t u)
    (still : t.node? (aim out) = some .directory → u.node? (aim out) = some .directory) : Open folder u := by
  have kind (p : List String) (passed : p ∈ route folder) :
      (t.node? p = none → u.node? p = none) ∧ (t.node? p = some .directory → u.node? p = some .directory) := by
    by_cases clash : p = aim out
    · subst clash
      exact ⟨fun missing => absurd (aim_mem_route out) (aside.directories _ passed missing), still⟩
    · rw [same p clash]
      exact ⟨id, id⟩
  exact ⟨(kind _ (origin_mem_route folder)).2 h.begins,
    fun p passed => (h.free p passed).imp (kind p passed).1 (kind p passed).2⟩

theorem Custody.of_entries (h : Custody folder out frames t₀ w t) (same : u.entries = t.entries)
    (next : u.nextId = t.nextId) : Custody folder out frames t₀ w u := by
  have nodes := node?_of_entries same
  refine ⟨h.path, h.numbered.mono (fun p i c stands => ⟨c, ?_⟩) next.ge, h.aside.of_nodes nodes, h.way.of_nodes nodes,
    h.kept.of_nodes nodes, ?_⟩
  · rw [← nodes]
    exact stands
  · rw [nodes, next]
    exact h.track

/-- A file that is opened at the output path may be any that the writer did not have. -/
theorem Custody.created (h : Custody folder out frames t₀ w t) :
    Custody folder out frames t₀ w (t.create out).2 ∧
      ∀ file, (t.create out).1 = .ok file → file < (t.create out).2.nextId ∧
        ∀ p c, (t.create out).2.node? p = some (.file file c) → p = aim out := by
  rcases create_outcomes t out with ⟨cause, refused⟩ | ⟨id, u, opened, _, o⟩
  · rw [refused]
    exact ⟨h.of_entries rfl rfl, nofun⟩
  · -- No file is opened at a directory.
    have still : t.node? (aim out) = some .directory → u.node? (aim out) = some .directory :=
      fun directory => absurd directory o.plain
    obtain ⟨numbered, less⟩ := o.numbered h.numbered
    have more : t.nextId ≤ u.nextId := by
      rcases o.identity with ⟨_, same⟩ | ⟨_, _, same⟩ <;> omega
    rw [opened]
    refine ⟨⟨h.path, numbered, h.aside.mono o.keeps, way_mono h.way h.aside o.others still,
      h.kept.mono h.aside.files o.others still, ?_⟩, ?_⟩
    · intro track begun
      obtain ⟨below, only⟩ := h.track track begun
      refine ⟨lt_of_lt_of_le below more, fun p c stands => ?_⟩
      by_contra elsewhere
      rw [o.others p elsewhere] at stands
      exact elsewhere (only p c stands)
    · rintro file ⟨⟩
      exact ⟨less, o.alone h.numbered⟩

/-- Whatever the writer is given, the frames are kept. -/
theorem steady_custody [Container γ] : TrackWriter.Steady (Custody (γ := γ) folder out frames t₀) where
  register := by
    intro w s h p
    obtain ⟨created, fresh⟩ := h.created
    have path := h.path
    subst path
    rcases w.register_effect p s with ⟨writer, same | disk⟩ | ⟨file, container, opened, writer, disk⟩
    · rw [writer, same]
      exact h
    · rw [writer, disk]
      exact created
    · -- The track is begun in the file that was opened.
      rw [writer, disk]
      refine ⟨rfl, created.numbered, created.aside, created.way, created.kept, ?_⟩
      rintro o ⟨⟩
      exact fresh file opened
  accept := by
    intro w s h sample
    let desk : WritingDesk γ := { writer := w, around := s }
    obtain ⟨disk, file⟩ := desk.give_sample sample
    obtain ⟨path, _⟩ := desk.give_place (.sample sample)
    have disk : (w.accept sample s).2.2.disk = s.disk := disk
    have file : (w.accept sample s).2.1.track.map (·.file) = w.track.map (·.file) := file
    rw [disk]
    refine ⟨path.trans h.path, h.numbered, h.aside, h.way, h.kept, fun o begun => ?_⟩
    rw [begun] at file
    obtain ⟨o', begun', same⟩ := Option.map_eq_some_iff.mp file.symm
    dsimp only at same
    rw [← same]
    exact h.track o' begun'

/-- The tree `u` is the tree `t` with the directory made, and with one frame kept there. -/
structure Filed (folder : String) (k : Nat) (raw : Bytes) (t u : FileTree) : Prop where
  paved : ∀ p ∈ route folder, u.node? p = some .directory
  file : u.node? (dumpPlace folder k) = some (.file t.nextId raw)
  others : ∀ p, p ∉ route folder → p ≠ dumpPlace folder k → u.node? p = t.node? p
  numbered : Numbered u
  more : t.nextId < u.nextId

/-- A frame is kept where the directory is open and there is no file yet, if the device does not refuse it. -/
theorem filed_of_open (numbered : Numbered t) (way : Open folder t) (willing : t.refusals.head?.join = none) {k : Nat}
    (few : k < maxDumps) (apart : dumpPlace folder k ∉ route folder) (missing : t.node? (dumpPlace folder k) = none)
    (raw : Bytes) : Filed folder k raw t (dumped (some folder) k raw t) := by
  -- The directory is made first, and then the name is free in it.
  obtain ⟨u, made⟩ := way.makeFolders_ok
  obtain ⟨widened, paved⟩ := widened_of_makeFolders made
  have grown := grown_of_makeFolders made
  have paved := paved way.begins
  have plain := plain_dumpName k
  have found : u.locate (join folder (dumpName k)) = .ok (aim (join folder (dumpName k))) := by
    rw [aim_join folder plain]
    exact locate_join plain paved
  have willing : u.refusals.head?.join = none := by
    rw [widened.refusals]
    exact willing
  have numbered : Numbered u :=
    numbered.mono (fun p i c stands => ⟨c, (grown.files p i c).mp stands⟩) widened.nextId.ge
  obtain ⟨v, written, stands, others, numbered', more⟩ := write_of_missing numbered willing found
    (asksForDirectory_join folder plain) ((widened.others _ apart).trans missing) raw
  have came : dumped (some folder) k raw t = v := by
    unfold dumped
    dsimp only
    rw [if_neg (by omega), made]
    dsimp only
    rw [written]
  rw [widened.nextId] at stands more
  rw [came]
  refine ⟨fun p passed => ?_, stands, fun p off elsewhere => ?_, numbered', more⟩
  · have elsewhere : p ≠ dumpPlace folder k := fun clash => apart (clash ▸ passed)
    rw [others p elsewhere]
    exact paved p passed
  · rw [others p elsewhere, widened.others p off]

/-- A frame that comes when there are enough is not kept. -/
theorem Kept.full (h : Kept folder out frames t₀ t) (enough : maxDumps ≤ frames.length) (raw : Bytes) :
    Kept folder out (frames ++ [raw]) t₀ t := by
  have any : frames ≠ [] := by
    rintro rfl
    exact absurd enough (by decide)
  refine ⟨fun _ => h.paved any, fun k few r there => ?_, fun k few none => ?_, fun p off elsewhere free => ?_⟩
  · rw [List.getElem?_append_left (by omega)] at there
    exact h.files k few r there
  · rw [List.length_append] at none
    omega
  · refine h.others p off elsewhere fun k less => free k ?_
    rw [List.length_append]
    omega

/-- One more frame is kept. -/
theorem Kept.more (h : Kept folder out frames t₀ t) (few : frames.length < maxDumps)
    (apart : ∀ k < maxDumps, dumpPlace folder k ∉ route folder) {raw : Bytes}
    (filed : Filed folder frames.length raw t u) : Kept folder out (frames ++ [raw]) t₀ u := by
  -- Frames that were kept before have other names.
  have away (k : Nat) (less : k < maxDumps) (other : k ≠ frames.length) :
      u.node? (dumpPlace folder k) = t.node? (dumpPlace folder k) :=
    filed.others _ (apart k less) fun clash => other (dumpPlace_injective folder clash)
  refine ⟨fun _ => filed.paved, fun k less r there => ?_, fun k less none => ?_, fun p off elsewhere free => ?_⟩
  · by_cases last : k = frames.length
    · subst last
      rw [List.getElem?_concat_length] at there
      cases there
      exact ⟨_, filed.file⟩
    · have before : k < frames.length := by
        have bound := (List.getElem?_eq_some_iff.mp there).1
        rw [List.length_append, List.length_singleton] at bound
        omega
      rw [List.getElem?_append_left before] at there
      rw [away k less last]
      exact h.files k less r there
  · rw [List.length_append, List.length_singleton] at none
    rw [away k less (by omega)]
    exact h.absent k less (by omega)
  · rw [List.length_append, List.length_singleton] at free
    rw [filed.others p off (free frames.length (by omega))]
    exact h.others p off elsewhere fun k before => free k (by omega)

/-- A frame that cannot be decoded is kept if there is room for one more. -/
theorem Custody.dumped (h : Custody folder out frames t₀ w t) (apart : ∀ k < maxDumps, dumpPlace folder k ∉ route folder)
    (willing : t.refusals.head?.join = none) (raw : Bytes) :
    Custody folder out (frames ++ [raw]) t₀ w (dumped (some folder) (min maxDumps frames.length) raw t) := by
  by_cases enough : maxDumps ≤ frames.length
  · have same : Recorder.dumped (some folder) (min maxDumps frames.length) raw t = t := by
      unfold Recorder.dumped
      exact if_pos (le_min le_rfl enough)
    rw [same]
    exact ⟨h.path, h.numbered, h.aside, h.way, h.kept.full enough raw, h.track⟩
  · have few : frames.length < maxDumps := by omega
    have next : min maxDumps frames.length = frames.length := by omega
    have aside := (h.aside.dumped frames.length raw).2
    have filed := filed_of_open h.numbered h.way willing few (apart _ few) (h.kept.absent _ few le_rfl) raw
    rw [next]
    refine ⟨h.path, filed.numbered, aside, ⟨filed.paved _ (origin_mem_route folder), fun p passed =>
      .inr (filed.paved p passed)⟩, h.kept.more few apart filed, fun o begun => ?_⟩
    -- The new file is not the one that the writer holds open.
    obtain ⟨below, only⟩ := h.track o begun
    refine ⟨below.trans filed.more, fun p c stands => only p c ?_⟩
    rw [← filed.others p]
    · exact stands
    · intro passed
      rw [filed.paved p passed] at stands
      cases stands
    · rintro rfl
      rw [filed.file, Option.some.injEq, Node.file.injEq] at stands
      omega

/-- What the writer leaves behind is at the output path. -/
theorem Custody.finish [Container γ] {s : Surroundings} (h : Custody folder out frames t₀ w s.disk) :
    Kept folder out frames t₀ (w.finish s).2.disk := by
  have path := h.path
  subst path
  have removed : Kept folder w.path frames t₀ (w.removeFile s).disk := by
    unfold TrackWriter.removeFile
    rcases gone : s.disk.remove w.path with cause | disk
    · cases cause <;> exact h.kept
    · obtain ⟨⟨id, content, stood⟩, _, others, _⟩ := remove_outcome gone
      refine h.kept.mono h.aside.files others fun directory => ?_
      rw [stood] at directory
      cases directory
  unfold TrackWriter.finish
  cases track : w.track with
  | none => exact h.kept
  | some o =>
    dsimp only
    by_cases nothing : w.written = 0
    · rw [if_pos nothing]
      exact removed
    · rw [if_neg nothing]
      cases Container.finish o.container with
      | error reason => exact removed
      | ok finished =>
        refine h.kept.mono h.aside.files (fun p elsewhere => ?_) fun directory => ?_
        · -- The file that is filled is nowhere else.
          dsimp only
          rw [node?_store]
          rcases stands : s.disk.node? p with _ | _ | ⟨id, content⟩
          · rfl
          · rfl
          · have other : (id == o.file) = false := by
              rw [beq_eq_false_iff_ne]
              rintro rfl
              exact elsewhere ((h.track o track).2 p content stands)
            simp [Node.stored, other]
        · dsimp only
          rw [node?_store, directory]
          rfl

theorem LeftBy.kept [Container γ] (left : LeftBy (Custody (γ := γ) folder out frames t₀) t) :
    Kept folder out frames t₀ t := by
  obtain ⟨w, u, held, rfl | rfl⟩ := left
  · exact held.kept
  · exact held.finish

/-- The directory is there or can be made, and then there is no file for a frame in it. -/
def Vacant (folder : String) (t : FileTree) : Prop :=
  ∃ u, t.makeFolders folder = .ok u ∧ u.node? (aim folder) = some .directory ∧
    ∀ k < maxDumps, u.node? (dumpPlace folder k) = none

/-- The way to a vacant folder is open. -/
theorem Vacant.way (h : Vacant folder t) : Open folder t := by
  obtain ⟨u, made, last, _⟩ := h
  exact open_of_makeFolders made last

theorem Vacant.apart (h : Vacant folder t) : ∀ k < maxDumps, dumpPlace folder k ∉ route folder := by
  obtain ⟨u, made, last, free⟩ := h
  obtain ⟨_, paved⟩ := widened_of_makeFolders made
  intro k few passed
  have directory := paved (begins_of_makeFolders made last) _ passed
  rw [free k few] at directory
  cases directory

theorem Vacant.absent (h : Vacant folder t) : ∀ k < maxDumps, t.node? (dumpPlace folder k) = none := by
  obtain ⟨u, made, _, free⟩ := h
  obtain ⟨widened, _⟩ := widened_of_makeFolders made
  intro k few
  by_contra there
  have stays := widened.kept _ there
  rw [free k few] at stays
  exact there stays.symm

/-! ## In the life of a recorder -/

variable {β σ : Type} {r : Recorder β σ γ} {s : Surroundings}

/-- How far a recorder has come that keeps frames: the disk is as it was but for these frames, and the way is clear for
those to come. -/
inductive Keeping (folder out : String) (frames : List Bytes) (t₀ : FileTree) (r : Recorder β σ γ) (s : Surroundings) :
    Prop where
  | idle (state : r.state = .idle) (kept : Kept folder out frames t₀ s.disk) (numbered : Numbered s.disk)
      (aside : Aside folder out (cleared r.settings s.disk)) (way : Open folder (cleared r.settings s.disk))
  | underway (state : r.state = .recording) {x : Recording σ γ} (held : r.recording = some x)
      (custody : Custody folder out frames t₀ x.writer s.disk)
  | stopped (state : r.state = .stopped) (kept : Kept folder out frames t₀ s.disk)

theorem Keeping.kept (h : Keeping folder out frames t₀ r s) : Kept folder out frames t₀ s.disk := by
  cases h with
  | idle _ kept => exact kept
  | underway _ _ custody => exact custody.kept
  | stopped _ kept => exact kept

/-- A notice in the journal does not matter to what is kept. -/
theorem Keeping.note (h : Keeping folder out frames t₀ r s) (n : Notice) : Keeping folder out frames t₀ r (s.note n) := by
  cases h with
  | idle state kept numbered aside way => exact .idle state kept numbered aside way
  | underway state held custody => exact .underway state held custody
  | stopped state kept => exact .stopped state kept

/-- What the disk is going to refuse does not matter to what is kept. -/
theorem Keeping.facing (h : Keeping folder out frames t₀ r s) (refusals : List (Option FileError)) :
    Keeping folder out frames t₀ r { s with disk := { s.disk with refusals } } := by
  have nodes := node?_refusals s.disk refusals
  cases h with
  | idle state kept numbered aside way =>
    refine .idle state (kept.of_nodes nodes) (numbered.mono (fun p i c stands => ⟨c, ?_⟩) le_rfl)
      (aside.of_nodes (node?_cleared rfl)) (way.of_nodes (node?_cleared rfl))
    rw [← nodes]
    exact stands
  | underway state held custody => exact .underway state held (custody.of_entries rfl rfl)
  | stopped state kept => exact .stopped state (kept.of_nodes nodes)

/-- A recording begins with the way cleared, which has nothing to do with the frames. -/
theorem Keeping.start [Coder σ] [Backend β σ] (h : Keeping folder out frames t₀ r s) (path : r.settings.outputPath = out)
    (clear : ∀ k < maxDumps, dumpPlace folder k ∉ route out) (startedAt : Timestamp) :
    ∃ a r₁ s₁, r.start startedAt s = (a, r₁, s₁) ∧ r₁.counters = r.counters ∧ r₁.dumps = r.dumps ∧
      Keeping folder out frames t₀ r₁ s₁ := by
  by_cases idle : r.state = .idle
  · cases h with
    | underway state => rw [idle] at state; cases state
    | stopped state => rw [idle] at state; cases state
    | idle state kept numbered aside way =>
      have disk := r.openRecording_disk startedAt s
      have others := sameBut_cleared r.settings s.disk
      have numbered := numbered_cleared (c := r.settings) numbered
      rw [path] at others
      have kept : Kept folder out frames t₀ (cleared r.settings s.disk) := by
        refine kept.mono clear others fun directory => ?_
        -- A directory is not removed.
        rcases cleared_outcomes r.settings s.disk with removed | ⟨_, same⟩
        · obtain ⟨⟨id, content, stood⟩, _⟩ := remove_outcome removed
          rw [path, directory] at stood
          cases stood
        · rw [same]
          exact directory
      unfold Recorder.start
      rw [if_pos idle]
      rcases opened : r.openRecording startedAt s with ⟨failure | x, backend, s₁⟩
      · rw [opened] at disk
        dsimp only at disk
        have still : Keeping folder out frames t₀ { r with backend } s₁ := by
          rw [← disk] at kept numbered
          refine .idle state kept numbered ?_ ?_
          · show Aside folder out (cleared r.settings s₁.disk)
            rw [disk, cleared_cleared]
            exact aside
          · show Open folder (cleared r.settings s₁.disk)
            rw [disk, cleared_cleared]
            exact way
        cases failure with
        | error e => exact ⟨_, _, _, rfl, rfl, rfl, still.note (.startFailed e)⟩
        | fault f => exact ⟨_, _, _, rfl, rfl, rfl, still⟩
      · obtain ⟨_, _, _, _, _, _, _, _, rfl⟩ := openRecording_ok opened
        rw [opened] at disk
        dsimp only at disk
        rw [← disk] at kept numbered aside way
        exact ⟨_, _, _, rfl, rfl, rfl, .underway rfl rfl ⟨path, numbered, aside, way, kept, nofun⟩⟩
  · rw [start_busy idle]
    exact ⟨_, _, _, rfl, rfl, rfl, h.note _⟩

section Frames

variable [Coder σ] [Container γ]

/-- A frame that cannot be decoded is one more to keep, and all others are no matter. -/
theorem Keeping.write (h : Keeping folder out frames t₀ r s) (sound : r.Sound)
    (dumping : r.settings.dumpFolder = some folder) (dumps : r.dumps = min maxDumps frames.length)
    (apart : ∀ k < maxDumps, dumpPlace folder k ∉ route folder) (i : Incoming) :
    (∃ a fate r₁ s₁, r.write i.raw i.hint i.clock s = (a, r₁, s₁) ∧ fate ≠ some .undecodable ∧
      r₁.counters.frames = (r.counters.settle fate).frames ∧ r₁.dumps = r.dumps ∧ Keeping folder out frames t₀ r₁ s₁) ∨
    ∃ s₁, r.write i.raw i.hint i.clock s = (.ok (), r.besides .undecodable (countDump r.dumps), s₁) ∧
      (s.disk.refusals.head?.join = none →
        Keeping folder out (frames ++ [i.raw]) t₀ (r.besides .undecodable (countDump r.dumps)) s₁) := by
  by_cases underway : r.state = .recording
  · cases h with
    | idle state => rw [underway] at state; cases state
    | stopped state => rw [underway] at state; cases state
    | @underway state x held custody =>
      obtain ⟨_, held', convertible⟩ := sound state
      cases held.symm.trans held'
      let desk : WritingDesk γ := { writer := x.writer, around := s }
      have b : WritingDesk.Beside out (Custody folder out frames t₀) desk desk := .refl custody.path custody
      obtain ⟨⟨a, counters, fate, x₁, _, s₁, _, written, _, settled, early, b₁⟩ | ⟨s₁, _, written, _, disk, _⟩, _⟩ :=
        write_beside steady_custody state held convertible b i
      · refine .inl ⟨a, some fate, _, s₁, written, ?_, settled, rfl, .underway state rfl b₁.held⟩
        exact fun same => early (Option.some.inj same)
      · refine .inr ⟨s₁, written, fun willing => .underway state held ?_⟩
        rw [disk, dumping, dumps]
        exact custody.dumped apart willing i.raw
  · rw [write_elsewhere underway]
    exact .inl ⟨_, none, _, _, rfl, nofun, rfl, rfl, h.note _⟩

variable [Backend β σ]

/-- A stop counts no frame and leaves those that were kept. -/
theorem Keeping.stop (h : Keeping folder out frames t₀ r s) (now : Nat) (elapsed : Float) :
    ∃ a r₁ s₁, r.stop now elapsed s = (a, r₁, s₁) ∧ r₁.counters.frames = r.counters.frames ∧ r₁.dumps = r.dumps ∧
      Keeping folder out frames t₀ r₁ s₁ := by
  by_cases underway : r.state = .recording
  · cases h with
    | idle state => rw [underway] at state; cases state
    | stopped state => rw [underway] at state; cases state
    | @underway state x held custody =>
      let desk : WritingDesk γ := { writer := x.writer, around := s }
      have b : WritingDesk.Beside out (Custody folder out frames t₀) desk desk := .refl custody.path custody
      obtain ⟨⟨a, backend, counters, s₁, _, stopped, _, same, left⟩, _⟩ :=
        stop_beside steady_custody state held b now elapsed
      exact ⟨a, _, s₁, stopped, same, rfl, .stopped rfl left.kept⟩
  · rw [stop_elsewhere underway]
    exact ⟨_, _, _, rfl, rfl, rfl, .stopped rfl h.kept⟩

/-- Abandoning the recording counts no frame and leaves those that were kept. -/
theorem Keeping.discard (h : Keeping folder out frames t₀ r s) (now : Nat) :
    (r.discard now s).1.counters.frames = r.counters.frames ∧ (r.discard now s).1.dumps = r.dumps ∧
      Keeping folder out frames t₀ (r.discard now s).1 (r.discard now s).2 := by
  by_cases underway : r.state = .recording
  · obtain ⟨a, r₁, s₁, stopped, same, dumps, keeping⟩ := (h.note .abandoned).stop now 0.0
    rw [discard_recording underway, stopped]
    exact ⟨same, dumps, keeping⟩
  · rw [discard_elsewhere underway]
    exact ⟨rfl, rfl, h⟩

end Frames

end Recorder

theorem Counters.droppedUndecodable_of_settled {k k' : Counters} {fate : Option Fate} (early : fate ≠ some .undecodable)
    (settled : k'.frames = (k.settle fate).frames) : k'.droppedUndecodable = k.droppedUndecodable := by
  have same := congrArg Counters.droppedUndecodable settled
  rcases fate with _ | fate
  · exact same
  · cases fate with
    | undecodable => exact absurd rfl early
    | _ => exact same

/-- The frame that came, if the reply is that it cannot be decoded. -/
def Use.undecodable? (use : Use) (reply : Reply) : Option Bytes :=
  match use, reply with
  | .write i, .written _ (some .undecodable) => some i.raw
  | _, _ => none

theorem Use.undecodable?_of_ne {i : Incoming} {a : Attempt Unit} {fate : Option Fate}
    (other : fate ≠ some .undecodable) : (Use.write i).undecodable? (.written a fate) = none := by
  rcases fate with _ | fate
  · rfl
  · cases fate with
    | undecodable => exact absurd rfl other
    | _ => rfl

/-- The frames that could not be decoded, in the order in which they came. -/
def undecodable (l : List (Occasion × Reply)) : List Bytes := l.filterMap fun e => e.1.use.undecodable? e.2

/-- On each occasion on which a frame could not be decoded, the device let a file be made. -/
def Willing (l : List (Occasion × Reply)) : Prop :=
  ∀ e ∈ l, (e.1.use.undecodable? e.2).isSome → e.1.refusals.head?.join = none

namespace Life

open Recorder

variable {β σ γ : Type} [Coder σ] [Backend β σ] [Container γ] {c : Life β σ γ} {folder out : String}
  {frames : List Bytes} {t₀ : FileTree}

/-- What a frame comes to shows in the reply. -/
theorem written_of_replies {i : Incoming} {reply : Reply} {a : Attempt Unit} {r₁ : Recorder β σ γ} {s₁ : Surroundings}
    {fate : Option Fate} (said : (c.step (.write i)).replies = c.replies ++ [reply])
    (written : c.recorder.write i.raw i.hint i.clock c.around = (a, r₁, s₁))
    (settled : r₁.counters.frames = (c.recorder.counters.settle fate).frames) :
    (c.step (.write i)).recorder = r₁ ∧ (c.step (.write i)).around = s₁ ∧ reply = .written a fate := by
  unfold Life.step at said ⊢
  dsimp only at said ⊢
  rw [written] at said ⊢
  dsimp only at said ⊢
  rw [Counters.fate?_eq settled] at said
  exact ⟨rfl, rfl, (List.singleton_inj.mp (List.append_cancel_left said)).symm⟩

/-- Every use is answered once. -/
theorem step_replies (c : Life β σ γ) (use : Use) : ∃ reply, (c.step use).replies = c.replies ++ [reply] := by
  cases use with
  | start startedAt => exact ⟨_, rfl⟩
  | write i => exact ⟨_, rfl⟩
  | stop now elapsed => exact ⟨_, rfl⟩
  | discard now => exact ⟨_, rfl⟩

theorem meetAll_replies (c : Life β σ γ) (occasions : List Occasion) :
    ∃ later, (c.meetAll occasions).replies = c.replies ++ later := by
  induction occasions generalizing c with
  | nil => exact ⟨[], (List.append_nil _).symm⟩
  | cons o occasions ih =>
    obtain ⟨reply, said⟩ := (c.facing o.refusals).step_replies o.use
    obtain ⟨later, replies⟩ := ih (c.meet o)
    refine ⟨reply :: later, ?_⟩
    show ((c.meet o).meetAll occasions).replies = c.replies ++ reply :: later
    rw [replies, List.append_cons]
    exact congrArg (· ++ later) said

omit [Coder σ] [Backend β σ] [Container γ] in
/-- The recorder has kept the first of these frames, which it counted. -/
structure Minded (folder out : String) (frames : List Bytes) (t₀ : FileTree) (c : Life β σ γ) : Prop where
  sound : c.recorder.Sound
  dumping : c.recorder.settings.dumpFolder = some folder
  path : c.recorder.settings.outputPath = out
  counted : c.recorder.counters.droppedUndecodable = frames.length
  dumps : c.recorder.dumps = min maxDumps frames.length
  keeping : Keeping folder out frames t₀ c.recorder c.around

/-- One use keeps what was minded, and adds the frame that it could not decode, if there is one and the disk takes it.
-/
theorem Minded.step (h : Minded folder out frames t₀ c) (clear : ∀ k < maxDumps, dumpPlace folder k ∉ route out)
    (apart : ∀ k < maxDumps, dumpPlace folder k ∉ route folder) {use : Use} {reply : Reply}
    (said : (c.step use).replies = c.replies ++ [reply])
    (willing : (use.undecodable? reply).isSome → c.around.disk.refusals.head?.join = none) :
    Minded folder out (frames ++ (use.undecodable? reply).toList) t₀ (c.step use) := by
  obtain ⟨sound, dumping, path⟩ := step_settings h.sound h.dumping h.path use
  -- Frames that are settled otherwise are not counted among those that cannot be decoded.
  have counted {k : Counters} (same : k.frames = c.recorder.counters.frames) : k.droppedUndecodable = frames.length :=
    (congrArg Counters.droppedUndecodable same).trans h.counted
  suffices rest : (c.step use).recorder.counters.droppedUndecodable = (frames ++ (use.undecodable? reply).toList).length ∧
      (c.step use).recorder.dumps = min maxDumps (frames ++ (use.undecodable? reply).toList).length ∧
      Keeping folder out (frames ++ (use.undecodable? reply).toList) t₀ (c.step use).recorder (c.step use).around from
    ⟨sound, dumping, path, rest.1, rest.2.1, rest.2.2⟩
  cases use with
  | start startedAt =>
    have nothing : (Use.start startedAt).undecodable? reply = none := rfl
    obtain ⟨a, r₁, s₁, started, counters, dumps, keeping⟩ := h.keeping.start h.path clear startedAt
    unfold Life.step
    dsimp only
    rw [started, nothing, Option.toList_none, List.append_nil]
    exact ⟨counted (congrArg Counters.frames counters), dumps.trans h.dumps, keeping⟩
  | write i =>
    rcases h.keeping.write h.sound h.dumping h.dumps apart i with
      ⟨a, fate, r₁, s₁, written, early, settled, dumps, keeping⟩ | ⟨s₁, written, keeping⟩
    · obtain ⟨recorder, around, rfl⟩ := written_of_replies said written settled
      rw [recorder, around, Use.undecodable?_of_ne early, Option.toList_none, List.append_nil]
      exact ⟨(Counters.droppedUndecodable_of_settled early settled).trans h.counted, dumps.trans h.dumps, keeping⟩
    · -- One more frame is counted, and it is kept if there are too few.
      have settled : (c.recorder.besides .undecodable (countDump c.recorder.dumps)).counters.frames =
          (c.recorder.counters.settle (some .undecodable)).frames := rfl
      obtain ⟨recorder, around, rfl⟩ := written_of_replies said written settled
      rw [recorder, around]
      refine ⟨?_, ?_, keeping (willing rfl)⟩
      · rw [List.length_append]
        exact congrArg (· + 1) h.counted
      · rw [List.length_append]
        exact (congrArg countDump h.dumps).trans (countDump_min frames.length)
  | stop now elapsed =>
    have nothing : (Use.stop now elapsed).undecodable? reply = none := rfl
    obtain ⟨a, r₁, s₁, stopped, same, dumps, keeping⟩ := h.keeping.stop now elapsed
    unfold Life.step
    dsimp only
    rw [stopped, nothing, Option.toList_none, List.append_nil]
    exact ⟨counted same, dumps.trans h.dumps, keeping⟩
  | discard now =>
    have nothing : (Use.discard now).undecodable? reply = none := rfl
    obtain ⟨same, dumps, keeping⟩ := h.keeping.discard now
    unfold Life.step
    dsimp only
    rw [nothing, Option.toList_none, List.append_nil]
    exact ⟨counted same, dumps.trans h.dumps, keeping⟩

/-- Any number of occasions keep what was minded, and add the frames that could not be decoded, if the disk takes what
is dumped. -/
theorem Minded.meetAll (h : Minded folder out frames t₀ c) (clear : ∀ k < maxDumps, dumpPlace folder k ∉ route out)
    (apart : ∀ k < maxDumps, dumpPlace folder k ∉ route folder) (occasions : List Occasion) {later : List Reply}
    (said : (c.meetAll occasions).replies = c.replies ++ later) (willing : Willing (occasions.zip later)) :
    Minded folder out (frames ++ undecodable (occasions.zip later)) t₀ (c.meetAll occasions) := by
  induction occasions generalizing c frames later with
  | nil =>
    have nothing : frames ++ undecodable (([] : List Occasion).zip later) = frames := List.append_nil frames
    rw [nothing]
    exact h
  | cons o occasions ih =>
    have faced : Minded folder out frames t₀ (c.facing o.refusals) :=
      ⟨h.sound, h.dumping, h.path, h.counted, h.dumps, h.keeping.facing o.refusals⟩
    obtain ⟨reply, first⟩ := (c.facing o.refusals).step_replies o.use
    obtain ⟨rest, replies⟩ := (c.meet o).meetAll_replies occasions
    -- What was said is what was said first, and what was said later.
    have parts : later = reply :: rest := by
      have whole : c.replies ++ later = c.replies ++ reply :: rest := by
        rw [← said, List.append_cons]
        exact replies.trans (congrArg (· ++ rest) first)
      exact List.append_cancel_left whole
    subst parts
    have met := faced.step clear apart first (willing (o, reply) List.mem_cons_self)
    have last := ih met replies fun e there => willing e (List.mem_cons_of_mem _ there)
    have all : frames ++ undecodable ((o :: occasions).zip (reply :: rest)) =
        frames ++ (o.use.undecodable? reply).toList ++ undecodable (occasions.zip rest) := by
      rw [List.append_assoc]
      unfold undecodable
      rw [List.zip_cons_cons, List.filterMap_cons]
      cases o.use.undecodable? reply <;> rfl
    rw [all]
    exact last

/-- **Undecodable frames are kept, and nothing else comes of it.** Let a recorder be used in any way, and let the device
refuse to create whatever it likes. Let it be told to keep frames that cannot be decoded in a directory, such that
neither a directory to be made for this nor a file for a frame is on the way to the output path. Then all goes as it
would have gone without the directory: the replies, with the fate of every frame, the counters, and what the encoder and
the writer were given.

If moreover the directory is there or can be made, has no file for a frame in it, and the device lets a file be made
whenever a frame could not be decoded, then the first such frames are in the directory in the end, each in a file of its
own, in the order in which they came. As many are there as were counted, but no more than `maxDumps`; nothing else has
changed on the disk but the directories on the way there and what is at the output path. (The disk to begin with is any
on which every file has a number of its own, by which a file that is held open is told from others.) -/
theorem undecodable_kept {settings : CaptureSettings} {folder : String} {backend : β}
    {decode : (g : Geometry) → Bytes → Except DecodeCause (ColourPicture g)} {memory : Memory} {around : Surroundings}
    (aside : Aside folder settings.outputPath (cleared settings around.disk)) (occasions : List Occasion) :
    let dumping (d : Option String) : Life β σ γ :=
      { recorder := { settings := { settings with dumpFolder := d }, backend, decode, memory }, around }
    let kept := (dumping (some folder)).meetAll occasions
    let bare := (dumping none).meetAll occasions
    let frames := undecodable (occasions.zip kept.replies)
    (bare.replies = kept.replies ∧ bare.recorder.counters = kept.recorder.counters ∧ bare.traffic = kept.traffic) ∧
    (Numbered around.disk → Vacant folder (cleared settings around.disk) → Willing (occasions.zip kept.replies) →
      kept.recorder.counters.droppedUndecodable = frames.length ∧
      (∀ k < maxDumps, ∀ raw, frames[k]? = some raw →
        kept.around.disk.read (join folder (dumpName k)) = .ok raw) ∧
      Kept folder settings.outputPath frames around.disk kept.around.disk) := by
  intro dumping kept bare frames
  have sound (d : Option String) : (dumping d).recorder.Sound := sound_of_ne nofun
  constructor
  · -- The recorder without a directory begins at its side.
    have begun : Alongside folder settings.outputPath (dumping (some folder)) (dumping none) :=
      ⟨sound _, rfl, rfl, .idle rfl rfl rfl aside, rfl, rfl⟩
    obtain ⟨_, _, _, abreast, replies, traffic⟩ := begun.meetAll occasions
    exact ⟨replies, abreast.counters, traffic⟩
  · intro numbered vacant willing
    have untouched : Kept folder settings.outputPath [] around.disk around.disk := by
      refine ⟨fun any => absurd rfl any, fun k few raw there => ?_, fun k few _ => ?_, fun _ _ _ _ => rfl⟩
      · cases there
      · -- What is not there with the way cleared was not there before.
        have elsewhere : dumpPlace folder k ≠ aim settings.outputPath :=
          fun clash => aside.files k few (clash ▸ aim_mem_route settings.outputPath)
        rw [← sameBut_cleared settings around.disk _ elsewhere]
        exact vacant.absent k few
    -- Nothing is kept yet, and there is room for everything.
    have begun : Minded folder settings.outputPath [] around.disk (dumping (some folder)) :=
      ⟨sound _, rfl, rfl, rfl, rfl, .idle rfl untouched numbered aside vacant.way⟩
    have said : kept.replies = (dumping (some folder)).replies ++ kept.replies := (List.nil_append _).symm
    have minded := begun.meetAll aside.files vacant.apart occasions said willing
    rw [List.nil_append] at minded
    have held := minded.keeping.kept
    exact ⟨minded.counted, fun k few raw there => held.read few there, held⟩

/-- Two frames that cannot be decoded, and a good one between them. -/
theorem undecodable_kept_pair :
    let settings : CaptureSettings := { width := 2, height := 2, outputPath := "o" }
    let dumping (d : Option String) : Life Loopback Loopback.Instance Mp4.Movie :=
      { recorder := { settings := { settings with dumpFolder := d }, backend := {} } }
    let occasions : List Occasion := [{ use := .start { seconds := 0, nanos := 0 } },
      { use := .write { raw := #[0xFF, 0xD8] } }, { use := .write { raw := Bytes.fill 6 1, clock := { now := 5 } } },
      { use := .write { raw := #[0xFF, 0xD8, 7] } }, { use := .stop 9 0.0 }]
    let kept := (dumping (some "d")).meetAll occasions
    let bare := (dumping none).meetAll occasions
    Aside "d" "o" (cleared settings {}) ∧ Numbered {} ∧ Vacant "d" (cleared settings {}) ∧
      Willing (occasions.zip kept.replies) ∧ bare.recorder.counters = kept.recorder.counters ∧
      kept.recorder.counters.droppedUndecodable = 2 ∧
      kept.around.disk.read (join "d" (dumpName 0)) = .ok #[0xFF, 0xD8] ∧
      kept.around.disk.read (join "d" (dumpName 1)) = .ok #[0xFF, 0xD8, 7] := by
  intro settings dumping occasions kept bare
  have aside : Aside "d" "o" (cleared settings {}) := ⟨by decide +kernel, by decide +kernel⟩
  have missing : ({} : FileTree).remove "o" = .error .notFound := by cbv
  have untouched : cleared settings {} = {} := by
    unfold cleared
    rw [clearOutput_of_missing missing]
    rfl
  have made : ({} : FileTree).makeFolders "d" = .ok { entries := [(["d"], .directory)] } := by cbv
  have vacant : Vacant "d" (cleared settings {}) := by
    rw [untouched]
    exact ⟨_, made, by decide +kernel, by decide +kernel⟩
  have calm : ∀ o ∈ occasions, o.refusals = [] := by
    simp [occasions]
  have willing : Willing (occasions.zip kept.replies) := by
    intro e there _
    rw [calm e.1 (List.of_mem_zip there).1]
    rfl
  have frames : undecodable (occasions.zip kept.replies) = [#[0xFF, 0xD8], #[0xFF, 0xD8, 7]] := by
    decide +kernel
  obtain ⟨⟨_, counters, _⟩, held⟩ :=
    @undecodable_kept Loopback Loopback.Instance Mp4.Movie _ _ _ settings "d" {} Jpeg.decode .ample {} aside occasions
  obtain ⟨counted, stored, _⟩ := held numbered_empty vacant willing
  refine ⟨aside, numbered_empty, vacant, willing, by with_reducible exact counters, ?_, ?_, ?_⟩
  · rw [counted, frames]
    rfl
  · with_reducible refine stored 0 (by decide) _ ?_
    rw [frames]
    rfl
  · with_reducible refine stored 1 (by decide) _ ?_
    rw [frames]
    rfl

/-- The directory must not make way for the output. With `rec/dumps` for such frames, `rec` is made for the first of
them, and then `rec/out.mp4` can be created. Without it there is no `rec`, and a picture is lost. -/
theorem makes_way_for_output :
    let settings : CaptureSettings := { width := 2, height := 2, outputPath := "rec/out.mp4" }
    let dumping (d : Option String) : Life Loopback Loopback.Instance Mp4.Movie :=
      { recorder := { settings := { settings with dumpFolder := d }, backend := {} } }
    let occasions : List Occasion := [{ use := .start { seconds := 0, nanos := 0 } },
      { use := .write { raw := #[0xFF, 0xD8] } }, { use := .write { raw := Bytes.fill 6 1, clock := { now := 5 } } }]
    Vacant "rec/dumps" (cleared settings {}) ∧ ¬aim "rec/dumps" <+: aim "rec/out.mp4" ∧
      ((dumping (some "rec/dumps")).meetAll occasions).recorder.counters.samplesDropped = 0 ∧
      ((dumping none).meetAll occasions).recorder.counters.samplesDropped = 1 := by
  intro settings dumping occasions
  have missing : ({} : FileTree).remove "rec/out.mp4" = .error .notFound := by cbv
  have untouched : cleared settings {} = {} := by
    unfold cleared
    rw [clearOutput_of_missing missing]
    rfl
  have made : ({} : FileTree).makeFolders "rec/dumps" =
      .ok { entries := [(["rec", "dumps"], .directory), (["rec"], .directory)] } := by cbv
  have vacant : Vacant "rec/dumps" (cleared settings {}) := by
    rw [untouched]
    exact ⟨_, made, by decide +kernel, by decide +kernel⟩
  exact ⟨vacant, by decide +kernel, by decide +kernel, by decide +kernel⟩

end Life

end Camcorder
