import Mathlib
import Camcorder.Capture.TrackWriter
import Camcorder.Mp4.Document
import Camcorder.Proofs.Encoding.Backlog
import Camcorder.Proofs.Files

/-!
# The output file

A writer creates its file when the track is registered, fills it when the container is finished, and removes it if there
is nothing to finish. In between the file is open and empty: `OutputFile` says how far it has come, which every delivery
keeps (`OutputFile.give`). In the end there is a finished container at the path, or nothing, unless a file was created in
which no container could be built: that one stays behind (`TrackWriter.finished_or_absent`).
-/

namespace Camcorder

open Delivery

variable {γ : Type} [Container γ]

namespace TrackWriter

variable {w : TrackWriter γ} {s : Surroundings}

/-! ## Registration -/

omit [Container γ] in
theorem not_started (none : w.track = none) : ¬w.isStarted = true := by
  unfold isStarted
  rw [none]
  nofun

/-- A writer that has no track builds it. What it notes of the size has no part in that. -/
theorem register_idle (none : w.track = none) (p : CodecParameters) (s : Surroundings) :
    ∃ journal, w.register p s = match w.build s.disk with
      | (.error failure, disk) => (.error failure, w, { disk, journal })
      | (.ok track, disk) => (.ok (), { w with track := some track, parameters := some p }, { disk, journal }) := by
  unfold register
  rw [if_neg (not_started none)]
  by_cases same : p.geometry = w.settings.geometry
  · rw [if_pos same]
    exact ⟨s.journal, rfl⟩
  · rw [if_neg same]
    exact ⟨(s.note (.sizeDiffers p.geometry w.settings.geometry)).journal, rfl⟩

/-- A track is registered once. -/
theorem register_started {t : OpenTrack γ} (track : w.track = some t) (p : CodecParameters) (s : Surroundings) :
    w.register p s = (Attempt.refuse (.invalidState .trackRegistered), w, s) := by
  unfold register isStarted
  rw [track]
  rfl

/-- A track is registered where its file is created and its container built. -/
theorem register_of_created (none : w.track = none) {p : CodecParameters} (same : p.geometry = w.settings.geometry)
    {file : Nat} {disk : FileTree} (created : s.disk.create w.path = (.ok file, disk)) {container : γ}
    (built : Container.build w.settings = .ok container) :
    w.register p s =
      (.ok (), { w with track := some { file, container }, parameters := some p }, { disk, journal := s.journal }) := by
  unfold register build
  rw [if_neg (not_started none), if_pos same]
  dsimp only
  rw [created]
  dsimp only
  rw [built]

/-! ## The end -/

omit [Container γ] in
/-- The file that was begun is removed. -/
theorem removeFile_of_file {id : Nat} {content : Bytes} (named : s.disk.resolve w.path = .ok (.file id content)) :
    (w.removeFile s).disk.contains w.path = false := by
  unfold removeFile
  rcases s.disk.remove_cases w.path with ⟨_, _, disk, _, removed, without⟩ | ⟨none, _⟩
  · rw [removed]
    exact without.contains
  · exact absurd named (none id content)

end TrackWriter

namespace WritingDesk

variable {k k' : WritingDesk γ} {l : List Delivery}

/-- `Fed k l k'`: the writer at `k` is given the deliveries `l`, whatever it answers, and in the end it is at `k'`.
Meanwhile anything may happen around it, but nobody else touches what the output path names. -/
inductive Fed : WritingDesk γ → List Delivery → WritingDesk γ → Prop where
  | nil (k : WritingDesk γ) : Fed k [] k
  | give {k k' : WritingDesk γ} {d : Delivery} {l : List Delivery} (rest : Fed (Sink.give k d).2 l k') :
      Fed k (d :: l) k'
  | meanwhile {k k' : WritingDesk γ} {l : List Delivery} {around : Surroundings}
      (untouched : around.disk.resolve k.writer.path = k.around.disk.resolve k.writer.path)
      (rest : Fed { k with around } l k') : Fed k l k'

/-- An empty file at the path that belongs to no track, as no container can be built in it. -/
structure Stranded (k : WritingDesk γ) : Prop where
  track : k.writer.track = none
  unbuilt : ∃ reason, (Container.build k.writer.settings : Except String γ) = .error reason
  empty : ∃ id, k.around.disk.resolve k.writer.path = .ok (.file id #[])

/-- How far the output file has come: there is nothing at the path, or the open file of the track, which is still empty,
or a file that was left there. -/
inductive OutputFile (k : WritingDesk γ) : Prop where
  | absent (track : k.writer.track = none) (nothing : k.around.disk.contains k.writer.path = false)
  | begun (t : OpenTrack γ) (track : k.writer.track = some t)
      (empty : k.around.disk.resolve k.writer.path = .ok (.file t.file #[]))
  | stranded (stranded : Stranded k)

/-- `Strands k l k'`: on its way from `k` to `k'` the writer is given parameters for which it creates its file, but can
build no container in it. -/
def Strands (k : WritingDesk γ) (l : List Delivery) (k' : WritingDesk γ) : Prop :=
  ∃ before p after k₁, l = before ++ .format p :: after ∧ Fed k before k₁ ∧ k₁.writer.track = none ∧
    (∃ file disk, k₁.around.disk.create k₁.writer.path = (.ok file, disk)) ∧
    (∃ reason, (Container.build k₁.writer.settings : Except String γ) = .error reason) ∧
    Fed (Sink.give k₁ (.format p)).2 after k'

/-- A writer that strands later on strands on the whole way. -/
theorem Strands.give {d : Delivery} (h : Strands (Sink.give k d).2 l k') : Strands k (d :: l) k' := by
  obtain ⟨before, p, after, k₁, rfl, fed, rest⟩ := h
  exact ⟨d :: before, p, after, k₁, rfl, .give fed, rest⟩

/-- What happens elsewhere on the disk does not keep a writer from stranding. -/
theorem Strands.meanwhile {around : Surroundings}
    (untouched : around.disk.resolve k.writer.path = k.around.disk.resolve k.writer.path)
    (h : Strands { k with around } l k') : Strands k l k' := by
  obtain ⟨before, p, after, k₁, parts, fed, rest⟩ := h
  exact ⟨before, p, after, k₁, parts, .meanwhile untouched fed, rest⟩

/-- A delivery changes neither where the writer writes to, nor what it knows of its track. -/
theorem give_place (k : WritingDesk γ) (d : Delivery) :
    (Sink.give k d).2.writer.path = k.writer.path ∧ (Sink.give k d).2.writer.settings = k.writer.settings := by
  cases d with
  | format p =>
    show (k.writer.register p k.around).2.1.path = _ ∧ (k.writer.register p k.around).2.1.settings = _
    unfold TrackWriter.register
    split
    · exact ⟨rfl, rfl⟩
    · dsimp only
      split
      · exact ⟨rfl, rfl⟩
      · exact ⟨rfl, rfl⟩
  | sample x =>
    show (k.writer.accept x k.around).2.1.path = _ ∧ (k.writer.accept x k.around).2.1.settings = _
    unfold TrackWriter.accept
    split
    · exact ⟨rfl, rfl⟩
    · unfold TrackWriter.writeTo
      dsimp only
      split
      · exact ⟨rfl, rfl⟩
      · split
        · exact ⟨rfl, rfl⟩
        · exact ⟨rfl, rfl⟩

/-- A sample changes neither the disk nor which file is open. -/
theorem give_sample (k : WritingDesk γ) (x : Sample) :
    (Sink.give k (.sample x)).2.around.disk = k.around.disk ∧
      (Sink.give k (.sample x)).2.writer.track.map (·.file) = k.writer.track.map (·.file) := by
  show (k.writer.accept x k.around).2.2.disk = _ ∧ (k.writer.accept x k.around).2.1.track.map (·.file) = _
  unfold TrackWriter.accept
  cases track : k.writer.track with
  | none =>
    dsimp only
    constructor
    · split
      · rfl
      · rfl
    · rfl
  | some t =>
    dsimp only
    unfold TrackWriter.writeTo
    dsimp only
    refine ⟨rfl, ?_⟩
    split
    · exact congrArg (Option.map (·.file)) track
    · split
      · rfl
      · rfl

/-- Parameters that come after the track was registered change nothing. -/
theorem give_format_again {t : OpenTrack γ} (track : k.writer.track = some t) (p : CodecParameters) :
    (Sink.give k (.format p)).2 = k :=
  congrArg (fun r => ({ writer := r.2.1, around := r.2.2 } : WritingDesk γ))
    (TrackWriter.register_started track p k.around)

/-- The first parameters. If the file cannot be created, the writer and what the path names stay as they were. If it can,
but no container can be built in it, the file is left there. Otherwise it is the file of the track. -/
theorem give_format_cases (none : k.writer.track = none) (p : CodecParameters) :
    ((Sink.give k (.format p)).2.writer = k.writer ∧
      (Sink.give k (.format p)).2.around.disk.resolve k.writer.path = k.around.disk.resolve k.writer.path ∧
      ∀ file disk, k.around.disk.create k.writer.path ≠ (.ok file, disk)) ∨
    (Stranded (Sink.give k (.format p)).2 ∧
      (∃ file disk, k.around.disk.create k.writer.path = (.ok file, disk)) ∧
      ∃ reason, (Container.build k.writer.settings : Except String γ) = .error reason) ∨
    ∃ t, (Sink.give k (.format p)).2.writer.track = some t ∧
      (Sink.give k (.format p)).2.around.disk.resolve k.writer.path = .ok (.file t.file #[]) ∧
      Container.build k.writer.settings = .ok t.container := by
  obtain ⟨journal, registered⟩ := TrackWriter.register_idle none p k.around
  have desk : (Sink.give k (.format p)).2 =
      { writer := (k.writer.register p k.around).2.1, around := (k.writer.register p k.around).2.2 } := rfl
  rw [desk, registered]
  unfold TrackWriter.build
  rcases k.around.disk.create_cases k.writer.path with ⟨cause, disk, refused, same⟩ | ⟨file, disk, created, named⟩
  · left
    rw [refused]
    exact ⟨rfl, FileTree.resolve_of_entries same k.writer.path, nofun⟩
  · right
    rw [created]
    dsimp only
    rcases built : (Container.build k.writer.settings : Except String γ) with reason | container
    · exact .inl ⟨⟨none, ⟨reason, built⟩, file, named⟩, ⟨file, disk, rfl⟩, reason, rfl⟩
    · exact .inr ⟨{ file, container }, rfl, named, rfl⟩

/-- A file that was left stays, whatever the writer is given: no container can be built for it later either. -/
theorem Stranded.give (h : Stranded k) (d : Delivery) : Stranded (Sink.give k d).2 := by
  obtain ⟨none, ⟨reason, unbuilt⟩, id, empty⟩ := h
  cases d with
  | format p =>
    rcases give_format_cases none p with ⟨writer, same, _⟩ | ⟨stranded, _⟩ | ⟨_, _, _, built⟩
    · rw [← writer] at none unbuilt empty same
      exact ⟨none, ⟨reason, unbuilt⟩, id, same.trans empty⟩
    · exact stranded
    · rw [unbuilt] at built
      cases built
  | sample x =>
    obtain ⟨path, settings⟩ := give_place k (.sample x)
    obtain ⟨disk, file⟩ := give_sample k x
    rw [none] at file
    rw [← settings] at unbuilt
    refine ⟨Option.map_eq_none_iff.mp file, ⟨reason, unbuilt⟩, id, ?_⟩
    rw [path, disk]
    exact empty

/-- A writer that was stranded stays so, whatever it is given. -/
theorem Stranded.fed (fed : Fed k l k') (h : Stranded k) : Stranded k' := by
  induction fed with
  | nil k => exact h
  | @give k _ d _ _ ih => exact ih (h.give d)
  | meanwhile untouched _ ih =>
    obtain ⟨id, empty⟩ := h.empty
    exact ih ⟨h.track, h.unbuilt, id, untouched.trans empty⟩

/-- A file in which no container could be built is still there in the end. -/
theorem Strands.stranded (h : Strands k l k') : Stranded k' := by
  obtain ⟨_, p, _, k₁, _, _, none, ⟨file, disk, created⟩, ⟨reason, unbuilt⟩, rest⟩ := h
  refine Stranded.fed rest ?_
  rcases give_format_cases none p with ⟨_, _, refused⟩ | ⟨stranded, _⟩ | ⟨_, _, _, built⟩
  · exact absurd created (refused file disk)
  · exact stranded
  · rw [unbuilt] at built
    cases built

/-- Every delivery keeps the file away or keeps it empty. -/
theorem OutputFile.give (h : OutputFile k) (d : Delivery) : OutputFile (Sink.give k d).2 := by
  obtain ⟨path, _⟩ := give_place k d
  cases h with
  | stranded left => exact .stranded (left.give d)
  | absent none nothing =>
    cases d with
    | format p =>
      rcases give_format_cases none p with ⟨writer, same, _⟩ | ⟨stranded, _⟩ | ⟨t, track, named, _⟩
      · rw [← writer] at none nothing same
        exact .absent none ((FileTree.contains_congr same).trans nothing)
      · exact .stranded stranded
      · rw [← path] at named
        exact .begun t track named
    | sample x =>
      obtain ⟨disk, file⟩ := give_sample k x
      rw [none] at file
      refine .absent (Option.map_eq_none_iff.mp file) ?_
      rw [path, disk]
      exact nothing
  | begun t track empty =>
    cases d with
    | format p =>
      rw [give_format_again track]
      exact .begun t track empty
    | sample x =>
      obtain ⟨disk, file⟩ := give_sample k x
      rw [track] at file
      obtain ⟨t', track', same⟩ := Option.map_eq_some_iff.mp file
      refine .begun t' track' ?_
      rw [path, disk, same]
      exact empty

/-- However many deliveries come, and whatever else happens on the disk, the file is kept away or kept empty. -/
theorem OutputFile.fed (fed : Fed k l k') (h : OutputFile k) : OutputFile k' ∧ k'.writer.path = k.writer.path := by
  induction fed with
  | nil k => exact ⟨h, rfl⟩
  | @give k _ d _ _ ih =>
    obtain ⟨path, _⟩ := give_place k d
    obtain ⟨kept, path'⟩ := ih (h.give d)
    exact ⟨kept, path'.trans path⟩
  | @meanwhile k _ _ around untouched _ ih =>
    refine ih ?_
    cases h with
    | absent none nothing => exact .absent none ((FileTree.contains_congr untouched).trans nothing)
    | begun t track empty => exact .begun t track (untouched.trans empty)
    | stranded left =>
      obtain ⟨id, empty⟩ := left.empty
      exact .stranded ⟨left.track, left.unbuilt, id, untouched.trans empty⟩

/-- Without a track there is no file. -/
def Clean (k : WritingDesk γ) : Prop := k.writer.track = none → k.around.disk.contains k.writer.path = false

/-- Where a writer is stranded the place is not clean. -/
theorem Stranded.not_clean (h : Stranded k) : ¬Clean k := by
  intro clean
  obtain ⟨id, empty⟩ := h.empty
  have nothing := clean h.track
  rw [FileTree.contains_of_resolve empty] at nothing
  cases nothing

/-- A delivery leaves no file without a track, unless it is the one for which the file is created in vain. -/
theorem Clean.give (h : Clean k) (d : Delivery) (fed : Fed (Sink.give k d).2 l k') :
    Clean (Sink.give k d).2 ∨ Strands k (d :: l) k' := by
  cases d with
  | format p =>
    cases track : k.writer.track with
    | some t =>
      rw [give_format_again track]
      exact .inl h
    | none =>
      rcases give_format_cases track p with ⟨writer, same, _⟩ | ⟨_, created, unbuilt⟩ | ⟨t, begun, _⟩
      · left
        have nothing := h track
        rw [← writer] at nothing same
        exact fun _ => (FileTree.contains_congr same).trans nothing
      · exact .inr ⟨[], p, l, k, rfl, .nil k, track, created, unbuilt, fed⟩
      · left
        intro none
        rw [begun] at none
        cases none
  | sample x =>
    obtain ⟨path, _⟩ := give_place k (.sample x)
    obtain ⟨disk, file⟩ := give_sample k x
    left
    intro none
    rw [none, Option.map_none, eq_comm, Option.map_eq_none_iff] at file
    rw [path, disk]
    exact h file

/-- If in the end there is a file without a track, it was created in vain. -/
theorem Clean.fed (fed : Fed k l k') (h : Clean k) : Clean k' ∨ Strands k l k' := by
  induction fed with
  | nil k => exact .inl h
  | @give k _ d _ rest ih =>
    rcases h.give d rest with clean | strands
    · exact (ih clean).imp_right Strands.give
    · exact .inr strands
  | meanwhile untouched _ ih =>
    exact (ih fun none => (FileTree.contains_congr untouched).trans (h none)).imp_right (Strands.meanwhile untouched)

/-- Before the track is registered there is nothing at the path. -/
theorem absent_of_samples (fed : Fed k l k') (track : k.writer.track = none)
    (nothing : k.around.disk.contains k.writer.path = false) (samples : ∀ p, .format p ∉ l) :
    k'.around.disk.contains k.writer.path = false := by
  induction fed with
  | nil k => exact nothing
  | @give k _ d _ _ ih =>
    cases d with
    | format p => exact absurd (.head _) (samples p)
    | sample x =>
      obtain ⟨path, _⟩ := give_place k (.sample x)
      obtain ⟨disk, file⟩ := give_sample k x
      rw [track] at file
      rw [← path]
      refine ih (Option.map_eq_none_iff.mp file) ?_ (fun p hp => samples p (.tail _ hp))
      rw [path, disk]
      exact nothing
  | meanwhile untouched _ ih => exact ih track ((FileTree.contains_congr untouched).trans nothing) samples

/-- A writer that finishes leaves a finished container at the path and says so. Otherwise it says that there is none, and
there is nothing at the path, unless a file was left there. -/
theorem OutputFile.finish (h : OutputFile k) :
    (∃ summary s' t finished, k.writer.finish k.around = (.ok summary, s') ∧ summary.containerWritten = true ∧
      1 ≤ k.writer.written ∧ k.writer.track = some t ∧ Container.finish t.container = .ok finished ∧
      ∃ id, s'.disk.resolve k.writer.path = .ok (.file id finished.content)) ∨
    ∃ a s', k.writer.finish k.around = (a, s') ∧ (∀ summary, a = .ok summary → summary.containerWritten = false) ∧
      (Clean k ∧ s'.disk.contains k.writer.path = false ∨
        Stranded k ∧ ∃ id, s'.disk.resolve k.writer.path = .ok (.file id #[])) := by
  unfold TrackWriter.finish
  cases h with
  | absent none nothing =>
    right
    rw [none]
    refine ⟨_, _, rfl, ?_, .inl ⟨fun _ => nothing, nothing⟩⟩
    intro summary answered
    cases answered
    rfl
  | stranded left =>
    right
    rw [left.track]
    refine ⟨_, _, rfl, ?_, .inr ⟨left, left.empty⟩⟩
    intro summary answered
    cases answered
    rfl
  | begun t track empty =>
    have clean : Clean k := by
      intro none
      rw [track] at none
      cases none
    have removed : (k.writer.removeFile k.around).disk.contains k.writer.path = false :=
      TrackWriter.removeFile_of_file empty
    rw [track]
    dsimp only
    by_cases unused : k.writer.written = 0
    · right
      rw [if_pos unused]
      refine ⟨_, _, rfl, ?_, .inl ⟨clean, removed⟩⟩
      intro summary answered
      cases answered
      rfl
    · rw [if_neg unused]
      cases ended : Container.finish t.container with
      | error reason => exact .inr ⟨_, _, rfl, nofun, .inl ⟨clean, removed⟩⟩
      | ok finished =>
        left
        refine ⟨_, _, t, finished, rfl, rfl, ?_, rfl, ended, t.file, ?_⟩
        · exact Nat.one_le_iff_ne_zero.mpr unused
        · exact FileTree.resolve_store empty finished.content

end WritingDesk

namespace TrackWriter

/-- **What is at the output path is finished.** A writer is made for a path where there is nothing. It is given
parameters and samples in whatever order, and nobody else touches what the path names. Then there is nothing at the path
until the first parameters come. When the writer finishes and answers that a container was written, the track was
registered, samples were written to it, and the file at the path holds the finished container. If it does not answer so,
there is nothing at the path, except in one case: parameters came for which the file was created, and no container could
be built in it. That file stays, and it is empty. -/
theorem finished_or_absent {c : CaptureSettings} {date : String} {around : Surroundings} {l : List Delivery}
    {k : WritingDesk γ} (nothing : around.disk.contains c.outputPath = false)
    (fed : WritingDesk.Fed { writer := create c date, around } l k) :
    let begun : WritingDesk γ := { writer := create c date, around }
    let written := ∃ summary, (k.writer.finish k.around).1 = .ok summary ∧ summary.containerWritten = true
    let disk := (k.writer.finish k.around).2.disk
    ((∀ p, .format p ∉ l) → k.around.disk.contains c.outputPath = false) ∧
      (written → k.writer.isStarted = true ∧ 1 ≤ k.writer.written ∧ ∃ t finished, k.writer.track = some t ∧
        Container.finish t.container = .ok finished ∧ disk.read c.outputPath = .ok finished.content) ∧
      ((disk.contains c.outputPath = true ↔ written) ↔ ¬begun.Strands l k) ∧
      (begun.Strands l k → ¬written ∧ disk.read c.outputPath = .ok #[]) := by
  intro begun written disk
  have start : WritingDesk.OutputFile begun := .absent rfl nothing
  obtain ⟨file, path⟩ := start.fed fed
  have path : k.writer.path = c.outputPath := path
  have clean : WritingDesk.Clean k ∨ begun.Strands l k := WritingDesk.Clean.fed fed fun _ => nothing
  refine ⟨WritingDesk.absent_of_samples fed rfl nothing, ?_⟩
  rw [← path]
  rcases file.finish with
    ⟨summary, s', t, finished, answer, complete, used, track, ended, id, named⟩ | ⟨a, s', answer, incomplete, left⟩
  · have there : written := ⟨summary, congrArg Prod.fst answer, complete⟩
    have same : disk = s'.disk := congrArg (fun r => r.2.disk) answer
    -- There is a track, so the file is its own.
    have apart : ¬begun.Strands l k := by
      intro strands
      have none := strands.stranded.track
      rw [track] at none
      cases none
    have kept : s'.disk.contains k.writer.path = true := FileTree.contains_of_resolve named
    rw [same]
    refine ⟨fun _ => ⟨congrArg Option.isSome track, used, t, finished, track, ended, FileTree.read_of_resolve named⟩, ?_,
      fun strands => absurd strands apart⟩
    exact ⟨fun _ => apart, fun _ => ⟨fun _ => there, fun _ => kept⟩⟩
  · have missing : ¬written := by
      rintro ⟨summary, answered, complete⟩
      rw [answer] at answered
      rw [incomplete summary answered] at complete
      cases complete
    have same : disk = s'.disk := congrArg (fun r => r.2.disk) answer
    rw [same]
    rcases left with ⟨tidy, gone⟩ | ⟨stranded, id, named⟩
    · have apart : ¬begun.Strands l k := fun strands => strands.stranded.not_clean tidy
      rw [gone]
      refine ⟨fun there => absurd there missing, ?_, fun strands => absurd strands apart⟩
      exact ⟨fun _ => apart, fun _ => ⟨nofun, fun there => absurd there missing⟩⟩
    · have strands : begun.Strands l k := clean.resolve_left stranded.not_clean
      have kept : s'.disk.contains k.writer.path = true := FileTree.contains_of_resolve named
      refine ⟨fun there => absurd there missing, ?_, fun _ => ⟨missing, FileTree.read_of_resolve named⟩⟩
      exact ⟨fun same => absurd (same.mp kept) missing, fun apart => absurd strands apart⟩

/-- After the parameters and a key picture there is a file, as a container was written. -/
theorem finished_or_absent_single :
    let c : CaptureSettings := { width := 2, height := 2, outputPath := "o" }
    let p : CodecParameters := { width := 2, height := 2, sps := #[0x67], pps := #[0x68] }
    let data := AnnexB.startCode ++ p.sps ++ AnnexB.startCode ++ p.pps ++ AnnexB.startCode ++ #[0x65]
    let key : Sample := { data, info := { size := data.size, pts := 0, flags := { keyFrame := true } } }
    let begun : WritingDesk Mp4.Movie := { writer := create c "today", around := {} }
    let k := (Sink.give (Sink.give begun (.format p)).2 (.sample key)).2
    begun.around.disk.contains "o" = false ∧ begun.Fed [.format p, .sample key] k ∧ k.writer.isStarted = true ∧
      1 ≤ k.writer.written ∧ ∃ t finished, k.writer.track = some t ∧ Container.finish t.container = .ok finished ∧
        (k.writer.finish k.around).2.disk.read "o" = .ok finished.content := by
  intro c p data key begun k
  have nothing : begun.around.disk.contains "o" = false := by cbv
  have fed : begun.Fed [.format p, .sample key] k := .give (.give (.nil _))
  -- The track is registered, and the sample is written.
  let disk : FileTree := { entries := [(["o"], .file 0 #[])], nextId := 1 }
  let track : OpenTrack Mp4.Movie := { file := 0, container := { settings := c.track "today", track := {} } }
  have created : begun.around.disk.create begun.writer.path = (.ok 0, disk) := by cbv
  have registered : begun.writer.register p begun.around =
      (.ok (), { begun.writer with track := some track, parameters := some p }, { disk }) :=
    register_of_created rfl rfl created rfl
  have desk : (Sink.give begun (.format p)).2 =
      { writer := { begun.writer with track := some track, parameters := some p }, around := { disk } } :=
    congrArg (fun r => ({ writer := r.2.1, around := r.2.2 } : WritingDesk Mp4.Movie)) registered
  have there : ∃ summary, (k.writer.finish k.around).1 = .ok summary ∧ summary.containerWritten = true := by
    have finished : ((k.writer.finish k.around).1.toOption.map (·.containerWritten)) = some true := by
      unfold k
      rw [desk]
      decide +kernel
    rcases answered : (k.writer.finish k.around).1 with failure | summary
    · rw [answered] at finished
      cases finished
    · rw [answered] at finished
      exact ⟨summary, rfl, Option.some_inj.mp finished⟩
  exact ⟨nothing, fed, (finished_or_absent nothing fed).2.1 there⟩

/-- A kind of container that is never built. -/
inductive NoContainer

instance : Container NoContainer where
  build _ := .error "there are no such containers"
  write m := nomatch m
  finish m := nomatch m

/-- The parameters come, the file is created, and the container cannot be built. The writer answers that no container was
written, and leaves the file. -/
theorem empty_file_left :
    let c : CaptureSettings := { width := 2, height := 2, outputPath := "o" }
    let p : CodecParameters := { width := 2, height := 2, sps := #[0x67], pps := #[0x68] }
    let begun : WritingDesk NoContainer := { writer := create c "today", around := {} }
    let k := (Sink.give begun (.format p)).2
    begun.around.disk.contains "o" = false ∧ begun.Fed [.format p] k ∧
      (∃ summary, (k.writer.finish k.around).1 = .ok summary ∧ summary.containerWritten = false) ∧
      (k.writer.finish k.around).2.disk.contains "o" = true ∧
      (k.writer.finish k.around).2.disk.read "o" = .ok #[] := by
  intro c p begun k
  have nothing : begun.around.disk.contains "o" = false := by cbv
  have fed : begun.Fed [.format p] k := .give (.nil _)
  have created : begun.around.disk.create begun.writer.path =
      (.ok 0, { entries := [(["o"], .file 0 #[])], nextId := 1 }) := by cbv
  have strands : begun.Strands [.format p] k :=
    ⟨[], p, [], begun, rfl, .nil _, rfl, ⟨0, _, created⟩, ⟨_, rfl⟩, .nil _⟩
  have ended : k.writer.finish k.around =
      (.ok { written := k.writer.written, dropped := k.writer.dropped }, k.around) := by
    unfold finish
    rw [strands.stranded.track]
  obtain ⟨id, named⟩ := strands.stranded.empty
  have path : k.writer.path = "o" := (WritingDesk.give_place begun (.format p)).1
  rw [path] at named
  rw [ended]
  exact ⟨nothing, fed, ⟨_, rfl, rfl⟩, FileTree.contains_of_resolve named, FileTree.read_of_resolve named⟩

end TrackWriter

end Camcorder
