import Mathlib
import Camcorder.Proofs.Capture.FailedStart
import Camcorder.Proofs.Routes

/-!
# A directory for frames that cannot be decoded

Before a recording begins its way is cleared (`Recorder.cleared`). A directory is `Recorder.Aside` if keeping frames
there does not get into that way: neither a directory that is made for it nor a file in it is one that the output path
passes. It stays so whatever is written (`Recorder.Aside.mono`), and a frame that is kept leaves the way of the output
as it was (`Recorder.Aside.dumped`).
-/

namespace Camcorder

namespace Recorder

open FileTree

variable {t u : FileTree} {folder out : String}

/-! ## The way of the output -/

/-- The disk with the way cleared for a recording, as far as it can be cleared. -/
def cleared (c : CaptureSettings) (disk : FileTree) : FileTree := (clearOutput c disk).toOption.getD disk

/-- What is at the output path is removed, or the disk stays as it was. -/
theorem cleared_outcomes (c : CaptureSettings) (disk : FileTree) :
    disk.remove c.outputPath = .ok (cleared c disk) ∨
      (∃ cause, disk.remove c.outputPath = .error cause) ∧ cleared c disk = disk := by
  unfold cleared clearOutput
  rcases disk.remove c.outputPath with cause | disk'
  · right
    refine ⟨⟨cause, rfl⟩, ?_⟩
    cases cause <;> rfl
  · exact .inl rfl

/-- Nothing but the output is touched. -/
theorem sameBut_cleared (c : CaptureSettings) (disk : FileTree) : SameBut (aim c.outputPath) disk (cleared c disk) := by
  rcases cleared_outcomes c disk with removed | ⟨_, same⟩
  · exact (remove_outcome removed).2.2.1
  · rw [same]
    exact fun _ _ => rfl

theorem numbered_cleared {c : CaptureSettings} {disk : FileTree} (h : Numbered disk) : Numbered (cleared c disk) := by
  rcases cleared_outcomes c disk with removed | ⟨_, same⟩
  · exact h.remove removed
  · rw [same]
    exact h

/-- A way is cleared once. -/
theorem cleared_cleared (c : CaptureSettings) (disk : FileTree) : cleared c (cleared c disk) = cleared c disk := by
  rcases cleared_outcomes c disk with removed | ⟨_, same⟩
  · rcases cleared_outcomes c (cleared c disk) with again | ⟨_, same⟩
    · -- There is no file left to be removed.
      obtain ⟨⟨id, content, stands⟩, _⟩ := remove_outcome again
      obtain ⟨_, gone, _⟩ := remove_outcome removed
      rw [gone] at stands
      cases stands
    · exact same
  · rw [same, same]

/-- What the device refuses to create has no part in it. -/
theorem node?_cleared {c : CaptureSettings} (same : u.entries = t.entries) :
    (cleared c u).node? = (cleared c t).node? := by
  have removed := remove_of_entries same c.outputPath
  apply node?_of_entries
  rcases cleared_outcomes c t with done | ⟨⟨cause, failed⟩, stays⟩
  · rcases cleared_outcomes c u with done' | ⟨⟨cause', failed'⟩, stays'⟩
    · rw [done, done'] at removed
      exact Except.ok.inj removed
    · rw [done, failed'] at removed
      cases removed
  · rcases cleared_outcomes c u with done' | ⟨⟨cause', failed'⟩, stays'⟩
    · rw [failed, done'] at removed
      cases removed
    · rw [stays, stays']
      exact same

section Starting

variable {β σ γ : Type} [Coder σ] [Backend β σ]

/-- Whatever else comes of it, an attempt to open a recording clears the way, and does nothing more to the disk. -/
theorem openRecording_disk (r : Recorder β σ γ) (startedAt : Timestamp) (s : Surroundings) :
    (r.openRecording startedAt s).2.2.disk = cleared r.settings s.disk := by
  unfold openRecording cleared
  rcases clearOutput r.settings s.disk with failure | disk
  · rfl
  · dsimp only
    rcases openEncoder r.settings r.backend s.journal with ⟨failure | ⟨encoder, layout⟩, b, journal⟩
    · rfl
    · dsimp only
      split
      · rfl
      · rfl

end Starting

/-! ## The directory -/

theorem toList_dumpName (k : Nat) :
    (dumpName k).toList = "debug_frame_".toList ++ Nat.toDigits 10 k ++ ".jpg".toList := by
  unfold dumpName
  simp [toString, Nat.repr]

theorem plain_dumpName (k : Nat) : Plain (dumpName k) := by
  have chars := toList_dumpName k
  have other (name : String) (short : name.toList.length < 16) : dumpName k ≠ name := by
    intro same
    have length := congrArg List.length chars
    rw [same] at length
    simp at length
    omega
  have slashless : '/' ∉ (dumpName k).toList := by
    rw [chars]
    simp only [List.mem_append, not_or]
    refine ⟨⟨by decide, fun digit => ?_⟩, by decide⟩
    exact absurd (Nat.isDigit_of_mem_toDigits (by decide) le_rfl digit) (by decide)
  exact ⟨slashless, other "" (by decide), other "." (by decide), other ".." (by decide)⟩

/-- No two dumps have the same name. -/
theorem dumpName_injective : Function.Injective dumpName := by
  intro j k same
  unfold dumpName at same
  simpa using same

/-- Where the undecodable frame `k` is kept. -/
def dumpPlace (folder : String) (k : Nat) : List String := aim (join folder (dumpName k))

theorem dumpPlace_eq (folder : String) (k : Nat) : dumpPlace folder k = aim folder ++ [dumpName k] :=
  aim_join folder (plain_dumpName k)

/-- No two dumps have the same place. -/
theorem dumpPlace_injective (folder : String) : Function.Injective (dumpPlace folder) := by
  intro j k same
  rw [dumpPlace_eq, dumpPlace_eq] at same
  exact dumpName_injective (List.singleton_inj.mp (List.append_cancel_left same))

/-- Frames that are kept in the directory do not get into the way of the output: neither a directory that has to be made
for them nor one of their files is a place that the output path passes. -/
structure Aside (folder out : String) (t : FileTree) : Prop where
  directories : ∀ p ∈ route folder, t.node? p = none → p ∉ route out
  files : ∀ k < maxDumps, dumpPlace folder k ∉ route out

/-- A directory that is aside stays so as long as what stands goes on standing. -/
theorem Aside.mono (h : Aside folder out t) (stands : Stands t u) : Aside folder out u :=
  ⟨fun p passed missing => h.directories p passed (stands p missing), h.files⟩

theorem Aside.of_nodes (h : Aside folder out t) (same : u.node? = t.node?) : Aside folder out u := by
  refine h.mono fun p missing => ?_
  rw [← same]
  exact missing

/-- A frame that is kept, or is not, leaves the way of the output as it was. -/
theorem Aside.dumped (h : Aside folder out t) (k : Nat) (raw : Bytes) :
    AgreeOn (route out) t (dumped (some folder) k raw t) ∧ Aside folder out (dumped (some folder) k raw t) := by
  unfold Recorder.dumped
  dsimp only
  by_cases enough : maxDumps ≤ k
  · rw [if_pos enough]
    exact ⟨.refl _ t, h⟩
  · rw [if_neg enough]
    rcases made : t.makeFolders folder with cause | u
    · exact ⟨.refl _ t, h⟩
    · dsimp only
      obtain ⟨widened, _⟩ := widened_of_makeFolders made
      have same : AgreeOn (route out) t u := by
        intro p passed
        by_cases missing : t.node? p = none
        · -- What is made is made elsewhere.
          rw [widened.others p fun on => h.directories p on missing passed]
        · rw [widened.kept p missing]
      have stands : Stands t u := by
        intro p missing
        by_contra there
        rw [widened.kept p there] at missing
        exact there missing
      obtain ⟨same', stands'⟩ := write_agree (h.files k (by omega)) u raw
      exact ⟨same.trans same', (h.mono stands).mono stands'⟩

end Recorder

end Camcorder
