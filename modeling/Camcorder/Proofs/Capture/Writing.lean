import Mathlib
import Camcorder.Capture.TrackWriter
import Camcorder.Proofs.Encoding.Backlog

/-!
# What a writer is given, and when it breaks down

`TrackWriter.Given` tells what a writer was given from what it was before and what it is after; whatever an encoder
drains, the writer is given just what is heard of it (`Encoder.drain_given`).

A writer moves a time stamp that does not increase just behind the one before, so it may run out of time stamps.
`WritingDesk.not_breaks` says that this is all: a writer that has time stamps left for the samples it is given does
not break down over them.
-/

namespace Camcorder

open Delivery

/-! ## What a writer is given -/

namespace TrackWriter

variable {γ : Type} [Container γ]

/-- `Given w l w'`: the writer `w` is given the deliveries `l`, one after the other, and is `w'` in the end. It may refuse
them. What it finds around it at each of them is left open. -/
inductive Given : TrackWriter γ → List Delivery → TrackWriter γ → Prop where
  | nil (w : TrackWriter γ) : Given w [] w
  | give {w w' : TrackWriter γ} {d : Delivery} {l : List Delivery} (around : Surroundings)
      (rest : Given (Sink.give ({ writer := w, around } : WritingDesk γ) d).2.writer l w') : Given w (d :: l) w'

/-- One more delivery. -/
theorem Given.concat {w w' : TrackWriter γ} {l : List Delivery} (h : w.Given l w') (d : Delivery)
    (around : Surroundings) : w.Given (l ++ [d]) (Sink.give ({ writer := w', around } : WritingDesk γ) d).2.writer := by
  induction h with
  | nil w => exact .give around (.nil _)
  | give around' _ ih => exact .give around' ih

/-- A writer is given what is heard of its desk. -/
theorem alike_given (w : TrackWriter γ) : Sink.Alike fun (o : Observed (WritingDesk γ)) (k : WritingDesk γ) =>
    k = o.sink ∧ w.Given o.heard k.writer where
  register := by
    rintro o k ⟨rfl, given⟩ q
    exact ⟨rfl, rfl, given.concat (.format q) o.sink.around⟩
  accept := by
    rintro o k ⟨rfl, given⟩ x
    exact ⟨rfl, rfl, given.concat (.sample x) o.sink.around⟩
  note := by
    rintro o k ⟨rfl, given⟩ n
    exact ⟨rfl, given⟩

end TrackWriter

/-- Whatever is heard of a drain, the writer is given just that. -/
theorem Encoder.drain_given {σ γ : Type} [Coder σ] [Container γ] {w : TrackWriter γ} {k : WritingDesk γ}
    {heard : List Delivery} (given : w.Given heard k.writer) (e : Encoder σ) (atEnd : Bool) (now : Nat) :
    w.Given (e.heardAfter atEnd k heard now) (e.drain atEnd k now).2.2.writer := by
  obtain ⟨k', ⟨_, given'⟩, drained⟩ :=
    drain_onto (TrackWriter.alike_given w) (k := { sink := k, heard }) ⟨rfl, given⟩ e atEnd now
  rw [drained]
  exact given'

/-! ## When it breaks down -/

namespace TrackWriter

variable {γ : Type}

/-- The time stamps from `m` on were not written yet. -/
def Below (w : TrackWriter γ) (m : Nat) : Prop := ∀ last, w.lastPts = some last → last < m

theorem Below.mono {w : TrackWriter γ} {m n : Nat} (below : w.Below m) (le : m ≤ n) : w.Below n :=
  fun last written => (below last written).trans_le le

/-- The time stamp to write for `pts` exists, and is below `m`. -/
def Admits (w : TrackWriter γ) (pts m : Nat) : Prop := ∃ q, nextPts w.lastPts pts = .ok q ∧ q < m

/-- A stamp that is early enough can be written, itself or moved. -/
theorem Below.admits {w : TrackWriter γ} {m pts : Nat} (below : w.Below m) (early : pts < m) (room : m < wordLimit) :
    w.Admits pts (m + 1) := by
  unfold Admits nextPts
  cases last : w.lastPts with
  | none => exact ⟨pts, rfl, by omega⟩
  | some l =>
    have lt : l < m := below l last
    dsimp only
    -- A time stamp that does not increase becomes the next one, which there is.
    split
    · refine ⟨l + 1, ?_, by omega⟩
      rw [word?, if_pos (by omega)]
      rfl
    · exact ⟨pts, rfl, by omega⟩

variable [Container γ]

/-- Beginning a track may be refused, and no time stamp is written. -/
theorem register_cases (w : TrackWriter γ) (p : CodecParameters) (s : Surroundings) :
    (∀ f, (w.register p s).1 ≠ .error (.fault f)) ∧ (w.register p s).2.1.lastPts = w.lastPts := by
  unfold register
  split
  · exact ⟨nofun, rfl⟩
  · unfold build
    dsimp only
    rcases (if p.geometry = w.settings.geometry then s
      else s.note (.sizeDiffers p.geometry w.settings.geometry)).disk.create w.path with ⟨cause | file, disk⟩
    · exact ⟨nofun, rfl⟩
    · dsimp only
      rcases (Container.build w.settings : Except String γ) with reason | container
      · exact ⟨nofun, rfl⟩
      · exact ⟨nofun, rfl⟩

/-- A sample that can be read is taken or refused as long as there is a time stamp for it. -/
theorem accept_cases {w : TrackWriter γ} {m : Nat} {sample : Sample} (below : w.Below m)
    (admits : w.Admits sample.info.pts m) (readable : sample.payload? = some sample.data) (s : Surroundings) :
    (∀ f, (w.accept sample s).1 ≠ .error (.fault f)) ∧ (w.accept sample s).2.1.Below m := by
  unfold accept
  cases track : w.track with
  | none => exact ⟨nofun, below⟩
  | some t =>
    obtain ⟨pts, next, lt⟩ := admits
    dsimp only
    unfold writeTo
    simp only [next, readable, Attempt.ofOption, bind, Except.bind, pure, Except.pure]
    rcases Container.write t.container (Float.ofNat pts / 1000000.0) sample.data sample.info.flags.keyFrame with
      ⟨reason | _, container⟩
    · exact ⟨nofun, below⟩
    · refine ⟨nofun, ?_⟩
      intro last h
      cases h
      exact lt

end TrackWriter

namespace WritingDesk

variable {γ : Type} [Container γ] {k k' : WritingDesk γ} {l : List Delivery} {m : Nat}

/-- The samples can be read, and they are earlier than `m`. -/
def Readable (m : Nat) (l : List Delivery) : Prop :=
  ∀ s, .sample s ∈ l → s.payload? = some s.data ∧ s.info.pts < m

/-- What can be read is taken or refused, without a breakdown, and uses up one stamp for each sample. -/
theorem give_cases {d : Delivery} (below : k.writer.Below m) (readable : Readable m [d])
    (room : m + (samples [d]).length ≤ wordLimit) :
    (∀ f, (Sink.give k d).1 ≠ .error (.fault f)) ∧
      (Sink.give k d).2.writer.Below (m + (samples [d]).length) := by
  cases d with
  | format q =>
    rcases k.writer.register_cases q k.around with ⟨answers, same⟩
    refine ⟨answers, ?_⟩
    intro last h
    rw [show (Sink.give k (.format q)).2.writer.lastPts = k.writer.lastPts from same] at h
    exact below last h
  | sample s =>
    rcases readable s (.head _) with ⟨payload, early⟩
    exact TrackWriter.accept_cases (below.mono m.le_succ) (below.admits early room) payload k.around

theorem length_samples_cons (d : Delivery) (l : List Delivery) :
    (samples (d :: l)).length = (samples [d]).length + (samples l).length := by
  have parts : samples (d :: l) = samples [d] ++ samples l := List.filterMap_append (l := [d])
  rw [parts, List.length_append]

theorem Readable.tail {d : Delivery} (h : Readable m (d :: l)) (n : Nat) : Readable (m + n) l := by
  intro s hs
  rcases h s (.tail _ hs) with ⟨payload, early⟩
  exact ⟨payload, by omega⟩

theorem Readable.head {d : Delivery} (h : Readable m (d :: l)) : Readable m [d] := by
  intro s hs
  cases List.mem_singleton.mp hs
  exact h s (.head _)

/-- A writer does not break down over samples that it has time stamps for. -/
theorem not_breaks (below : k.writer.Below m) (readable : Readable m l)
    (room : m + (samples l).length ≤ wordLimit) : ¬ Sink.Breaks k l := by
  intro breaks
  -- By induction on what was given before the writer broke down; `m` grows with each sample.
  induction breaks generalizing m with
  | here broken =>
    rw [length_samples_cons] at room
    exact (give_cases below readable.head (by omega)).1 _ broken
  | later _ ih =>
    rw [length_samples_cons] at room
    exact ih (give_cases below readable.head (by omega)).2 (readable.tail _) (by omega)
  | note n _ ih => exact ih below readable room

/-- After a writer was given samples that it has time stamps for, so many fewer are left. -/
theorem below_of_takes (takes : Sink.Takes k l k') (below : k.writer.Below m) (readable : Readable m l)
    (room : m + (samples l).length ≤ wordLimit) : k'.writer.Below (m + (samples l).length) := by
  induction takes generalizing m with
  | nil k => exact below
  | give answered _ ih =>
    rw [length_samples_cons] at room ⊢
    rw [← Nat.add_assoc]
    exact ih (give_cases below readable.head (by omega)).2 (readable.tail _) (by omega)
  | note n _ ih => exact ih below readable room

end WritingDesk

end Camcorder
