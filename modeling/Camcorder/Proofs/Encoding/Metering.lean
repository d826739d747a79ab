import Mathlib
import Camcorder.Proofs.Encoding.Likeness

/-!
# Keeping books on instances

A `Metered` instance counts how often it is stopped, and a `Registry` is a backend that writes down how many instances
it made and, of each one that is destroyed, how often it had been stopped. Neither has a say in what happens: a session
with metered instances from a registry does what it does without the books, and never stops an instance but to close
(`Encoder.drain_metered`, `Encoder.submit_metered`, `Encoder.launch_metered`, `Encoder.close_metered`).
-/

namespace Camcorder

/-- An instance, and how often it was stopped. -/
structure Metered (σ : Type) where
  coder : σ
  stops : Nat := 0

namespace Metered

variable {σ : Type}

/-- An instance that was not stopped yet. -/
def fresh (coder : σ) : Metered σ := { coder }

instance [Coder σ] : Coder (Metered σ) where
  start m :=
    let (r, coder) := Coder.start m.coder
    (r, { m with coder })
  claim m wait :=
    let (slot, coder) := Coder.claim m.coder wait
    (slot, { m with coder })
  room? m := Coder.room? m.coder
  fill m slot picture := { m with coder := Coder.fill m.coder slot picture }
  queue m slot len pts flags :=
    let (r, coder) := Coder.queue m.coder slot len pts flags
    (r, { m with coder })
  poll m wait :=
    let (output, coder) := Coder.poll m.coder wait
    (output, { m with coder })
  slot? m := Coder.slot? m.coder
  parameters? m := Coder.parameters? m.coder
  release m slot := { m with coder := Coder.release m.coder slot }
  stop m :=
    let (r, coder) := Coder.stop m.coder
    (r, { coder, stops := m.stops + 1 })
  left m := Coder.left m.coder
  left_poll_lt m := Coder.left_poll_lt m.coder
  left_poll_le m := Coder.left_poll_le m.coder
  left_release_le m := Coder.left_release_le m.coder

/-- A metered instance that was not stopped yet answers like the instance itself. -/
theorem fresh_alike [Coder σ] : Coder.Alike fun (s : σ) (m : Metered σ) => m = .fresh s where
  claim h _ := by cases h; exact ⟨rfl, rfl⟩
  room? h _ := by cases h; rfl
  fill h _ _ := by cases h; rfl
  queue h _ _ _ _ := by cases h; exact ⟨rfl, rfl⟩
  poll h _ := by cases h; exact ⟨rfl, rfl⟩
  slot? h _ := by cases h; rfl
  parameters? h := by cases h; rfl
  release h _ := by cases h; rfl

theorem rel_fresh (i : Option σ) : Option.Rel (fun s m => m = Metered.fresh s) i (i.map .fresh) :=
  Coder.rel_map (R := fun s m => m = Metered.fresh s) (fun _ => rfl) i

theorem eq_map_fresh {i : Option σ} {m : Option (Metered σ)} (h : Option.Rel (fun s m => m = .fresh s) i m) :
    m = i.map .fresh := by
  cases h with
  | none => rfl
  | some h => exact congrArg some h

end Metered

/-- What is written down about the instances of a backend. -/
structure Books where
  /-- How many were made. -/
  made : Nat := 0
  /-- How often each of those that were destroyed had been stopped, the last one first. -/
  destroyed : List Nat := []

/-- A backend, and the books on its instances. -/
structure Registry (β : Type) where
  backend : β
  books : Books := {}

/-- Makes an instance and writes it down. -/
def Registry.create {β σ : Type} [Backend β σ] (b : Registry β) (format : StreamFormat) :
    Attempt (Metered σ) × Registry β :=
  match Backend.create b.backend format with
  | (.error failure, backend) => (.error failure, { b with backend })
  | (.ok coder, backend) => (.ok (.fresh coder), { backend, books := { b.books with made := b.books.made + 1 } })

instance {β σ : Type} [Backend β σ] : Backend (Registry β) (Metered σ) where
  name b := Backend.name b.backend
  layouts b := Backend.layouts b.backend
  create := Registry.create
  destroy b m :=
    { backend := Backend.destroy b.backend m.coder
      books := { b.books with destroyed := m.stops :: b.books.destroyed } }

namespace Encoder

variable {σ κ β : Type}

/-- The session with its instance metered, not stopped yet. -/
def metered (e : Encoder σ) : Encoder (Metered σ) :=
  { state := e.state, format := e.format, instance? := e.instance?.map .fresh, lastPts := e.lastPts
    formatDelivered := e.formatDelivered, framesQueued := e.framesQueued }

variable [Coder σ] [Sink κ] [Backend β σ]

omit [Coder σ] in
/-- Metering does not change how an encoder is configured. -/
theorem configure_metered (e : Encoder σ) (b : β) (books : Books) (r : StreamRequest) (j : Journal) :
    e.metered.configure (⟨b, books⟩ : Registry β) r j =
      ((e.configure b r j).1, (e.configure b r j).2.1.metered, (e.configure b r j).2.2) := by
  have name : Backend.name (⟨b, books⟩ : Registry β) = Backend.name b := rfl
  have layouts : Backend.layouts (⟨b, books⟩ : Registry β) = Backend.layouts b := rfl
  have state : e.metered.state = e.state := rfl
  unfold configure
  rw [name, layouts, state]
  split
  · dsimp only
    cases grant (Backend.name b) (Backend.layouts b) r <;> rfl
  · rfl

omit [Sink κ] in
/-- A submission does the same with a metered instance, and does not stop it. -/
theorem submit_metered (e : Encoder σ) (picture : Bytes) (pts : Nat) :
    e.metered.submit picture pts = ((e.submit picture pts).1, (e.submit picture pts).2.metered) := by
  obtain ⟨i, next, same⟩ := submit_upon Metered.fresh_alike (Metered.rel_fresh e.instance?) picture pts
  cases Metered.eq_map_fresh next
  exact same

/-- A drain does the same with a metered instance, and does not stop it. -/
theorem drain_metered (e : Encoder σ) (atEnd : Bool) (sink : κ) (now : Nat) :
    e.metered.drain atEnd sink now =
      ((e.drain atEnd sink now).1, (e.drain atEnd sink now).2.1.metered, (e.drain atEnd sink now).2.2) := by
  obtain ⟨i, next, same⟩ := drain_upon Metered.fresh_alike (Metered.rel_fresh e.instance?) atEnd sink now
  cases Metered.eq_map_fresh next
  exact same

/-- What an attempt to open a session, with this answer, changes in the books. -/
inductive Entered (books : Books) : Attempt Unit → Books → Prop where
  /-- No instance was made. -/
  | unmade (failure : Failure) : Entered books (.error failure) books
  /-- The instance did not start, and was destroyed without being stopped. -/
  | spoilt (failure : Failure) : Entered books (.error failure)
      { made := books.made + 1, destroyed := 0 :: books.destroyed }
  | opened : Entered books (.ok ()) { books with made := books.made + 1 }

omit [Sink κ] in
/-- A session is opened just the same with a metered instance, which is then not stopped yet. -/
theorem launch_metered (e : Encoder σ) (b : β) (books : Books) :
    ∃ books', Entered books (e.launch b).1 books' ∧
      e.metered.launch (⟨b, books⟩ : Registry β) =
        ((e.launch b).1, (e.launch b).2.1.metered, ⟨(e.launch b).2.2, books'⟩) := by
  have state : e.metered.state = e.state := rfl
  have format : e.metered.format = e.format := rfl
  unfold launch
  rw [state, format]
  split
  · cases e.format with
    | none => exact ⟨books, .unmade _, rfl⟩
    | some f =>
      have made : Backend.create (⟨b, books⟩ : Registry β) f = Registry.create ⟨b, books⟩ f := rfl
      dsimp only
      rw [made]
      unfold Registry.create
      dsimp only
      rcases Backend.create b f with ⟨failure | c, b'⟩
      · exact ⟨books, .unmade _, rfl⟩
      · have started : Coder.start (Metered.fresh c) = ((Coder.start c).1, .fresh (Coder.start c).2) := rfl
        dsimp only
        rw [started]
        rcases Coder.start c with ⟨failure | u, c'⟩
        · exact ⟨_, .spoilt _, rfl⟩
        · exact ⟨_, .opened, rfl⟩
  · exact ⟨books, .unmade _, rfl⟩

omit [Sink κ] in
/-- A session that is closed stops its instance, if it has one, and destroys it. -/
theorem close_metered (e : Encoder σ) (b : β) (books : Books) :
    e.metered.close (⟨b, books⟩ : Registry β) = ((e.close b).1, (e.close b).2.1.metered, ⟨(e.close b).2.2,
      if e.isAllocated then { books with destroyed := 1 :: books.destroyed } else books⟩) := by
  have held : e.metered.instance? = e.instance?.map .fresh := rfl
  unfold close isAllocated
  rw [held]
  cases e.instance? with
  | none => rfl
  | some c => rfl

end Encoder

end Camcorder
