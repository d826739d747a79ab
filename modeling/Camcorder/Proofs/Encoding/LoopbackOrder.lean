import Mathlib
import Camcorder.Encoding.Loopback
import Camcorder.Proofs.Encoding.Ledger
import Camcorder.Proofs.Encoding.Shelf

/-!
# Loopback instances in order

The slots and the events of a loopback instance are a shelf, so loopback instances are orderly.
-/

namespace Camcorder.Loopback

/-- What a slot is on the shelf. -/
def Slot.place (slot : Slot) : Place where
  sample := { data := slot.output, info := slot.info }
  busy := slot.busy

/-- What an event is in the line of the shelf. -/
def Event.place? : Event → Option Nat
  | .format => none
  | .sample i => some i

namespace Instance

def shelf (s : Instance) : Shelf where
  places := s.slots.map Slot.place
  line := s.pending.map Event.place?

def parameters (s : Instance) : CodecParameters := { width := s.width, height := s.height, sps, pps }

/-- The instance without its line. -/
def core (s : Instance) : Instance :=
  { s with pending := [], slots := s.slots.map fun slot => { slot with busy := false } }

variable {s s' : Instance} {i : Nat}

/-! ## What the requests do to the shelf -/

theorem getElem?_places (s : Instance) (i : Nat) : s.shelf.places[i]? = (s.slots[i]?).map Slot.place :=
  Array.getElem?_map

theorem shelf_release (s : Instance) (i : Nat) : (s.release i).shelf = s.shelf.release i := by
  apply Shelf.ext
  · dsimp only [Instance.shelf, release, Shelf.release]
    exact Shelf.map_modify s.slots i fun _ _ => rfl
  · rfl

theorem core_release (s : Instance) (i : Nat) : (s.release i).core = s.core := by
  have slots : (s.slots.modify i fun slot => { slot with busy := false }).map
      (fun slot => ({ slot with busy := false } : Slot)) = s.slots.map fun slot => { slot with busy := false } :=
    Shelf.map_modify_same s.slots i fun _ => rfl
  unfold core release
  rw [slots]

/-- A claim gets a slot that was free on the shelf, and takes it from there. -/
theorem claim_some (h : s.claim = (some i, s')) :
    s.shelf.IsFree i ∧ s'.shelf = s.shelf.claim i ∧
      s' = { s with slots := s.slots.modify i fun slot => { slot with busy := true } } := by
  unfold claim at h
  split at h
  · split at h
    · rename_i j hj
      cases h
      rcases Array.findIdx?_eq_some_iff_getElem.mp hj with ⟨lt, free, _⟩
      rw [Bool.not_eq_true'] at free
      refine ⟨⟨s.slots[i].place, ?_, free⟩, ?_, rfl⟩
      · rw [getElem?_places, Array.getElem?_eq_getElem lt]
        rfl
      · apply Shelf.ext
        · dsimp only [Instance.shelf, Shelf.claim]
          exact Shelf.map_modify s.slots i fun _ _ => rfl
        · rfl
    · cases h
  · cases h

/-- A claim that gets no slot changes nothing; once started, all slots were busy. -/
theorem claim_none (h : s.claim = (none, s')) : s' = s ∧ (s.started = true → ∀ i, ¬ s.shelf.IsFree i) := by
  unfold claim at h
  split at h
  · split at h
    · cases h
    · rename_i none
      cases h
      refine ⟨rfl, ?_⟩
      rintro _ i ⟨place, hi, free⟩
      rw [getElem?_places] at hi
      rcases Option.map_eq_some_iff.mp hi with ⟨slot, hslot, rfl⟩
      have busy := Array.findIdx?_eq_none_iff.mp none slot (Array.mem_of_getElem? hslot)
      have free : slot.busy = false := free
      simp [free] at busy
  · rename_i off
    cases h
    exact ⟨rfl, fun on => absurd on off⟩

theorem shelf_fill (s : Instance) (i : Nat) (data : Bytes) : (s.fill i data).shelf = s.shelf := by
  apply Shelf.ext
  · dsimp only [Instance.shelf, fill]
    exact Shelf.map_modify_same s.slots i fun _ => rfl
  · rfl

/-- Output is put on the shelf, in the slot that was claimed for it. -/
theorem shelf_emit {slot : Slot} (hi : s.slots[i]? = some slot) (busy : slot.busy = true) (output : Bytes) (pts : Nat)
    (flags : SampleFlags) :
    (s.emit i output pts flags).shelf =
      s.shelf.put i { data := output, info := { size := output.size, pts, flags } } := by
  apply Shelf.ext
  · dsimp only [Instance.shelf, emit, Shelf.put]
    apply Shelf.map_modify
    intro x hx
    rw [hi] at hx
    cases hx
    simp [Slot.place, busy]
  · exact List.map_append

/-! ## Order -/

/-- What the instance holds in its slots and its line. -/
structure Sound (s : Instance) : Prop where
  shelf : s.shelf.Sound
  /-- The parameters can be asked for as long as the format waits. -/
  sent : none ∈ s.shelf.line → s.formatSent = true

/-- The outputs that wait. -/
def backlog (s : Instance) : List Delivery := s.shelf.deliveries s.parameters

/-- A poll takes nothing if nothing waits. -/
theorem poll_nil (h : s.backlog = []) : s.poll = (.nothing, s) := by
  have none : s.pending = [] := by simpa [backlog, Shelf.deliveries, Instance.shelf] using h
  unfold poll
  rw [none]

/-- What comes first in the line is what a poll answers with. -/
theorem pending_of_backlog {d : Delivery} {l : List Delivery} (h : s.backlog = d :: l) :
    ∃ e rest, s.pending = e :: rest ∧ s.shelf.line = e.place? :: rest.map Event.place? ∧
      s.shelf.delivery s.parameters e.place? = d ∧ ({ s with pending := rest } : Instance).backlog = l := by
  rcases Shelf.deliveries_eq_cons h with ⟨p, places, line, first, others⟩
  rcases List.map_eq_cons_iff.mp line with ⟨e, rest, pending, rfl, rfl⟩
  exact ⟨e, rest, pending, line, first, others⟩

/-- A poll takes the format if that waits first, and leaves the rest. -/
theorem poll_format {q : CodecParameters} {l : List Delivery} (h : Sound s) (hb : s.backlog = .format q :: l) :
    ∃ s', s.poll = (.format, s') ∧ s'.formatSent = true ∧ s'.parameters = q ∧ Sound s' ∧ s'.backlog = l ∧
      s'.core = s.core := by
  rcases pending_of_backlog hb with ⟨e, rest, pending, line, first, others⟩
  cases e with
  | sample i => cases first
  | format =>
    cases first
    refine ⟨{ s with pending := rest }, ?_, h.sent (by simp [line, Event.place?]), rfl, ?_, others, rfl⟩
    · unfold poll
      rw [pending]
    · refine ⟨h.shelf.take_format line, ?_⟩
      intro later
      exact h.sent (by rw [line]; exact .tail _ later)

/-- A poll takes the sample that waits first, and leaves the rest once its slot is released. -/
theorem poll_sample {x : Sample} {l : List Delivery} (h : Sound s) (hb : s.backlog = .sample x :: l) :
    ∃ s' i, s.poll = (.sample i x.info, s') ∧ (s'.slots[i]?).map Slot.output = some x.data ∧
      Sound (s'.release i) ∧ (s'.release i).backlog = l ∧ (s'.release i).core = s.core := by
  rcases pending_of_backlog hb with ⟨e, rest, pending, line, first, others⟩
  cases e with
  | format => cases first
  | sample i =>
    have inRange : i < s.shelf.places.size := h.shelf.inRange i (by simp [line, Event.place?])
    have lt : i < s.slots.size := by simpa [Instance.shelf] using inRange
    have held : s.slots[i]? = some s.slots[i] := Array.getElem?_eq_getElem lt
    have sample : (s.slots[i].place).sample = x := by
      simpa [Shelf.delivery, Event.place?, getElem?_places, held] using first
    subst sample
    refine ⟨{ s with pending := rest }, i, ?_, ?_, ?_, ?_, ?_⟩
    · unfold poll
      rw [pending]
      dsimp only
      rw [held]
      rfl
    · rw [held]
      rfl
    · refine ⟨?_, ?_⟩
      · rw [shelf_release]
        exact h.shelf.take_sample line
      · intro later
        rw [shelf_release] at later
        exact h.sent (by rw [line]; exact .tail _ later)
    · rw [← others]
      unfold backlog
      rw [shelf_release, Shelf.deliveries_release]
      rfl
    · rw [core_release]
      rfl

/-- Only while no place is free, or before it is started, has an instance no slot to hand out. -/
theorem queue_end {pts : Nat} (h : Sound s) (hc : s.claim = (some i, s')) :
    ∃ s'', s'.queue i 0 pts { endOfStream := true } = (.ok (), s'') ∧ Sound s'' ∧
      (s''.backlog = s.backlog ∨ s''.backlog = s.backlog ++ [.mark pts]) := by
  rcases claim_some hc with ⟨free, shelf, eq⟩
  have held : ∃ slot, s'.slots[i]? = some slot ∧ slot.busy = true := by
    rcases free with ⟨place, hi, _⟩
    rw [getElem?_places] at hi
    rcases Option.map_eq_some_iff.mp hi with ⟨slot, hslot, _⟩
    refine ⟨{ slot with busy := true }, ?_, rfl⟩
    rw [eq]
    simp [Array.getElem?_modify, hslot]
  have sent : s'.formatSent = s.formatSent := by rw [eq]
  have parameters : s'.parameters = s.parameters := by
    rw [eq]
    rfl
  rcases held with ⟨slot, hslot, busy⟩
  have queued : s'.queue i 0 pts { endOfStream := true } =
      (.ok (), if s'.echoesEnd then s'.emit i #[] pts { endOfStream := true } else s'.release i) := by
    simp [queue, hslot, busy]
  rw [queued]
  -- The marker becomes an empty sample, or its slot is given back at once.
  by_cases echoes : s'.echoesEnd
  · rw [if_pos echoes]
    have shelf' : (s'.emit i #[] pts { endOfStream := true }).shelf =
        s.shelf.put i { data := #[], info := { size := 0, pts, flags := { endOfStream := true } } } := by
      rw [shelf_emit hslot busy, shelf, Shelf.put_claim]
      rfl
    refine ⟨_, rfl, ⟨by rw [shelf']; exact h.shelf.put free _, ?_⟩, .inr ?_⟩
    · intro waits
      rw [shelf'] at waits
      have waits : none ∈ s.shelf.line := by simpa [Shelf.put] using waits
      exact sent.trans (h.sent waits)
    · unfold backlog
      rw [shelf', Shelf.deliveries_put h.shelf free]
      exact congrArg (s.shelf.deliveries · ++ _) parameters
  · rw [if_neg echoes]
    have shelf' : (s'.release i).shelf = s.shelf := by rw [shelf_release, shelf, Shelf.release_claim free]
    refine ⟨_, rfl, ⟨by rw [shelf']; exact h.shelf, ?_⟩, .inl ?_⟩
    · intro waits
      rw [shelf'] at waits
      exact sent.trans (h.sent waits)
    · unfold backlog
      rw [shelf']
      exact congrArg s.shelf.deliveries parameters

instance : Orderly Instance where
  Sound := Sound
  backlog := backlog
  core := core
  poll_nil _ h := poll_nil h
  poll_format _ h hb := by
    rcases poll_format h hb with ⟨s', poll, sent, parameters, rest⟩
    exact ⟨s', poll, by rw [← parameters]; exact if_pos sent, rest⟩
  poll_sample _ h hb := poll_sample h hb
  claim_none _ h := (claim_none h).1
  queue_end _ _ h hc := queue_end h hc

end Instance

end Camcorder.Loopback
