import Mathlib
import Camcorder.Encoding.Avc
import Camcorder.Proofs.Encoding.Shelf

/-!
# Instances of the H.264 backend in order

The output slots and the events of an instance are a shelf, so instances of the H.264 backend are orderly, whatever
their compressor. Outputs are parked one at a time; `Avc.Instance.park_of_free` is the step that all of them take.
-/

namespace Camcorder.Avc

/-- What an output slot is on the shelf. -/
def OutputSlot.place (slot : OutputSlot) : Place where
  sample := { data := slot.data, info := slot.info }
  busy := slot.inUse

/-- What an event is in the line of the shelf. -/
def Event.place? : Event → Option Nat
  | .format => none
  | .sample i => some i

namespace Instance

variable {ε : Type}

def shelf (s : Instance ε) : Shelf where
  places := s.outputs.map OutputSlot.place
  line := s.pending.map Event.place?

/-- The parameters of the stream, as far as they are settled. -/
def settled (s : Instance ε) : CodecParameters :=
  s.parameters.getD { width := 0, height := 0, sps := #[], pps := #[] }

/-- The instance without its shelf. -/
def core (s : Instance ε) : Instance ε := { s with pending := [], outputs := #[] }

/-- What holds between two requests. -/
structure Sound (s : Instance ε) : Prop where
  shelf : s.shelf.Sound
  /-- The parameters can be asked for as long as the format waits. -/
  settled : none ∈ s.shelf.line → s.parameters.isSome = true
  /-- The input slots to hand out exist. -/
  inputs : ∀ i ∈ s.freeInputs, i < s.inputs.size

/-- The outputs that wait. -/
def backlog (s : Instance ε) : List Delivery := s.shelf.deliveries s.settled

/-- What holds of the output slots between two requests while the user holds the outputs in `taken`. -/
structure Lent (s : Instance ε) (taken : List Nat) : Prop where
  shelf : s.shelf.Lent taken
  /-- The parameters can be asked for as long as the format waits. -/
  settled : none ∈ s.shelf.line → s.parameters.isSome = true

/-- What an instance went through when the outputs `l` were pushed, `taken` being held by the user. -/
structure Pushed (taken : List Nat) (s : Instance ε) (l : List Delivery) (s' : Instance ε) : Prop where
  lent : s'.Lent taken
  backlog : s'.backlog = s.backlog ++ l
  /-- What the user holds is not touched. -/
  kept : ∀ i ∈ taken, s'.shelf.places[i]? = s.shelf.places[i]?
  /-- The format is announced when the parameters are settled, and only then. -/
  announced : s'.parameters.isSome.toNat = s.parameters.isSome.toNat + Delivery.formats l
  others : s' = { s with outputs := s'.outputs, pending := s'.pending, parameters := s'.parameters }

variable {s s' : Instance ε} {i : Nat} {taken : List Nat} {l : List Delivery}

/-- Between two requests of a session nothing is held. -/
theorem Sound.lent (h : Sound s) : s.Lent [] := ⟨Shelf.lent_nil.mpr h.shelf, h.settled⟩

/-- Whether an instance is sound depends on its slots alone. -/
theorem Sound.of_lent (h : Sound s) (lent : s'.Lent []) (inputs : s'.inputs = s.inputs)
    (freeInputs : s'.freeInputs = s.freeInputs) : Sound s' := by
  refine ⟨Shelf.lent_nil.mp lent.shelf, lent.settled, ?_⟩
  rw [inputs, freeInputs]
  exact h.inputs

/-- What is pushed keeps an instance sound. -/
theorem Sound.pushed (h : Sound s) (pushed : Pushed [] s l s') : Sound s' :=
  h.of_lent pushed.lent (by rw [pushed.others]) (by rw [pushed.others])

/-! ## Parking -/

theorem getElem?_places (s : Instance ε) (i : Nat) : s.shelf.places[i]? = (s.outputs[i]?).map OutputSlot.place :=
  Array.getElem?_map

/-- While an output slot is free, an output can be parked, and takes that slot. -/
theorem park_of_free (free : 0 < s.freeOutputs) (data : Bytes) (pts : Nat) (flags : SampleFlags) :
    ∃ i s', s.park data pts flags = (.ok (), s') ∧ s.shelf.IsFree i ∧
      s'.shelf = s.shelf.put i { data, info := { size := data.size, pts, flags } } ∧
      s'.freeOutputs + 1 = s.freeOutputs ∧
      s' = { s with outputs := s'.outputs, pending := s'.pending } := by
  cases hi : s.outputs.findIdx? (!·.inUse) with
  | none =>
    -- Some slot is free, so it would have been found.
    exfalso
    have all := Array.findIdx?_eq_none_iff.mp hi
    rcases Array.countP_pos_iff.mp free with ⟨slot, hs, notInUse⟩
    rw [all slot hs] at notInUse
    cases notInUse
  | some i =>
    rcases Array.findIdx?_eq_some_iff_getElem.mp hi with ⟨lt, notInUse, _⟩
    refine ⟨i, { s with
      outputs := s.outputs.modify i fun _ => { data, info := { size := data.size, pts, flags }, inUse := true }
      pending := s.pending ++ [.sample i] }, ?_, ?_, ?_, ?_, rfl⟩
    · unfold park
      rw [hi]
    · refine ⟨(s.outputs[i]).place, ?_, ?_⟩
      · rw [getElem?_places, Array.getElem?_eq_getElem lt]
        rfl
      · rwa [Bool.not_eq_true'] at notInUse
    · apply Shelf.ext
      · dsimp only [Instance.shelf, Shelf.put]
        exact Shelf.map_modify s.outputs i fun _ _ => rfl
      · exact List.map_append
    · exact Shelf.countP_modify lt notInUse rfl

/-- With an output slot free, an output is pushed, and there is one free slot less. -/
theorem Lent.park_free (h : s.Lent taken) (free : 0 < s.freeOutputs) (data : Bytes) (pts : Nat) (flags : SampleFlags) :
    ∃ s', s.park data pts flags = (.ok (), s') ∧ s'.freeOutputs + 1 = s.freeOutputs ∧
      s'.parameters = s.parameters ∧
      Pushed taken s [.sample { data, info := { size := data.size, pts, flags } }] s' := by
  obtain ⟨i, s', parked, isFree, shelf, fewer, others⟩ := park_of_free free data pts flags
  have parameters : s'.parameters = s.parameters := by rw [others]
  refine ⟨s', parked, fewer, parameters, ⟨?_, ?_⟩, ?_, ?_, ?_, ?_⟩
  · rw [shelf]
    exact h.shelf.put isFree _
  · intro waits
    have waits : none ∈ s.shelf.line := by simpa [shelf, Shelf.put] using waits
    rw [parameters]
    exact h.settled waits
  · unfold backlog Instance.settled
    rw [shelf, parameters, h.shelf.deliveries_put isFree]
  · intro j hj
    rw [shelf]
    exact h.shelf.places_put isFree _ hj
  · rw [parameters]
    rfl
  · rw [others]

/-- A released slot is free on the shelf. -/
theorem shelf_release (s : Instance ε) (i : Nat) : (s.release i).shelf = s.shelf.release i := by
  apply Shelf.ext
  · dsimp only [Instance.shelf, release, Shelf.release]
    exact Shelf.map_modify s.outputs i fun _ _ => rfl
  · rfl

/-! ## Order -/

/-- A poll takes nothing if nothing waits. -/
theorem poll_nil (h : s.backlog = []) : s.poll = (.nothing, s) := by
  have none : s.pending = [] := by simpa [backlog, Shelf.deliveries, Instance.shelf] using h
  unfold poll
  rw [none]

/-- What comes first in the line is what a poll answers with. -/
theorem pending_of_backlog {d : Delivery} {l : List Delivery} (h : s.backlog = d :: l) :
    ∃ e rest, s.pending = e :: rest ∧ s.shelf.line = e.place? :: rest.map Event.place? ∧
      s.shelf.delivery s.settled e.place? = d ∧ ({ s with pending := rest } : Instance ε).backlog = l := by
  rcases Shelf.deliveries_eq_cons h with ⟨p, places, line, first, others⟩
  rcases List.map_eq_cons_iff.mp line with ⟨e, rest, pending, rfl, rfl⟩
  exact ⟨e, rest, pending, line, first, others⟩

/-- When the format comes first, a poll takes it out of the line. -/
theorem Lent.poll_format {q : CodecParameters} (h : s.Lent taken) (hb : s.backlog = .format q :: l) :
    ∃ s', s.poll = (.format, s') ∧ s'.parameters = some q ∧ s'.Lent taken ∧ s'.backlog = l ∧
      s' = { s with pending := s'.pending } := by
  rcases pending_of_backlog hb with ⟨e, rest, pending, line, first, others⟩
  cases e with
  | sample i => cases first
  | format =>
    cases first
    refine ⟨{ s with pending := rest }, ?_, ?_, ⟨h.shelf.take_format line, ?_⟩, others, rfl⟩
    · unfold poll
      rw [pending]
    · rcases Option.isSome_iff_exists.mp (h.settled (by simp [line, Event.place?])) with ⟨q, hq⟩
      dsimp only [Instance.settled]
      rw [hq]
      rfl
    · intro later
      exact h.settled (by rw [line]; exact .tail _ later)

/-- When a sample comes first, a poll hands out its slot, which goes on to hold it. -/
theorem Lent.poll_sample {x : Sample} (h : s.Lent taken) (hb : s.backlog = .sample x :: l) :
    ∃ s' i, s.poll = (.sample i x.info, s') ∧ s'.shelf.places[i]? = some { sample := x, busy := true } ∧
      s'.Lent (i :: taken) ∧ s'.backlog = l ∧ s' = { s with pending := s'.pending } := by
  rcases pending_of_backlog hb with ⟨e, rest, pending, line, first, others⟩
  cases e with
  | format => cases first
  | sample i =>
    have waits : some i ∈ s.shelf.line := by simp [line, Event.place?]
    have lt : i < s.outputs.size := by simpa [Instance.shelf] using h.shelf.inRange i (.inl waits)
    have place : s.shelf.places[i]? = some (s.outputs[i]).place := by
      rw [getElem?_places, Array.getElem?_eq_getElem lt]
      rfl
    have busy : (s.outputs[i]).place.busy = true := (h.shelf.busy i _ place).mpr (.inl waits)
    have sample : (s.outputs[i]).place.sample = x := by simpa [Shelf.delivery, Event.place?, place] using first
    subst sample
    refine ⟨{ s with pending := rest }, i, ?_, ?_, ⟨h.shelf.take_sample line, ?_⟩, others, rfl⟩
    · unfold poll
      rw [pending]
      dsimp only
      rw [Array.getElem?_eq_getElem lt]
      rfl
    · rw [← busy]
      exact place
    · intro later
      exact h.settled (by rw [line]; exact .tail _ later)

/-- A place of the shelf that is busy is an output slot in use. -/
theorem outputs_of_place {x : Sample} (h : s.shelf.places[i]? = some { sample := x, busy := true }) :
    s.outputs[i]? = some { data := x.data, info := x.info, inUse := true } := by
  rw [getElem?_places] at h
  rcases Option.map_eq_some_iff.mp h with ⟨⟨data, info, inUse⟩, held, place⟩
  cases place
  exact held

theorem output?_of_place {x : Sample} (h : s.shelf.places[i]? = some { sample := x, busy := true }) :
    s.output? i = some x.data := by
  unfold output?
  rw [outputs_of_place h]
  rfl

/-- An output that is given back frees its slot, and nothing else changes. -/
theorem Lent.release (h : s.Lent taken) (hi : i ∈ taken) :
    (s.release i).Lent (taken.erase i) ∧ (s.release i).backlog = s.backlog := by
  refine ⟨⟨?_, ?_⟩, ?_⟩
  · rw [shelf_release]
    exact h.shelf.release hi
  · intro waits
    rw [shelf_release] at waits
    exact h.settled waits
  · unfold backlog
    rw [shelf_release, Shelf.deliveries_release]
    rfl

/-- A poll takes the format if that waits first, and leaves the rest. -/
theorem poll_format {q : CodecParameters} (h : Sound s) (hb : s.backlog = .format q :: l) :
    ∃ s', s.poll = (.format, s') ∧ s'.parameters = some q ∧ Sound s' ∧ s'.backlog = l ∧ s'.core = s.core := by
  rcases h.lent.poll_format hb with ⟨s', polled, parameters, lent, backlog, others⟩
  refine ⟨s', polled, parameters, h.of_lent lent ?_ ?_, backlog, ?_⟩ <;> rw [others]
  rfl

/-- A poll takes the sample that waits first, and leaves the rest once its slot is released. -/
theorem poll_sample {x : Sample} (h : Sound s) (hb : s.backlog = .sample x :: l) :
    ∃ s' i, s.poll = (.sample i x.info, s') ∧ s'.output? i = some x.data ∧
      Sound (s'.release i) ∧ (s'.release i).backlog = l ∧ (s'.release i).core = s.core := by
  rcases h.lent.poll_sample hb with ⟨s', i, polled, place, lent, backlog, others⟩
  obtain ⟨lent', backlog'⟩ := lent.release (i := i) List.mem_cons_self
  rw [List.erase_cons_head] at lent'
  refine ⟨s', i, polled, output?_of_place place, h.of_lent lent' ?_ ?_, backlog'.trans backlog, ?_⟩
  all_goals rw [others]; rfl

/-- A claim that gets no slot changes nothing. -/
theorem claim_none (h : s.claim = (none, s')) : s' = s := by
  unfold claim at h
  split at h
  · cases h
    rfl
  · split at h <;> cases h
    rfl

/-- A slot is handed out only while there is room for two outputs. -/
theorem claim_some (h : s.claim = (some i, s')) :
    2 ≤ s.freeOutputs ∧ ∃ rest, s.freeInputs = i :: rest ∧ s' = { s with
      freeInputs := rest, inputs := s.inputs.modify i fun slot => { slot with claimed := true } } := by
  unfold claim at h
  split at h
  · cases h
  · rename_i open'
    split at h
    · cases h
    · rename_i j rest free
      cases h
      refine ⟨?_, rest, free, rfl⟩
      have few : (decide (s.freeOutputs < outputsPerInput)) = false := by
        cases hd : decide (s.freeOutputs < outputsPerInput) with
        | false => rfl
        | true => simp [hd] at open'
      exact Nat.not_lt.mp (of_decide_eq_false few)

/-- A slot that was handed out: it exists, the user holds it, and nothing else has changed. -/
theorem Sound.claimed (h : Sound s) (hc : s.claim = (some i, s')) :
    Sound s' ∧ i < s'.inputs.size ∧ s'.backlog = s.backlog ∧
      ∃ slot, s.inputs[i]? = some slot ∧ s'.inputs[i]? = some { slot with claimed := true } := by
  rcases claim_some hc with ⟨_, rest, free, rfl⟩
  have lt : i < s.inputs.size := h.inputs i (by rw [free]; exact .head _)
  refine ⟨⟨h.shelf, h.settled, ?_⟩, ?_, rfl, s.inputs[i], Array.getElem?_eq_getElem lt, ?_⟩
  · intro j hj
    rw [Array.size_modify]
    exact h.inputs j (by rw [free]; exact .tail _ hj)
  · rwa [Array.size_modify]
  · rw [Array.getElem?_modify, if_pos rfl, Array.getElem?_eq_getElem lt]
    rfl

/-- An input slot that is given back keeps the instance sound. -/
theorem Sound.giveBack (h : Sound s) (lt : i < s.inputs.size) : Sound (s.giveBack i) := by
  refine ⟨h.shelf, h.settled, ?_⟩
  intro j hj
  unfold Instance.giveBack
  rw [Array.size_modify]
  rcases List.mem_cons.mp hj with rfl | hj
  · exact lt
  · exact h.inputs j hj

/-- While a slot is handed out, there is room for the marker that ends the stream. -/
theorem queue_end [Compressor ε] {pts : Nat} (h : Sound s) (hc : s.claim = (some i, s')) :
    ∃ s'', s'.queue i 0 pts { endOfStream := true } = (.ok (), s'') ∧ Sound s'' ∧
      s''.backlog = s.backlog ++ [.mark pts] := by
  rcases h.claimed hc with ⟨sound, lt, backlog, slot, _, held⟩
  -- The two slots kept for a picture are more than the marker needs.
  have free : 0 < ({ s' with endQueued := true } : Instance ε).freeOutputs := by
    rcases claim_some hc with ⟨two, _, _, rfl⟩
    exact Nat.lt_of_lt_of_le Nat.two_pos two
  have sound' : Sound { s' with endQueued := true } := ⟨sound.shelf, sound.settled, sound.inputs⟩
  rcases sound'.lent.park_free free #[] pts { endOfStream := true } with ⟨s₂, parked, _, _, pushed⟩
  have queued : s'.queue i 0 pts { endOfStream := true } = (.ok (), s₂.giveBack i) := by
    have buffer : s'.buffer? i = some slot.data := by
      unfold buffer?
      rw [held]
      rfl
    unfold queue
    rw [buffer]
    simp only [if_true, parked]
  refine ⟨_, queued, (sound'.pushed pushed).giveBack (by rw [pushed.others]; exact lt), ?_⟩
  rw [← backlog]
  exact pushed.backlog

instance [Compressor ε] : Orderly (Instance ε) where
  Sound := Sound
  backlog := backlog
  core := core
  poll_nil _ h := poll_nil h
  poll_format _ h hb := poll_format h hb
  poll_sample _ h hb := poll_sample h hb
  claim_none _ h := claim_none h
  queue_end _ _ h hc := by
    rcases queue_end h hc with ⟨s'', queued, sound, backlog⟩
    exact ⟨s'', queued, sound, .inr backlog⟩

end Instance

end Camcorder.Avc
