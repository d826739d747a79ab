import Mathlib
import Camcorder.Proofs.Encoding.AvcRuns
import Camcorder.Proofs.Encoding.OutputRoom

/-!
# The slots of an instance in use

An instance of the H.264 backend keeps two pools of slots, and keeps book of them in two ways: a list of the input slots
to hand out beside a mark in each slot, and marks in the output slots beside the line of those that wait to be taken.
A `Watched` instance is one whose uses are recorded. `Pools` says how the books agree with each other and with the
record, and `pools_of_run` that they do so after every sequence of uses that the protocol allows.
-/

namespace Camcorder.Avc

namespace Instance

variable {ε : Type} {s s' : Instance ε} {i : Nat} {claimed taken : List Nat}

/-! ## What is pushed -/

/-- The outputs that come of what is queued, if there are slots for all of them. -/
def products [Compressor ε] (s : Instance ε) (slot len pts : Nat) (flags : SampleFlags) : List Delivery :=
  match s.buffer? slot with
  | none => []
  | some picture =>
    if flags.endOfStream then [.mark pts]
    else if len ≠ s.length then []
    else match Planes.ofPicture? s.format.layout s.format.width s.format.height picture with
      | none => []
      | some planes =>
        match Compressor.encode s.compressor planes with
        | (none, _) => []
        | (some unit, _) => yield s.format.geometry s.parameters.isSome (unit, pts)

/-- The outputs that are pushed for what is queued. -/
def pushes [Compressor ε] (s : Instance ε) (slot len pts : Nat) (flags : SampleFlags) : List Delivery :=
  fitting s.freeOutputs (s.products slot len pts flags)

/-- Whatever is queued in a slot that the user holds, and however that ends: the outputs are pushed for which there are
slots, and then the input slot is taken back. -/
theorem Lent.queue [Compressor ε] (h : s.Lent taken) {picture : Bytes} (held : s.buffer? i = some picture)
    (len pts : Nat) (flags : SampleFlags) :
    ∃ compressor endQueued s', Pushed taken { s with compressor, endQueued } (s.pushes i len pts flags) s' ∧
      (s.queue i len pts flags).2 = s'.giveBack i := by
  -- Neither the compressor nor the mark of the end has to do with the output slots.
  have lent (compressor : ε) (endQueued : Bool) : ({ s with compressor, endQueued } : Instance ε).Lent taken :=
    ⟨h.shelf, h.settled⟩
  unfold Instance.queue pushes products
  rw [held]
  dsimp only
  by_cases last : flags.endOfStream = true
  · rw [if_pos last, if_pos last]
    have offered := (lent s.compressor true).park #[] pts { endOfStream := true }
    exact ⟨s.compressor, true, _, offered.pushed, rfl⟩
  rw [if_neg last, if_neg last]
  by_cases wrong : len ≠ s.length
  · rw [if_pos wrong, if_pos wrong, fitting_nil]
    exact ⟨s.compressor, s.endQueued, s, .refl h, rfl⟩
  rw [if_neg wrong, if_neg wrong]
  unfold encode
  cases Planes.ofPicture? s.format.layout s.format.width s.format.height picture with
  | none =>
    dsimp only
    rw [fitting_nil]
    exact ⟨s.compressor, s.endQueued, s, .refl h, rfl⟩
  | some planes =>
    dsimp only
    rcases Compressor.encode s.compressor planes with ⟨_ | unit, compressor⟩
    · dsimp only
      rw [fitting_nil]
      exact ⟨compressor, s.endQueued, _, .refl (lent compressor s.endQueued), rfl⟩
    · have offered := (lent compressor s.endQueued).take unit pts
      exact ⟨compressor, s.endQueued, _, offered.pushed, rfl⟩

/-! ## Input slots -/

/-- Each input slot can be claimed or is held by the user, who holds those in `claimed`. -/
structure Shared (s : Instance ε) (claimed : List Nat) : Prop where
  free_nodup : s.freeInputs.Nodup
  free_iff : ∀ i, i ∈ s.freeInputs ↔ (s.inputs[i]?).map InputSlot.claimed = some false
  claimed_nodup : claimed.Nodup
  claimed_iff : ∀ i, i ∈ claimed ↔ (s.inputs[i]?).map InputSlot.claimed = some true

theorem map_claimed_modify (a : Array InputSlot) (i j : Nat) (b : Bool) :
    ((a.modify i fun slot => { slot with claimed := b })[j]?).map InputSlot.claimed =
      if i = j then (a[j]?).map fun _ => b else (a[j]?).map InputSlot.claimed := by
  rw [Array.getElem?_modify]
  split
  · cases a[j]? <;> rfl
  · rfl

/-- A claimed slot goes to the user. -/
theorem Shared.claim (h : s.Shared claimed) (hc : s.claim = (some i, s')) : s'.Shared (i :: claimed) := by
  obtain ⟨_, rest, free, rfl⟩ := claim_some hc
  have nodup := h.free_nodup
  rw [free] at nodup
  obtain ⟨alone, rest_nodup⟩ := List.nodup_cons.mp nodup
  -- The slot that is handed out stood first in the list, so it exists and is not marked yet.
  have idle : (s.inputs[i]?).map InputSlot.claimed = some false := (h.free_iff i).mp (by rw [free]; exact .head _)
  obtain ⟨slot, exists', _⟩ := Option.map_eq_some_iff.mp idle
  have new : i ∉ claimed := by
    rw [h.claimed_iff, idle]
    simp
  refine ⟨rest_nodup, ?_, List.nodup_cons.mpr ⟨new, h.claimed_nodup⟩, ?_⟩
  · intro j
    rw [map_claimed_modify]
    split
    · rename_i same
      subst same
      simp [alone, exists']
    · rename_i other
      rw [← h.free_iff j, free, List.mem_cons, or_iff_right (Ne.symm other)]
  · intro j
    rw [map_claimed_modify]
    split
    · rename_i same
      subst same
      simp [exists']
    · rename_i other
      rw [← h.claimed_iff j, List.mem_cons, or_iff_right (Ne.symm other)]

/-- A slot that is given back is no longer with the user. -/
theorem Shared.giveBack (h : s.Shared claimed) (hi : i ∈ claimed) : (s.giveBack i).Shared (claimed.erase i) := by
  have held := (h.claimed_iff i).mp hi
  obtain ⟨slot, exists', _⟩ := Option.map_eq_some_iff.mp held
  have new : i ∉ s.freeInputs := by
    rw [h.free_iff, held]
    simp
  unfold Instance.giveBack
  refine ⟨List.nodup_cons.mpr ⟨new, h.free_nodup⟩, ?_, h.claimed_nodup.erase i, ?_⟩
  · intro j
    rw [map_claimed_modify]
    split
    · rename_i same
      subst same
      simp [exists']
    · rename_i other
      rw [← h.free_iff j, List.mem_cons, or_iff_right (Ne.symm other)]
  · intro j
    rw [map_claimed_modify, h.claimed_nodup.mem_erase_iff]
    split
    · rename_i same
      subst same
      simp [exists']
    · rename_i other
      rw [← h.claimed_iff j, and_iff_right (Ne.symm other)]

/-- What is in a slot does not matter to who has it. -/
theorem Shared.fill (h : s.Shared claimed) (i : Nat) (data : Bytes) : (s.fill i data).Shared claimed := by
  have same (j : Nat) : ((s.fill i data).inputs[j]?).map InputSlot.claimed = (s.inputs[j]?).map InputSlot.claimed := by
    unfold Instance.fill
    rw [Array.getElem?_modify]
    split
    · cases s.inputs[j]? with
      | none => rfl
      | some slot =>
        dsimp only [Option.map_some]
        split <;> rfl
    · rfl
  refine ⟨h.free_nodup, ?_, h.claimed_nodup, ?_⟩
  · intro j
    rw [same]
    exact h.free_iff j
  · intro j
    rw [same]
    exact h.claimed_iff j

theorem Shared.congr (h : s.Shared claimed) (inputs : s'.inputs = s.inputs)
    (freeInputs : s'.freeInputs = s.freeInputs) : s'.Shared claimed := by
  obtain ⟨free_nodup, free_iff, claimed_nodup, claimed_iff⟩ := h
  rw [← inputs] at free_iff claimed_iff
  rw [← freeInputs] at free_nodup free_iff
  exact ⟨free_nodup, free_iff, claimed_nodup, claimed_iff⟩

/-- The user can read and queue what the user holds. -/
theorem Shared.buffer? (h : s.Shared claimed) (hi : i ∈ claimed) : ∃ picture, s.buffer? i = some picture := by
  obtain ⟨slot, exists', held⟩ := Option.map_eq_some_iff.mp ((h.claimed_iff i).mp hi)
  refine ⟨slot.data, ?_⟩
  unfold Instance.buffer?
  rw [exists']
  exact if_pos held

/-! ## Answers -/

/-- Every picture that fills an input slot has all its planes. -/
def Whole (s : Instance ε) : Prop :=
  ∀ slot ∈ s.inputs, ∀ picture : Bytes, picture.size = slot.data.size →
    (Planes.ofPicture? s.format.layout s.format.width s.format.height picture).isSome = true

theorem Whole.congr (h : s.Whole) (format : s'.format = s.format) (inputs : s'.inputs = s.inputs) : s'.Whole := by
  unfold Whole
  rw [format, inputs]
  exact h

/-- A slot may be written to as long as its size stays. -/
theorem Whole.modify (h : s.Whole) (i : Nat) (g : InputSlot → InputSlot)
    (keeps : ∀ slot, (g slot).data.size = slot.data.size) :
    ({ s with inputs := s.inputs.modify i g } : Instance ε).Whole := by
  intro slot hs picture fits
  obtain ⟨j, hj⟩ := Array.mem_iff_getElem?.mp hs
  have old : ∃ old ∈ s.inputs, slot.data.size = old.data.size := by
    rw [Array.getElem?_modify] at hj
    split at hj
    · obtain ⟨old, held, rfl⟩ := Option.map_eq_some_iff.mp hj
      exact ⟨old, Array.mem_of_getElem? held, keeps old⟩
    · exact ⟨slot, Array.mem_of_getElem? hj, rfl⟩
  obtain ⟨old, held, size⟩ := old
  exact h old held picture (fits.trans size)

theorem park_answers (s : Instance ε) (data : Bytes) (pts : Nat) (flags : SampleFlags) (f : Fault) :
    (s.park data pts flags).1 ≠ .error (.fault f) := by
  intro broke
  unfold park at broke
  split at broke <;> cases broke

theorem settle_answers (s : Instance ε) (data : Bytes) (pts : Nat) (f : Fault) :
    (s.settle data pts).1 ≠ .error (.fault f) := by
  unfold settle
  split
  · nofun
  · split
    · nofun
    · exact park_answers _ _ _ _ f

/-- An access unit is taken or refused, without a breakdown. -/
theorem take_answers (s : Instance ε) (unit : AccessUnit) (pts : Nat) (f : Fault) :
    (s.take unit pts).1 ≠ .error (.fault f) := by
  have settled := s.settle_answers unit.data pts f
  unfold take
  split
  · nofun
  · split
    · rename_i failure s₁ refused
      rw [refused] at settled
      exact settled
    · exact park_answers _ _ _ _ f

/-- Whatever is queued, an instance whose input slots hold whole pictures goes on. -/
theorem Whole.queue_answers [Compressor ε] (h : s.Whole) (i len pts : Nat) (flags : SampleFlags) (f : Fault) :
    (s.queue i len pts flags).1 ≠ .error (.fault f) := by
  unfold Instance.queue
  cases held : s.buffer? i with
  | none => nofun
  | some picture =>
    dsimp only
    split
    · exact park_answers _ _ _ _ f
    split
    · nofun
    have whole : (Planes.ofPicture? s.format.layout s.format.width s.format.height picture).isSome = true := by
      unfold Instance.buffer? at held
      obtain ⟨slot, exists', data⟩ := Option.bind_eq_some_iff.mp held
      split at data
      · cases data
        exact h slot (Array.mem_of_getElem? exists') slot.data rfl
      · cases data
    obtain ⟨planes, cut⟩ := Option.isSome_iff_exists.mp whole
    unfold encode
    rw [cut]
    dsimp only
    rcases Compressor.encode s.compressor planes with ⟨_ | unit, compressor⟩
    · nofun
    · exact take_answers _ unit pts f

end Instance

/-! ## Instances that are watched -/

open Instance

/-- An instance in use, and a record of its outputs. -/
structure Watched (ε : Type) where
  user : SlotUser (Instance ε)
  /-- The outputs that were pushed, in order. -/
  pushed : List Delivery := []
  /-- The outputs that the user was given, in order, as the user found them. -/
  polled : List Delivery := []
  /-- The outputs that the user was given and did not release yet, with their slots. -/
  held : List (Nat × Sample) := []

namespace Watched

variable {ε : Type} [Compressor ε] {w : Watched ε} {most : Nat}

/-- One use. An output is recorded as pushed when its picture is queued, and as polled when the user takes it, with the
bytes that the user finds in its slot. -/
def step (w : Watched ε) (use : SlotUse) : Watched ε :=
  let user := w.user.step use
  match use with
  | .queue slot len pts flags => { w with user, pushed := w.pushed ++ w.user.source.pushes slot len pts flags }
  | .poll wait =>
    match Coder.poll w.user.source wait with
    | (.nothing, _) => { w with user }
    | (.format, s) => { w with user, polled := w.polled ++ [.format s.settled] }
    | (.sample slot info, s) =>
      let x : Sample := { data := (Coder.slot? s slot).getD #[], info }
      { w with user, polled := w.polled ++ [.sample x], held := (slot, x) :: w.held }
  | .release slot => { w with user, held := w.held.filter fun output => output.1 ≠ slot }
  | _ => { w with user }

def run (w : Watched ε) (uses : List SlotUse) : Watched ε := uses.foldl step w

/-- The record is kept on the side. -/
theorem user_step (w : Watched ε) (use : SlotUse) : (w.step use).user = w.user.step use := by
  unfold step
  cases use with
  | poll wait =>
    dsimp only
    split <;> rfl
  | _ => rfl

theorem user_run (w : Watched ε) (uses : List SlotUse) : (w.run uses).user = w.user.run uses := by
  induction uses generalizing w with
  | nil => rfl
  | cons use uses ih =>
    have first := ih (w.step use)
    rw [user_step] at first
    exact first

/-! ## What the uses preserve -/

/-- The invariant: what holds of a watched instance between two uses. -/
structure Kept (w : Watched ε) : Prop where
  inputs : w.user.source.Shared w.user.claimed
  whole : w.user.source.Whole
  lent : w.user.source.Lent w.user.taken
  held : w.held.map Prod.fst = w.user.taken
  carried : ∀ output ∈ w.held, .sample output.2 ∈ w.polled ∧
    w.user.source.shelf.places[output.1]? = some { sample := output.2, busy := true }
  ordered : w.pushed = w.polled ++ w.user.source.backlog
  announced : Delivery.formats w.pushed = w.user.source.parameters.isSome.toNat

omit [Compressor ε] in
/-- Changes of the input slots alone. -/
theorem Kept.with_inputs (h : Kept w) {source : Instance ε} {claimed : List Nat} (inputs : source.Shared claimed)
    (whole : source.Whole)
    (others : source = { w.user.source with
      inputs := source.inputs, freeInputs := source.freeInputs, started := source.started }) :
    Kept { w with user := { w.user with source, claimed } } := by
  have shelf : source.shelf = w.user.source.shelf := by rw [others]; rfl
  have parameters : source.parameters = w.user.source.parameters := by rw [others]
  have backlog : source.backlog = w.user.source.backlog := by rw [others]; rfl
  refine ⟨inputs, whole, ⟨?_, ?_⟩, h.held, ?_, ?_, ?_⟩
  · rw [shelf]
    exact h.lent.shelf
  · rw [shelf, parameters]
    exact h.lent.settled
  · rw [shelf]
    exact h.carried
  · rw [backlog]
    exact h.ordered
  · rw [parameters]
    exact h.announced

/-- The slots stay accounted for when one is claimed. -/
theorem Kept.claim (h : Kept w) (wait : Nat) : Kept (w.step (.claim wait)) := by
  unfold Watched.step SlotUser.step
  dsimp only
  rcases hc : Coder.claim w.user.source wait with ⟨_ | i, source⟩
  · have same := claim_none hc
    subst same
    exact h
  · have inputs := h.inputs.claim hc
    obtain ⟨_, rest, _, rfl⟩ := claim_some hc
    have whole := h.whole.modify i (fun slot => { slot with claimed := true }) fun _ => rfl
    exact h.with_inputs inputs whole rfl

theorem Kept.fill (h : Kept w) (slot : Nat) (data : Bytes) : Kept (w.step (.fill slot data)) := by
  have whole : (w.user.source.fill slot data).Whole := by
    apply h.whole.modify
    intro slot
    split
    · exact Bytes.size_overwrite ..
    · rfl
  exact h.with_inputs (h.inputs.fill slot data) whole rfl

/-- The slots stay accounted for when one is queued that the user has. -/
theorem Kept.queue (h : Kept w) {slot : Nat} (held : slot ∈ w.user.claimed) (len pts : Nat) (flags : SampleFlags) :
    Kept (w.step (.queue slot len pts flags)) := by
  obtain ⟨picture, buffer⟩ := h.inputs.buffer? held
  obtain ⟨compressor, endQueued, s', pushed, queued⟩ := h.lent.queue buffer len pts flags
  have inputs : s'.inputs = w.user.source.inputs := by rw [pushed.others]
  have freeInputs : s'.freeInputs = w.user.source.freeInputs := by rw [pushed.others]
  have format : s'.format = w.user.source.format := by rw [pushed.others]
  have source : (w.step (.queue slot len pts flags)).user.source = s'.giveBack slot := queued
  refine ⟨?_, ?_, ?_, h.held, ?_, ?_, ?_⟩
  · rw [source]
    exact (h.inputs.congr inputs freeInputs).giveBack held
  · rw [source]
    have whole : s'.Whole := h.whole.congr format inputs
    exact whole.modify slot (fun slot => { slot with claimed := false }) fun _ => rfl
  · rw [source]
    exact ⟨pushed.lent.shelf, pushed.lent.settled⟩
  · intro output ho
    rw [source]
    refine ⟨(h.carried output ho).1, ?_⟩
    -- What the user holds was not touched.
    have taken : output.1 ∈ w.user.taken := by
      rw [← h.held]
      exact List.mem_map_of_mem ho
    exact (pushed.kept output.1 taken).trans (h.carried output ho).2
  · -- What was pushed now waits behind what waited before.
    rw [source]
    change w.pushed ++ w.user.source.pushes slot len pts flags = w.polled ++ s'.backlog
    rw [pushed.backlog, h.ordered, List.append_assoc]
    rfl
  · rw [source]
    change Delivery.formats (w.pushed ++ w.user.source.pushes slot len pts flags) = s'.parameters.isSome.toNat
    rw [pushed.announced, ← h.announced]
    unfold Delivery.formats
    rw [List.countP_append]

omit [Compressor ε] in
/-- The output `d` was taken out of the line. The user holds what was held before, and `d` if it is a sample. -/
theorem Kept.with_taken (h : Kept w) {s' : Instance ε} {d : Delivery} {l : List Delivery} {taken : List Nat}
    {held : List (Nat × Sample)} (first : w.user.source.backlog = d :: l) (rest : s'.backlog = l)
    (others : s' = { w.user.source with pending := s'.pending }) (lent : s'.Lent taken)
    (slots : held.map Prod.fst = taken)
    (outputs : ∀ output ∈ held, output ∈ w.held ∨
      d = .sample output.2 ∧ s'.shelf.places[output.1]? = some { sample := output.2, busy := true }) :
    Kept { w with user := { w.user with source := s', taken }, polled := w.polled ++ [d], held } := by
  have places : s'.shelf.places = w.user.source.shelf.places := by rw [others]; rfl
  refine ⟨h.inputs.congr (by rw [others]) (by rw [others]), h.whole.congr (by rw [others]) (by rw [others]), lent, slots,
    ?_, ?_, ?_⟩
  · intro output ho
    rcases outputs output ho with old | ⟨rfl, place⟩
    · obtain ⟨given, carried⟩ := h.carried output old
      refine ⟨List.mem_append_left _ given, ?_⟩
      rw [places]
      exact carried
    · exact ⟨by simp, place⟩
  · change w.pushed = w.polled ++ [d] ++ s'.backlog
    rw [h.ordered, first, rest, List.append_assoc]
    rfl
  · rw [others]
    exact h.announced

/-- The slots stay accounted for in a poll. -/
theorem Kept.poll (h : Kept w) (wait : Nat) : Kept (w.step (.poll wait)) := by
  cases hb : w.user.source.backlog with
  | nil =>
    have polled : Coder.poll w.user.source wait = (.nothing, w.user.source) := poll_nil hb
    unfold Watched.step SlotUser.step
    dsimp only
    rw [polled]
    exact h
  | cons d l =>
    cases d with
    | format q =>
      obtain ⟨s', polled, parameters, lent, rest, others⟩ := h.lent.poll_format hb
      have polled : Coder.poll w.user.source wait = (.format, s') := polled
      have settled : s'.settled = q := by
        unfold settled
        rw [parameters]
        rfl
      unfold Watched.step SlotUser.step
      dsimp only
      rw [polled]
      dsimp only
      rw [settled]
      exact h.with_taken hb rest others lent h.held fun output ho => .inl ho
    | sample x =>
      -- The user finds in the slot what waited for it, and from now on holds it.
      obtain ⟨s', i, polled, place, lent, rest, others⟩ := h.lent.poll_sample hb
      have polled : Coder.poll w.user.source wait = (.sample i x.info, s') := polled
      have found : Coder.slot? s' i = some x.data := output?_of_place place
      unfold Watched.step SlotUser.step
      dsimp only
      rw [polled]
      dsimp only
      rw [found]
      refine h.with_taken hb rest others lent (congrArg (i :: ·) h.held) ?_
      intro output ho
      rcases List.mem_cons.mp ho with rfl | old
      · exact .inr ⟨rfl, place⟩
      · exact .inl old

/-- The slots stay accounted for when one is released that the user has taken. -/
theorem Kept.release (h : Kept w) {slot : Nat} (held : slot ∈ w.user.taken) : Kept (w.step (.release slot)) := by
  obtain ⟨lent, backlog⟩ := h.lent.release held
  refine ⟨h.inputs.congr rfl rfl, h.whole, lent, ?_, ?_, ?_, h.announced⟩
  · change (w.held.filter fun output => output.1 ≠ slot).map Prod.fst = w.user.taken.erase slot
    rw [h.lent.shelf.nodup.erase_eq_filter, ← h.held, List.filter_map]
    simp [Function.comp_def, bne, beq_eq_decide]
  · intro output ho
    obtain ⟨there, other⟩ := List.mem_filter.mp ho
    obtain ⟨given, carried⟩ := h.carried output there
    refine ⟨given, ?_⟩
    -- Another slot is freed than that of the output.
    have other : slot ≠ output.1 := Ne.symm (of_decide_eq_true other)
    change (w.user.source.release slot).shelf.places[output.1]? = _
    rw [shelf_release, ← carried]
    simp only [Shelf.release, Array.getElem?_modify, if_neg other]
  · exact h.ordered.trans (congrArg _ backlog.symm)

/-- Every use that the protocol allows before the instance is stopped. -/
theorem Kept.step (h : Kept w) {use : SlotUse} (allowed : w.user.Allows most use) (going : use ≠ .stop) :
    Kept (w.step use) := by
  cases use with
  | start => exact h.with_inputs (h.inputs.congr rfl rfl) h.whole rfl
  | claim wait => exact h.claim wait
  | fill slot data => exact h.fill slot data
  | queue slot len pts flags => exact h.queue allowed len pts flags
  | poll wait => exact h.poll wait
  | release slot => exact h.release allowed
  | stop => exact absurd rfl going

/-- The slots stay accounted for in any obedient use that does not stop the instance. -/
theorem Kept.run (h : Kept w) {uses : List SlotUse} (obeys : w.user.Obeys most uses) (going : .stop ∉ uses) :
    Kept (w.run uses) := by
  induction uses generalizing w with
  | nil => exact h
  | cons use uses ih =>
    obtain ⟨allowed, rest⟩ := obeys
    have kept := h.step allowed (fun stopped => going (by rw [stopped]; exact .head _))
    rw [← user_step] at rest
    exact ih kept rest fun later => going (.tail _ later)

end Watched

/-! ## The pools -/

/-- The output slots of the samples that wait to be taken, in order. -/
def Instance.waiting {ε : Type} (s : Instance ε) : List Nat := s.pending.filterMap Event.place?

/-- The books that an instance keeps of its slots agree with each other and with the record of its uses. -/
structure Watched.Pools {ε : Type} [Compressor ε] (w : Watched ε) : Prop where
  /-- The input slots to hand out are those that are not marked, each listed once. -/
  free_nodup : w.user.source.freeInputs.Nodup
  free_iff : ∀ i, i ∈ w.user.source.freeInputs ↔ (w.user.source.inputs[i]?).map InputSlot.claimed = some false
  /-- The user holds those that are marked, each once. -/
  claimed_nodup : w.user.claimed.Nodup
  claimed_iff : ∀ i, i ∈ w.user.claimed ↔ (w.user.source.inputs[i]?).map InputSlot.claimed = some true
  /-- No output slot waits twice, is held twice, or waits while it is held. -/
  outputs_nodup : (w.user.source.waiting ++ w.user.taken).Nodup
  /-- The output slots that wait or are held are in use, and all others are free. -/
  inUse_iff : ∀ i, i ∈ w.user.source.waiting ++ w.user.taken ↔
    (w.user.source.outputs[i]?).map OutputSlot.inUse = some true
  /-- The user holds what was taken and not released, and all of it is as it was when it was taken. -/
  held : w.held.map Prod.fst = w.user.taken
  carried : ∀ output ∈ w.held, .sample output.2 ∈ w.polled ∧
    w.user.source.outputs[output.1]? = some { data := output.2.data, info := output.2.info, inUse := true }
  /-- What was pushed was taken in that order or waits in that order. -/
  ordered : w.pushed = w.polled ++ w.user.source.backlog
  /-- The format is announced once at most. -/
  announced : Delivery.formats w.pushed ≤ 1
  /-- Whatever is queued next, the instance goes on. -/
  answers : ∀ i ∈ w.user.claimed, ∀ len pts flags fault, (w.user.source.queue i len pts flags).1 ≠ .error (.fault fault)

namespace Watched

variable {ε : Type} [Compressor ε] {w : Watched ε}

omit [Compressor ε] in
theorem some_mem_line {s : Instance ε} (i : Nat) : some i ∈ s.shelf.line ↔ i ∈ s.waiting := by
  unfold Instance.shelf Instance.waiting
  rw [List.mem_map, List.mem_filterMap]

/-- Slots that are accounted for are in one pool each. -/
theorem Kept.pools (h : Kept w) : w.Pools := by
  have busy (i : Nat) : i ∈ w.user.source.waiting ++ w.user.taken ↔
      (w.user.source.outputs[i]?).map OutputSlot.inUse = some true := by
    rw [List.mem_append, ← some_mem_line]
    cases exists' : w.user.source.outputs[i]? with
    | none =>
      -- There is no such slot, so nothing waits in it and nobody holds it.
      have absent : ¬ i < w.user.source.shelf.places.size := by
        simpa [Instance.shelf] using exists'
      simpa using mt (h.lent.shelf.inRange i) absent
    | some slot =>
      have place : w.user.source.shelf.places[i]? = some slot.place := by
        rw [getElem?_places, exists']
        rfl
      rw [← h.lent.shelf.busy i slot.place place]
      simp [OutputSlot.place]
  have distinct : w.user.source.waiting.Nodup := by
    refine List.pairwise_filterMap.mpr ((List.pairwise_map.mp h.lent.shelf.distinct).imp ?_)
    -- Two samples in one slot would be one event, which is an announcement if it waits twice.
    rintro a b once i ha _ hb rfl
    have none := once (ha.trans hb.symm)
    rw [ha] at none
    cases none
  refine ⟨h.inputs.free_nodup, h.inputs.free_iff, h.inputs.claimed_nodup, h.inputs.claimed_iff, ?_, busy, h.held, ?_,
    h.ordered, ?_, fun i _ => h.whole.queue_answers i⟩
  · refine List.nodup_append.mpr ⟨distinct, h.lent.shelf.nodup, ?_⟩
    rintro i waits _ held rfl
    exact h.lent.shelf.apart i held ((some_mem_line i).mpr waits)
  · intro output ho
    obtain ⟨given, place⟩ := h.carried output ho
    exact ⟨given, outputs_of_place place⟩
  · rw [h.announced]
    exact Bool.toNat_le _

end Watched

/-- **The pools of slots.** Whatever the format of the stream and the compressor are, and however an instance is used
by the protocol before it is stopped, be it by one who holds any number of slots and whatever is queued in them: the
input slots that can be claimed are listed once each and are those that are not claimed; the output slots that wait are
distinct from each other and from those that the user holds, and these are the ones in use; each output that the user
holds is as it was pushed; outputs are taken in the order in which they were pushed; and the format is announced once
at most. -/
theorem pools_of_run {ε : Type} [Compressor ε] {f : StreamFormat} {s : Instance ε} (created : create f = .ok s)
    {most : Nat} {uses : List SlotUse} (obeys : SlotUser.Obeys most { source := s } uses) (running : .stop ∉ uses) :
    let w := ({ user := { source := s } } : Watched ε).run uses
    w.user = ({ source := s } : SlotUser (Instance ε)).run uses ∧ w.Pools := by
  have unused : ({ user := { source := s } } : Watched ε).Kept := by
    have sound := sound_of_create created
    obtain ⟨width, height, compressor, len, length, rfl⟩ := create_ok created
    have whole (picture : Bytes) (fits : picture.size = len) := isSome_ofPicture? (f := f) length width height fits
    refine ⟨⟨List.nodup_range, ?_, List.nodup_nil, ?_⟩, ?_, sound.lent, rfl, nofun, rfl, rfl⟩
    · intro i
      simp [Array.getElem?_replicate]
    · intro i
      simp [Array.getElem?_replicate]
    · intro slot hs picture fits
      rw [Array.eq_of_mem_replicate hs] at fits
      exact whole picture (fits.trans (by simp [Bytes.fill]))
  exact ⟨Watched.user_run _ uses, (unused.run obeys running).pools⟩

/-- Two slots are claimed at once and queued the other way round; of the four outputs that come of it, three are taken,
and the first sample among them is released. -/
def claimedTwice : List SlotUse :=
  [.start, .claim 0, .claim 0, .queue 1 6 5 .none, .poll 0, .poll 0, .queue 0 6 9 .none, .poll 0, .release 0]

theorem pools_of_run_claimedTwice : ∃ s : Instance Cadence, create smallest = .ok s ∧
    SlotUser.Obeys 2 { source := s } claimedTwice ∧
    let w := ({ user := { source := s } } : Watched Cadence).run claimedTwice
    w.user.taken = [1] ∧ w.user.source.waiting = [2] ∧ w.Pools := by
  have run := @pools_of_run Cadence _ smallest _ rfl 2 claimedTwice (by decide +kernel) (by decide)
  exact ⟨_, rfl, by decide +kernel, by decide +kernel, by decide +kernel, run.2⟩

end Camcorder.Avc
