import Mathlib
import Camcorder.Proofs.Encoding.AvcOrder

/-!
# What an instance of the H.264 backend pushes

An instance pushes outputs one after the other, each sample into a free output slot. `Instance.yield` is what it
would push for an access unit, and `fitting` the part of it for which there are slots. `Instance.Pushed` says what that
does to an instance while its user holds some of the earlier outputs: those stay as they are, and what is pushed waits
behind what waited before.
-/

namespace Camcorder

/-- Whether there is a picture in the unit. -/
def AccessUnit.holdsPicture (u : AccessUnit) : Bool := !(u.kind.isAbsent || u.data.isEmpty)

namespace Avc

/-- The parameter sets of a unit that holds a picture, if it has both. -/
def setsIn (g : Geometry) (u : AccessUnit) : Option CodecParameters :=
  if u.holdsPicture then AnnexB.parameterSets u.data g else none

/-- An access unit as a sample. -/
def sample (u : AccessUnit) (pts : Nat) : Sample where
  data := u.data
  info := { size := u.data.size, pts, flags := { keyFrame := u.kind.isKey } }

/-- The part of some outputs that is pushed while `free` output slots are free. An announcement of the format needs no
slot; the first sample that finds none is lost, and all that was to come after it. -/
def fitting : (free : Nat) → List Delivery → List Delivery
  | _, [] => []
  | free, .format q :: l => .format q :: fitting free l
  | 0, .sample _ :: _ => []
  | free + 1, .sample x :: l => .sample x :: fitting free l

theorem fitting_nil (free : Nat) : fitting free [] = [] := by cases free <;> rfl

/-- Nothing is lost if there is a slot for every sample. -/
theorem fitting_of_room {free : Nat} {l : List Delivery} (room : (Delivery.samples l).length ≤ free) :
    fitting free l = l := by
  induction l generalizing free with
  | nil => exact fitting_nil free
  | cons d l ih =>
    cases d with
    | format q =>
      have rest : fitting free l = l := ih room
      cases free <;> exact congrArg (Delivery.format q :: ·) rest
    | sample x =>
      cases free with
      | zero => cases room
      | succ free => exact congrArg (Delivery.sample x :: ·) (ih (Nat.le_of_succ_le_succ room))

namespace Instance

variable {ε : Type} {s s' s'' : Instance ε}

/-- The parameters as a sample of their own, which no sink is given. -/
def configSample (p : CodecParameters) (pts : Nat) : Sample where
  data := configUnit p
  info := { size := (configUnit p).size, pts, flags := { codecConfig := true } }

/-- What an instance puts into its line for an access unit. -/
def yield (g : Geometry) (known : Bool) (u : AccessUnit × Nat) : List Delivery :=
  (match if known then none else setsIn g u.1 with
    | some p => [.format p, .sample (configSample p u.2)]
    | none => []) ++ if u.1.holdsPicture then [.sample (sample u.1 u.2)] else []

/-- An access unit takes two output slots at most, one for the parameters and one for itself. -/
theorem samples_yield_le (g : Geometry) (k : Bool) (u : AccessUnit × Nat) :
    (Delivery.samples (yield g k u)).length ≤ 2 := by
  have picture : (Delivery.samples (if u.1.holdsPicture then [.sample (sample u.1 u.2)] else [])).length ≤ 1 := by
    split
    · exact Nat.le_refl _
    · exact Nat.zero_le _
  unfold yield Delivery.samples at *
  rw [List.filterMap_append, List.length_append]
  split
  · exact Nat.add_le_add_left picture 1
  · exact Nat.add_le_add_left (picture.trans (Nat.le_succ 1)) 0

/-! ## Pushing while outputs are held -/

variable {taken : List Nat} {l m : List Delivery}

theorem Pushed.refl (h : s.Lent taken) : Pushed taken s [] s :=
  ⟨h, (List.append_nil _).symm, fun _ _ => rfl, rfl, rfl⟩

/-- What is pushed first and what is pushed then. -/
theorem Pushed.trans (h : Pushed taken s l s') (h' : Pushed taken s' m s'') : Pushed taken s (l ++ m) s'' := by
  refine ⟨h'.lent, ?_, fun i hi => (h'.kept i hi).trans (h.kept i hi), ?_, ?_⟩
  · rw [h'.backlog, h.backlog, List.append_assoc]
  · rw [h'.announced, h.announced]
    unfold Delivery.formats
    rw [List.countP_append, Nat.add_assoc]
  · rw [h'.others, h.others]

/-- With no output slot free, an output is refused. -/
theorem park_full (full : s.freeOutputs = 0) (data : Bytes) (pts : Nat) (flags : SampleFlags) :
    s.park data pts flags = (Attempt.refuse (.encoding .outputSlotsExhausted), s) := by
  have all : s.outputs.findIdx? (!·.inUse) = none := by
    apply Array.findIdx?_eq_none_iff.mpr
    intro slot hs
    -- The free slots were counted, and there are none.
    have busy := Array.countP_eq_zero.mp full slot hs
    simpa using busy
  unfold park
  rw [all]

/-- What becomes of the outputs `l` when they are offered one after the other: they are pushed as far as there are slots
for them, and the answer says whether there were. The parameters are `k` afterwards. -/
structure Offered (taken : List Nat) (s : Instance ε) (l : List Delivery) (k : Option CodecParameters)
    (r : Attempt Unit × Instance ε) : Prop where
  pushed : Pushed taken s (fitting s.freeOutputs l) r.2
  parameters : r.2.parameters = k
  answer : r.1 = .ok () ↔ (Delivery.samples l).length ≤ s.freeOutputs

/-- A sample that is parked waits behind the others, if there is a slot for it. -/
theorem Lent.park (h : s.Lent taken) (data : Bytes) (pts : Nat) (flags : SampleFlags) :
    Offered taken s [.sample { data, info := { size := data.size, pts, flags } }] s.parameters
      (s.park data pts flags) := by
  cases free : s.freeOutputs with
  | zero =>
    rw [park_full free]
    refine ⟨?_, rfl, nofun, ?_⟩
    · rw [free]
      exact .refl h
    · rw [free]
      nofun
  | succ n =>
    obtain ⟨s', parked, _, same, pushed⟩ := h.park_free (by omega) data pts flags
    rw [parked]
    refine ⟨?_, same, fun _ => ?_, fun _ => rfl⟩
    · rw [free]
      cases n <;> exact pushed
    · rw [free]
      exact Nat.le_add_left 1 n

/-! ## Access units -/

/-- Settles the parameters and announces them. -/
def announce (s : Instance ε) (p : CodecParameters) : Instance ε :=
  { s with parameters := some p, pending := s.pending ++ [.format] }

/-- An announced format waits behind the others. -/
theorem Lent.announce (h : s.Lent taken) (unknown : s.parameters = none) (p : CodecParameters) :
    Pushed taken s [.format p] (s.announce p) := by
  have shelf : (s.announce p).shelf = s.shelf.announce := Shelf.ext rfl List.map_append
  -- The format waits nowhere in the line yet, so settling the parameters changes nothing in it.
  have silent : none ∉ s.shelf.line := by
    intro waits
    have settled := h.settled waits
    rw [unknown] at settled
    cases settled
  refine ⟨⟨?_, fun _ => rfl⟩, ?_, fun _ _ => rfl, ?_, rfl⟩
  · rw [shelf]
    exact h.shelf.announce
  · unfold backlog
    rw [shelf, Shelf.deliveries_announce, s.shelf.deliveries_congr s.settled p silent]
    rfl
  · rw [unknown]
    rfl

/-- Data settle nothing if the parameters are known, or if there are none in them. -/
theorem settle_none {data : Bytes} (pts : Nat)
    (first : (if s.parameters.isSome then none else AnnexB.parameterSets data s.format.geometry) = none) :
    s.settle data pts = (.ok (), s) := by
  unfold settle
  split
  · rfl
  · rename_i unknown
    rw [if_neg unknown] at first
    rw [first]

/-- The first parameter sets are announced, and go out in a unit of their own. -/
theorem settle_some {data : Bytes} {p : CodecParameters} (pts : Nat)
    (first : (if s.parameters.isSome then none else AnnexB.parameterSets data s.format.geometry) = some p) :
    s.parameters = none ∧ s.settle data pts = (s.announce p).park (configUnit p) pts { codecConfig := true } := by
  unfold settle
  split at first
  · cases first
  · rename_i unknown
    rw [if_neg unknown, first]
    exact ⟨by simpa using unknown, rfl⟩

/-- A picture is parked once the parameters in it are settled. -/
theorem take_of_picture {u : AccessUnit} (holds : u.holdsPicture = true) (pts : Nat) :
    s.take u pts = match s.settle u.data pts with
      | (.error failure, s) => (.error failure, s)
      | (.ok (), s) => s.park u.data pts { keyFrame := u.kind.isKey } := by
  have present : (u.kind.isAbsent || u.data.isEmpty) = false := (Bool.not_eq_true' ..).mp holds
  unfold take
  rw [present]
  rfl

/-- What an access unit yields that is not the first with parameters. -/
theorem Lent.take_later (h : s.Lent taken) {u : AccessUnit} (holds : u.holdsPicture = true) (pts : Nat)
    (first : (if s.parameters.isSome then none else AnnexB.parameterSets u.data s.format.geometry) = none) :
    Offered taken s (yield s.format.geometry s.parameters.isSome (u, pts))
      (s.parameters.or (setsIn s.format.geometry u)) (s.take u pts) := by
  have sets : setsIn s.format.geometry u = AnnexB.parameterSets u.data s.format.geometry := if_pos holds
  have outputs : yield s.format.geometry s.parameters.isSome (u, pts) = [.sample (sample u pts)] := by
    unfold yield
    rw [sets, first, if_pos holds]
    rfl
  have known : s.parameters.or (AnnexB.parameterSets u.data s.format.geometry) = s.parameters := by
    cases old : s.parameters with
    | some q => rfl
    | none => simpa [old] using first
  rw [outputs, take_of_picture holds, settle_none pts first, sets, known]
  exact h.park u.data pts { keyFrame := u.kind.isKey }

/-- What the first access unit with parameters yields: it may be that there is a slot for nothing, for the parameters or
for the unit as well. -/
theorem Lent.take_first (h : s.Lent taken) {u : AccessUnit} (holds : u.holdsPicture = true) (pts : Nat)
    {p : CodecParameters}
    (first : (if s.parameters.isSome then none else AnnexB.parameterSets u.data s.format.geometry) = some p) :
    Offered taken s (yield s.format.geometry s.parameters.isSome (u, pts))
      (s.parameters.or (setsIn s.format.geometry u)) (s.take u pts) := by
  have sets : setsIn s.format.geometry u = AnnexB.parameterSets u.data s.format.geometry := if_pos holds
  obtain ⟨unknown, settled⟩ := settle_some pts first
  have outputs : yield s.format.geometry s.parameters.isSome (u, pts) =
      [.format p, .sample (configSample p pts), .sample (sample u pts)] := by
    unfold yield
    rw [sets, first, if_pos holds]
    rfl
  have known : s.parameters.or (AnnexB.parameterSets u.data s.format.geometry) = some p := by
    rw [unknown] at first ⊢
    exact first
  have announced := h.announce unknown p
  have same : (s.announce p).freeOutputs = s.freeOutputs := rfl
  rw [outputs, take_of_picture holds, settled, sets, known]
  cases free : s.freeOutputs with
  | zero =>
    -- The format is announced all the same: that needs no slot.
    rw [park_full (same.trans free)]
    refine ⟨?_, rfl, nofun, ?_⟩
    · rw [free]
      exact announced
    · rw [free]
      nofun
  | succ n =>
    -- The parameters take one slot, and the unit finds the others.
    obtain ⟨s₁, parked, fewer, parameters, pushed⟩ :=
      announced.lent.park_free (by omega) (configUnit p) pts { codecConfig := true }
    have left : s₁.freeOutputs = n := by omega
    have last := pushed.lent.park u.data pts { keyFrame := u.kind.isKey }
    have fits := last.pushed
    rw [left] at fits
    rw [parked]
    refine ⟨?_, last.parameters.trans parameters, last.answer.trans ?_⟩
    · rw [free]
      exact (announced.trans pushed).trans fits
    · rw [left, free]
      exact Nat.succ_le_succ_iff.symm

/-- Of an access unit as much is pushed as there are slots for. -/
theorem Lent.take (h : s.Lent taken) (u : AccessUnit) (pts : Nat) :
    Offered taken s (yield s.format.geometry s.parameters.isSome (u, pts))
      (s.parameters.or (setsIn s.format.geometry u)) (s.take u pts) := by
  cases holds : u.holdsPicture with
  | false =>
    have absent : (u.kind.isAbsent || u.data.isEmpty) = true := (Bool.not_eq_false' ..).mp holds
    have took : s.take u pts = (.ok (), s) := if_pos absent
    have unset : setsIn s.format.geometry u = none := by simp [setsIn, holds]
    have nothing : yield s.format.geometry s.parameters.isSome (u, pts) = [] := by
      unfold yield
      simp [unset, holds]
    rw [took, nothing, unset, Option.or_none]
    refine ⟨?_, rfl, fun _ => Nat.zero_le _, fun _ => rfl⟩
    rw [fitting_nil]
    exact .refl h
  | true =>
    cases first : (if s.parameters.isSome then none else AnnexB.parameterSets u.data s.format.geometry) with
    | none => exact h.take_later holds pts first
    | some p => exact h.take_first holds pts first

end Instance

end Avc

end Camcorder
