import Mathlib
import Camcorder.Proofs.Encoding.AvcOrder

/-!
# Room for outputs

An instance of the H.264 backend hands out an input slot only while two output slots are free, so that there is room
for what becomes of the picture. It does not set that room aside: whoever holds several input slots at once was promised
the same two output slots for each of them. So the promise is kept exactly for users who hold no more than one
(`Avc.never_exhausted_iff`).
-/

namespace Camcorder

/-! ## Users of the slot protocol -/

/-- What a user of the slot protocol asks of an instance. -/
inductive SlotUse where
  | start
  | claim (wait : Nat)
  | fill (slot : Nat) (data : Bytes)
  | queue (slot len pts : Nat) (flags : SampleFlags)
  | poll (wait : Nat)
  | release (slot : Nat)
  | stop
deriving DecidableEq, Repr

/-- An instance, and what its user has of it. -/
structure SlotUser (σ : Type) where
  source : σ
  /-- The input slots that the user claimed and did not queue yet. -/
  claimed : List Nat := []
  /-- The output slots that the user was given and did not release yet. -/
  taken : List Nat := []

namespace SlotUser

variable {σ : Type} [Coder σ]

def step (u : SlotUser σ) : SlotUse → SlotUser σ
  | .start => { u with source := (Coder.start u.source).2 }
  | .claim wait =>
    match Coder.claim u.source wait with
    | (some slot, source) => { u with source, claimed := slot :: u.claimed }
    | (none, source) => { u with source }
  | .fill slot data => { u with source := Coder.fill u.source slot data }
  | .queue slot len pts flags =>
    { u with source := (Coder.queue u.source slot len pts flags).2, claimed := u.claimed.erase slot }
  | .poll wait =>
    match Coder.poll u.source wait with
    | (.sample slot _, source) => { u with source, taken := slot :: u.taken }
    | (_, source) => { u with source }
  | .release slot => { u with source := Coder.release u.source slot, taken := u.taken.erase slot }
  | .stop => { u with source := (Coder.stop u.source).2 }

def run (u : SlotUser σ) (uses : List SlotUse) : SlotUser σ := uses.foldl step u

omit [Coder σ] in
/-- What the protocol allows to a user who is to hold at most `most` input slots at once: to claim a slot while fewer
are held, to queue a slot that is held, and to release an output once. -/
def Allows (most : Nat) (u : SlotUser σ) : SlotUse → Prop
  | .claim _ => u.claimed.length < most
  | .queue slot _ _ _ => slot ∈ u.claimed
  | .release slot => slot ∈ u.taken
  | _ => True

instance (most : Nat) (u : SlotUser σ) : (use : SlotUse) → Decidable (u.Allows most use)
  | .claim _ => inferInstanceAs (Decidable (u.claimed.length < most))
  | .queue slot _ _ _ => inferInstanceAs (Decidable (slot ∈ u.claimed))
  | .release slot => inferInstanceAs (Decidable (slot ∈ u.taken))
  | .start => .isTrue trivial
  | .fill _ _ => .isTrue trivial
  | .poll _ => .isTrue trivial
  | .stop => .isTrue trivial

/-- The protocol is obeyed by one who never holds more than `most` input slots. -/
def Obeys (most : Nat) : SlotUser σ → List SlotUse → Prop
  | _, [] => True
  | u, use :: uses => u.Allows most use ∧ Obeys most (u.step use) uses

instance decidableObeys (most : Nat) : (u : SlotUser σ) → (uses : List SlotUse) → Decidable (Obeys most u uses)
  | _, [] => .isTrue trivial
  | u, use :: uses =>
    have := decidableObeys most (u.step use) uses
    inferInstanceAs (Decidable (u.Allows most use ∧ Obeys most (u.step use) uses))

variable {u : SlotUser σ} {most most' : Nat}

/-- Who obeys where few slots may be held obeys where more may be. -/
theorem Obeys.mono (le : most ≤ most') {uses : List SlotUse} (h : Obeys most u uses) : Obeys most' u uses := by
  induction uses generalizing u with
  | nil => trivial
  | cons use uses ih =>
    obtain ⟨allowed, rest⟩ := h
    refine ⟨?_, ih rest⟩
    cases use with
    | claim wait => exact Nat.lt_of_lt_of_le allowed le
    | _ => exact allowed

/-- What holds of one who uses an instance by the protocol, if every use that is allowed keeps it, holds whenever the
next use comes. -/
theorem Obeys.run_holds {P : SlotUser σ → Prop} (keeps : ∀ u use, u.Allows most use → P u → P (u.step use))
    {uses : List SlotUse} {use : SlotUse} (h : Obeys most u (uses ++ [use])) (holds : P u) :
    P (u.run uses) ∧ (u.run uses).Allows most use := by
  induction uses generalizing u with
  | nil => exact ⟨holds, h.1⟩
  | cons first uses ih => exact ih h.2 (keeps u first h.1 holds)

end SlotUser

namespace Avc

namespace Instance

variable {ε : Type} {s : Instance ε}

/-! ## What one request does to the room -/

/-- Changing one element so that `p` goes on to hold of it if it did. -/
theorem countP_le_countP_modify {α : Type} {p : α → Bool} {f : α → α} (keeps : ∀ x, p x = true → p (f x) = true)
    (l : List α) (i : Nat) : l.countP p ≤ (l.modify i f).countP p := by
  induction l generalizing i with
  | nil => exact Nat.zero_le _
  | cons x l ih =>
    cases i with
    | zero =>
      rw [List.modify_zero_cons, List.countP_cons, List.countP_cons]
      have kept := keeps x
      split
      · rename_i holds
        rw [if_pos (kept holds)]
      · omega
    | succ i =>
      rw [List.modify_succ_cons, List.countP_cons, List.countP_cons]
      exact Nat.add_le_add_right (ih i) _

theorem freeOutputs_release (s : Instance ε) (i : Nat) : s.freeOutputs ≤ (s.release i).freeOutputs := by
  unfold freeOutputs release
  rw [← Array.countP_toList, ← Array.countP_toList, Array.toList_modify]
  exact countP_le_countP_modify (fun _ _ => rfl) _ i

theorem freeOutputs_stop (s : Instance ε) : s.freeOutputs ≤ s.stop.freeOutputs := by
  have all : s.stop.freeOutputs = s.outputs.size := by
    unfold freeOutputs stop
    rw [Array.countP_map]
    exact Array.countP_eq_size.mpr fun _ _ => rfl
  rw [all]
  exact Array.countP_le_size

/-- A request other than to claim or to queue an input slot takes no room away. -/
theorem freeOutputs_step [Compressor ε] (u : SlotUser (Instance ε)) (use : SlotUse)
    (other : ∀ wait, use ≠ .claim wait) (other' : ∀ slot len pts flags, use ≠ .queue slot len pts flags) :
    (u.step use).claimed = u.claimed ∧ u.source.freeOutputs ≤ (u.step use).source.freeOutputs := by
  cases use with
  | start => exact ⟨rfl, le_refl _⟩
  | claim wait => exact absurd rfl (other wait)
  | fill slot data => exact ⟨rfl, le_refl _⟩
  | queue slot len pts flags => exact absurd rfl (other' slot len pts flags)
  | poll wait =>
    have kept : (Coder.poll u.source wait).2.freeOutputs = u.source.freeOutputs := by
      change u.source.poll.2.freeOutputs = u.source.freeOutputs
      unfold poll
      split <;> rfl
    unfold SlotUser.step
    dsimp only
    rcases polled : Coder.poll u.source wait with ⟨output, source⟩
    rw [polled] at kept
    cases output <;> exact ⟨rfl, le_of_eq kept.symm⟩
  | release slot => exact ⟨rfl, freeOutputs_release u.source slot⟩
  | stop => exact ⟨rfl, freeOutputs_stop u.source⟩

/-- Two free output slots suffice for an access unit. -/
theorem take_of_room (two : 2 ≤ s.freeOutputs) (unit : AccessUnit) (pts : Nat) : (s.take unit pts).1 = .ok () := by
  -- The parameters take one of the two slots at most, and the unit the other.
  have settled : ∃ s', s.settle unit.data pts = (.ok (), s') ∧ 0 < s'.freeOutputs := by
    unfold settle
    split
    · exact ⟨s, rfl, by omega⟩
    · split
      · exact ⟨s, rfl, by omega⟩
      · rename_i p _
        have free : 0 < ({ s with parameters := some p, pending := s.pending ++ [.format] } : Instance ε).freeOutputs :=
          Nat.lt_of_lt_of_le Nat.two_pos two
        obtain ⟨_, s', parked, _, _, fewer, _⟩ := park_of_free free (configUnit p) pts { codecConfig := true }
        have before : ({ s with parameters := some p, pending := s.pending ++ [.format] } : Instance ε).freeOutputs =
          s.freeOutputs := rfl
        exact ⟨s', parked, by omega⟩
  obtain ⟨s', settled, free⟩ := settled
  unfold take
  split
  · rfl
  · rw [settled]
    obtain ⟨_, _, parked, _⟩ := park_of_free free unit.data pts { keyFrame := unit.kind.isKey }
    dsimp only
    rw [parked]

/-- Two free output slots suffice for a picture, whatever the compressor makes of it. -/
theorem encode_of_room [Compressor ε] (two : 2 ≤ s.freeOutputs) (picture : Bytes) (pts : Nat) :
    (s.encode picture pts).1 ≠ Attempt.refuse (.encoding .outputSlotsExhausted) := by
  unfold encode
  cases Planes.ofPicture? s.format.layout s.format.width s.format.height picture with
  | none => nofun
  | some planes =>
    dsimp only
    rcases Compressor.encode s.compressor planes with ⟨_ | unit, compressor⟩
    · nofun
    · have took : (({ s with compressor } : Instance ε).take unit pts).1 = .ok () :=
        take_of_room (s := { s with compressor }) two unit pts
      dsimp only
      rw [took]
      nofun

/-- Two free output slots suffice for whatever is queued. -/
theorem queue_of_room [Compressor ε] (two : 2 ≤ s.freeOutputs) (slot len pts : Nat) (flags : SampleFlags) :
    (s.queue slot len pts flags).1 ≠ Attempt.refuse (.encoding .outputSlotsExhausted) := by
  unfold queue
  cases s.buffer? slot with
  | none => nofun
  | some picture =>
    dsimp only
    by_cases last : flags.endOfStream = true
    · have free : 0 < ({ s with endQueued := true } : Instance ε).freeOutputs := Nat.lt_of_lt_of_le Nat.two_pos two
      obtain ⟨_, s', parked, _⟩ := park_of_free free #[] pts { endOfStream := true }
      rw [if_pos last, parked]
      nofun
    · rw [if_neg last]
      by_cases wrong : len ≠ s.length
      · rw [if_pos wrong]
        nofun
      · rw [if_neg wrong]
        exact s.encode_of_room two picture pts

end Instance

/-! ## Users who hold one slot at most -/

/-- One input slot is held at most, and if one is, there is room for what becomes of it. -/
structure Roomy {ε : Type} (u : SlotUser (Instance ε)) : Prop where
  few : u.claimed.length ≤ 1
  room : u.claimed ≠ [] → 2 ≤ u.source.freeOutputs

/-- Each use that is allowed leaves room for the outputs of the next picture. -/
theorem Roomy.step {ε : Type} [Compressor ε] {u : SlotUser (Instance ε)} {use : SlotUse} (allowed : u.Allows 1 use)
    (h : Roomy u) : Roomy (u.step use) := by
  have other (same : (u.step use).claimed = u.claimed ∧ u.source.freeOutputs ≤ (u.step use).source.freeOutputs) :
      Roomy (u.step use) := by
    refine ⟨by rw [same.1]; exact h.few, ?_⟩
    intro some
    rw [same.1] at some
    exact (h.room some).trans same.2
  cases use with
  | claim wait =>
    have none : u.claimed = [] := List.length_eq_zero_iff.mp (Nat.lt_one_iff.mp allowed)
    unfold SlotUser.step
    dsimp only
    rcases claimed : Coder.claim u.source wait with ⟨_ | slot, source⟩
    · exact ⟨h.few, fun some => absurd none some⟩
    · obtain ⟨two, _, _, rfl⟩ := Instance.claim_some claimed
      exact ⟨by simp [none], fun _ => two⟩
  | queue slot len pts flags =>
    -- The only slot that was held is handed back.
    have emptied : u.claimed.erase slot = [] := by
      apply List.length_eq_zero_iff.mp
      rw [List.length_erase_of_mem allowed]
      have few := h.few
      omega
    exact ⟨by simp [SlotUser.step, emptied], fun some => absurd emptied some⟩
  | start => exact other (Instance.freeOutputs_step u _ nofun nofun)
  | fill slot data => exact other (Instance.freeOutputs_step u _ nofun nofun)
  | poll wait => exact other (Instance.freeOutputs_step u _ nofun nofun)
  | release slot => exact other (Instance.freeOutputs_step u _ nofun nofun)
  | stop => exact other (Instance.freeOutputs_step u _ nofun nofun)

/-! ## Users who hold two -/

/-- A compressor whose seventh unit is the first with parameter sets. -/
structure Belated where
  /-- The pictures so far. -/
  count : Nat := 0
deriving DecidableEq, Repr

instance : Compressor Belated where
  create _ _ := .ok {}
  encode c _ := (some { kind := .idr, data := if c.count < 6 then #[0x65] else Cadence.parameterUnits },
    { count := c.count + 1 })

/-- The smallest pictures. -/
def smallest : StreamFormat where
  width := 2
  height := 2
  bitrate := 1
  frameRate := 1
  keyFrameSeconds := 1
  layout := .planar
  level := .level31

/-- Six pictures, one after the other, and then two slots at once, of which the first is filled and queued. -/
def pairAfterSix : List SlotUse :=
  .start :: (List.replicate 6 [.claim 0, .queue 0 6 0 .none]).flatten ++ [.claim 0, .claim 0, .queue 0 6 0 .none]

/-- Two slots at once are one too many: six of the output slots are in use, and the first picture takes the two that
were free. -/
theorem pair_exhausts : ∃ s : Instance Belated, create smallest = .ok s ∧ s.length = 6 ∧
    SlotUser.Obeys 2 { source := s } (pairAfterSix ++ [.queue 1 6 0 .none]) ∧
    ((({ source := s } : SlotUser (Instance Belated)).run pairAfterSix).source.queue 1 6 0 .none).1 =
      Attempt.refuse (.encoding .outputSlotsExhausted) :=
  ⟨_, rfl, rfl, by decide +kernel, by decide +kernel⟩

/-- **Room is kept for one slot.** Whatever the compressor answers, whatever the format of the stream is and however an
instance is used by the protocol: if no more than `most` input slots are held at once, then nothing that is queued in a
slot that is held, be it of the length of a picture or the end of the stream, fails for want of an output slot. This is
so if `most` is 1 and not if it is more. -/
theorem never_exhausted_iff (most : Nat) :
    (∀ (ε : Type) [Compressor ε] (f : StreamFormat) (s : Instance ε), create f = .ok s →
      ∀ (uses : List SlotUse) (slot len pts : Nat) (flags : SampleFlags),
        SlotUser.Obeys most { source := s } (uses ++ [.queue slot len pts flags]) →
        len = s.length ∨ flags.endOfStream = true →
        ((({ source := s } : SlotUser (Instance ε)).run uses).source.queue slot len pts flags).1 ≠
          Attempt.refuse (.encoding .outputSlotsExhausted)) ↔ most ≤ 1 := by
  constructor
  · intro never
    by_contra more
    obtain ⟨s, created, length, obeys, exhausted⟩ := pair_exhausts
    have two : 2 ≤ most := by omega
    exact never Belated smallest s created pairAfterSix 1 6 0 .none (obeys.mono two) (.inl length.symm) exhausted
  · intro one ε _ f s _ uses slot len pts flags obeys _
    have unused : Roomy ({ source := s } : SlotUser (Instance ε)) := ⟨Nat.zero_le _, fun some => absurd rfl some⟩
    obtain ⟨roomy, held⟩ := (obeys.mono one).run_holds (fun _ _ allowed => Roomy.step allowed) unused
    exact Instance.queue_of_room (roomy.room (List.ne_nil_of_mem held)) slot len pts flags

/-- Twice four pictures in four slots each, the last of them not queued yet. -/
def fourAndFour : List SlotUse :=
  [.start, .claim 0, .claim 0, .claim 0, .claim 0,
    .queue 0 6 0 .none, .queue 1 6 1 .none, .queue 2 6 2 .none, .queue 3 6 3 .none,
    .claim 0, .claim 0, .claim 0, .claim 0, .queue 0 6 4 .none, .queue 1 6 5 .none, .queue 2 6 6 .none]

/-- A user who holds all four input slots loses the eighth picture, the parameters and the seven before it being in the
output slots. -/
theorem eighth_picture_lost : ∃ s : Instance Cadence, create smallest = .ok s ∧ s.length = 6 ∧
    SlotUser.Obeys inputSlots { source := s } (fourAndFour ++ [.queue 3 6 7 .none]) ∧
    ((({ source := s } : SlotUser (Instance Cadence)).run fourAndFour).source.queue 3 6 7 .none).1 =
      Attempt.refuse (.encoding .outputSlotsExhausted) :=
  ⟨_, rfl, rfl, by decide +kernel, by decide +kernel⟩

end Avc

end Camcorder
