import Mathlib
import Camcorder.Capture.TrackWriter
import Camcorder.Mp4.Document
import Camcorder.Proofs.Capture.OutputFile
import Camcorder.Proofs.Capture.Ticks
import Camcorder.Proofs.Capture.Writing

/-!
# The time stamps that are written

A writer goes through its samples one at a time and moves a time stamp no further than it has to. `spread_least` says
that this is the best there is for all of them together, and `TrackWriter.stamps_least` that a writer does it, whichever
samples its container refuses.
-/

namespace Camcorder

/-! ## The least sequence -/

/-- The numbers `stamps` increase, are nowhere below `lower`, and are the least numbers of which this is true. -/
structure LeastAbove (lower stamps : List Nat) : Prop where
  increasing : stamps.IsChain (· < ·)
  above : List.Forall₂ (· ≤ ·) lower stamps
  least : ∀ other : List Nat, other.IsChain (· < ·) → List.Forall₂ (· ≤ ·) lower other →
    List.Forall₂ (· ≤ ·) stamps other

theorem le_moved (last : Option Nat) (pts : Nat) : pts ≤ moved last pts := by
  cases last with
  | none => exact le_refl pts
  | some l => exact le_max_left pts (l + 1)

theorem lt_moved {last : Option Nat} {l : Nat} (before : l ∈ last) (pts : Nat) : l < moved last pts := by
  cases before
  exact le_max_right pts (l + 1)

/-- The moved time stamp is the least one that is late enough. -/
theorem moved_le {last : Option Nat} {pts q : Nat} (above : pts ≤ q) (after : ∀ l ∈ last, l < q) :
    moved last pts ≤ q := by
  cases last with
  | none => exact above
  | some l => exact max_le above (after l rfl)

/-- A time stamp is changed only if it does not come after the one before. -/
theorem moved_eq_self {last : Option Nat} {pts : Nat} (after : ∀ l ∈ last, l < pts) : moved last pts = pts :=
  le_antisymm (moved_le (le_refl pts) after) (le_moved last pts)

/-- Stamps that are spread increase, from the last one on. -/
theorem spread_increasing (last : Option Nat) (lower : List Nat) :
    (last.toList ++ spread last lower).IsChain (· < ·) := by
  induction lower generalizing last with
  | nil =>
    cases last with
    | none => exact .nil
    | some l => exact .singleton l
  | cons pts rest ih =>
    have others : (moved last pts :: spread (some (moved last pts)) rest).IsChain (· < ·) := ih (some (moved last pts))
    cases last with
    | none => exact others
    | some l => exact List.isChain_cons_cons.mpr ⟨lt_moved rfl pts, others⟩

/-- No stamp that is spread comes earlier than it was. -/
theorem spread_above (last : Option Nat) (lower : List Nat) : List.Forall₂ (· ≤ ·) lower (spread last lower) := by
  induction lower generalizing last with
  | nil => exact .nil
  | cons pts rest ih => exact .cons (le_moved last pts) (ih _)

theorem length_spread (last : Option Nat) (lower : List Nat) : (spread last lower).length = lower.length :=
  (spread_above last lower).length_eq.symm

/-- Stamps that are spread are the least of this kind. -/
theorem spread_le {last : Option Nat} {lower other : List Nat} (after : ∀ l ∈ last, ∀ q ∈ other.head?, l < q)
    (increasing : other.IsChain (· < ·)) (above : List.Forall₂ (· ≤ ·) lower other) :
    List.Forall₂ (· ≤ ·) (spread last lower) other := by
  induction above generalizing last with
  | nil => exact .nil
  | @cons pts q lower other le above ih =>
    have here : moved last pts ≤ q := moved_le le (fun l hl => after l hl q rfl)
    refine .cons here (ih ?_ increasing.tail)
    -- What comes after `q` comes after the time stamp that was chosen instead of `q` too.
    intro l hl r hr
    cases hl
    obtain ⟨others, rfl⟩ := List.head?_eq_some_iff.mp hr
    exact here.trans_lt (List.isChain_cons_cons.mp increasing).1

/-- Moving each time stamp just behind the one before gives the least numbers that increase. -/
theorem spread_least (lower : List Nat) : LeastAbove lower (spread none lower) where
  increasing := spread_increasing none lower
  above := spread_above none lower
  least _ increasing above := spread_le nofun increasing above

example : spread none [5, 5, 4, 9, 7, 20] = [5, 6, 7, 9, 10, 20] := by decide

/-- Each time stamp is moved behind the one before. -/
theorem spread_append (last : Option Nat) (before after : List Nat) :
    spread last (before ++ after) =
      spread last before ++ spread (last.toList ++ spread last before).getLast? after := by
  induction before generalizing last with
  | nil =>
    cases last with
    | none => rfl
    | some l => rfl
  | cons pts rest ih =>
    have others := ih (some (moved last pts))
    have same : (last.toList ++ spread last (pts :: rest)).getLast? =
        ((some (moved last pts)).toList ++ spread (some (moved last pts)) rest).getLast? := by
      cases last with
      | none => rfl
      | some l => exact List.getLast?_cons_cons
    rw [same]
    exact congrArg (moved last pts :: ·) others

/-- Each time stamp is the one to write after the one before it. -/
theorem eq_moved_of_spread {before after lower rest : List Nat} {p q : Nat}
    (h : before ++ q :: after = spread none (lower ++ p :: rest)) (length : before.length = lower.length) :
    q = moved before.getLast? p := by
  rw [spread_append] at h
  obtain ⟨same, others⟩ := List.append_inj h (length.trans (length_spread none lower).symm)
  rw [same]
  exact (List.cons.inj others).1

namespace TrackWriter

variable {γ : Type} [Container γ] {w : TrackWriter γ}

/-! ## One sample -/

/-- A sample that is refused leaves the container as it was. -/
def Firm (γ : Type) [Container γ] : Prop :=
  ∀ {c c' : γ} {seconds : Float} {data : Bytes} {key : Bool} {reason : String},
    Container.write c seconds data key = (.error reason, c') → c' = c

theorem firm_movie : Firm Mp4.Movie := by
  intro m m' seconds data key reason refused
  unfold Container.write Mp4.Movie.instContainer at refused
  dsimp only at refused
  split at refused
  · cases refused
  · cases refused
    rfl

/-- What a writer that has its track makes of a sample, once there is a time stamp `pts` for it: it is taken if and only
if it can be read and the container takes it then. -/
structure Placed (w : TrackWriter γ) (t : OpenTrack γ) (x : Sample) (pts : Nat) (s : Surroundings)
    (r : Attempt Unit × TrackWriter γ × Surroundings) : Prop where
  taken_iff : r.1 = .ok () ↔ ∃ data container, x.payload? = some data ∧
    Container.write t.container (secondsOf pts) data x.info.flags.keyFrame = (.ok (), container)
  taken : r.1 = .ok () → r.2.2 = s ∧ ∃ container,
    r.2.1 = { w with track := some { t with container }, lastPts := some pts, written := w.written + 1 }
  refused : r.1 ≠ .ok () → r.2.2 = s ∧ ∃ container, r.2.1 = { w with track := some { t with container } }
  unchanged : Firm γ → r.1 ≠ .ok () → r.2 = (w, s)

/-- A sample that comes to an open track is placed at its moved stamp, if there is one. -/
theorem placed_of_track {t : OpenTrack γ} (track : w.track = some t) {x : Sample} (fits : x.info.pts < wordLimit)
    (room : moved w.lastPts x.info.pts < wordLimit) (s : Surroundings) :
    w.Placed t x (moved w.lastPts x.info.pts) s (w.accept x s) := by
  have same : ({ w with track := some { t with container := t.container } } : TrackWriter γ) = w := by
    rw [← track]
  unfold accept
  rw [track]
  unfold writeTo
  rw [nextPts_eq fits, if_pos room]
  rcases readable : x.payload? with _ | data
  · -- The sample cannot be read.
    refine ⟨⟨nofun, ?_⟩, nofun, fun _ => ⟨rfl, t.container, same.symm⟩, fun _ _ => rfl⟩
    rintro ⟨data, _, some, _⟩
    rw [readable] at some
    cases some
  · dsimp only [Attempt.ofOption, bind, Except.bind, pure, Except.pure]
    rcases written : Container.write t.container (secondsOf (moved w.lastPts x.info.pts)) data x.info.flags.keyFrame with
      ⟨reason | _, container⟩
    · rw [show Container.write t.container (Float.ofNat (moved w.lastPts x.info.pts) / 1000000.0) data
        x.info.flags.keyFrame = _ from written]
      refine ⟨⟨nofun, ?_⟩, nofun, fun _ => ⟨rfl, container, rfl⟩, ?_⟩
      · rintro ⟨data', _, some, taken⟩
        rw [readable] at some
        cases some
        rw [written] at taken
        cases taken
      · intro firm _
        rw [firm written]
        exact congrArg (·, s) same
    · rw [show Container.write t.container (Float.ofNat (moved w.lastPts x.info.pts) / 1000000.0) data
        x.info.flags.keyFrame = _ from written]
      exact ⟨⟨fun _ => ⟨data, container, readable, written⟩, fun _ => rfl⟩, fun _ => ⟨rfl, container, rfl⟩,
        fun refused => absurd rfl refused, fun _ refused => absurd rfl refused⟩

/-- The track stays open, whether the sample was taken or not. -/
theorem Placed.track {t : OpenTrack γ} {x : Sample} {pts : Nat} {s : Surroundings}
    {r : Attempt Unit × TrackWriter γ × Surroundings} (h : w.Placed t x pts s r) : ∃ t', r.2.1.track = some t' := by
  by_cases taken : r.1 = .ok ()
  · obtain ⟨_, container, same⟩ := h.taken taken
    rw [same]
    exact ⟨_, rfl⟩
  · obtain ⟨_, container, same⟩ := h.refused taken
    rw [same]
    exact ⟨_, rfl⟩

/-! ## All samples -/

/-- The samples that are taken, each with the time stamp that is written for it. -/
def takenOf (w : TrackWriter γ) (s : Surroundings) : List Sample → List (Sample × Nat)
  | [] => []
  | x :: rest =>
    let (answer, w, s) := w.accept x s
    match answer with
    | .ok () => w.lastPts.toList.map (x, ·) ++ w.takenOf s rest
    | .error _ => w.takenOf s rest

theorem takenOf_cons_taken {x : Sample} {s : Surroundings} (taken : (w.accept x s).1 = .ok ()) {pts : Nat}
    (last : (w.accept x s).2.1.lastPts = some pts) (rest : List Sample) :
    w.takenOf s (x :: rest) = (x, pts) :: (w.accept x s).2.1.takenOf (w.accept x s).2.2 rest := by
  rw [takenOf.eq_2]
  dsimp only
  rw [taken, last]
  rfl

theorem takenOf_cons_refused {x : Sample} {s : Surroundings} (refused : (w.accept x s).1 ≠ .ok ())
    (rest : List Sample) : w.takenOf s (x :: rest) = (w.accept x s).2.1.takenOf (w.accept x s).2.2 rest := by
  rw [takenOf.eq_2]
  dsimp only
  rcases answer : (w.accept x s).1 with failure | _
  · rfl
  · exact absurd answer refused

/-- Where a writer stands after `l`, of which it took `taken`. -/
structure Stands (w : TrackWriter γ) (m : Nat) (taken : List (Sample × Nat)) (w' : TrackWriter γ) : Prop where
  track : ∃ t, w'.track = some t
  below : w'.Below m
  written : w'.written = w.written + taken.length
  stamps : taken.map (·.2) = spread w.lastPts (taken.map (·.1.info.pts))
  lastPts : w'.lastPts = (w.lastPts.toList ++ taken.map (·.2)).getLast?

/-- Each sample that is taken gets the least time stamp there is for it, whatever was refused before it. -/
theorem stands_of_track {t : OpenTrack γ} (track : w.track = some t) {m : Nat} (below : w.Below m) {l : List Sample}
    (early : ∀ x ∈ l, x.info.pts < m) (room : m + l.length ≤ wordLimit) (s : Surroundings) :
    w.Stands (m + l.length) (w.takenOf s l) (w.acceptAll s l).2.1 := by
  -- By induction on the samples; `m` grows with each, as a time stamp is moved by no more than there were samples.
  induction l generalizing w t m s with
  | nil =>
    refine ⟨⟨t, track⟩, below, rfl, rfl, ?_⟩
    cases last : w.lastPts with
    | none => exact last
    | some l => exact last
  | cons x rest ih =>
    rw [List.length_cons] at room
    have here : x.info.pts < m := early x (.head _)
    have le : moved w.lastPts x.info.pts ≤ m := moved_le here.le below
    have placed := placed_of_track track (x := x) (by omega) (by omega) s
    obtain ⟨t', track'⟩ := placed.track
    have later : ∀ y ∈ rest, y.info.pts < m + 1 := fun y hy => (early y (.tail _ hy)).trans (Nat.lt_succ_self m)
    have all : (w.acceptAll s (x :: rest)).2.1 = ((w.accept x s).2.1.acceptAll (w.accept x s).2.2 rest).2.1 := rfl
    have length : m + (x :: rest).length = m + 1 + rest.length := by
      rw [List.length_cons]
      omega
    rw [all, length]
    by_cases taken : (w.accept x s).1 = .ok ()
    · obtain ⟨_, container, same⟩ := placed.taken taken
      have last : (w.accept x s).2.1.lastPts = some (moved w.lastPts x.info.pts) := by rw [same]
      have below' : (w.accept x s).2.1.Below (m + 1) := by
        intro l hl
        rw [last] at hl
        cases hl
        omega
      have others := ih track' below' later (by omega) (w.accept x s).2.2
      rw [takenOf_cons_taken taken last]
      refine ⟨others.track, others.below, ?_, ?_, ?_⟩
      · rw [others.written, same, List.length_cons]
        dsimp only
        omega
      · rw [List.map_cons, others.stamps, last]
        rfl
      · rw [others.lastPts, last, List.map_cons]
        cases w.lastPts with
        | none => rfl
        | some l => exact List.getLast?_cons_cons.symm
    · obtain ⟨_, container, same⟩ := placed.refused taken
      have last : (w.accept x s).2.1.lastPts = w.lastPts := by rw [same]
      have below' : (w.accept x s).2.1.Below (m + 1) := by
        intro l hl
        rw [last] at hl
        exact (below l hl).trans (Nat.lt_succ_self m)
      have others := ih track' below' later (by omega) (w.accept x s).2.2
      rw [takenOf_cons_refused taken]
      refine ⟨others.track, others.below, ?_, ?_, ?_⟩
      · rw [others.written, same]
      · rw [others.stamps, last]
      · rw [others.lastPts, last]

/-- **The time stamps of a track.** A writer has its track and is given samples whose time stamps, in whatever order, are
so far from the last one there is that each could be moved by the number of samples; any of them may be refused. The
time stamps that are written for the samples that are taken are the least ones that increase and are nowhere below
those of the samples: one is changed only if it does not come after the one written before. The samples that are taken
are counted. At each moment a sample is taken if and only if the container takes it at its time stamp, moved behind the
one written last; one that is refused leaves everything but the container as it was, and the container too where a
container keeps nothing of what it refuses. -/
theorem stamps_least {c : CaptureSettings} {date : String} {dropped : Nat} {noted : Bool} {p : CodecParameters}
    {s s' : Surroundings}
    (registered : { (create c date : TrackWriter γ) with dropped, noted }.register p s = (.ok (), w, s'))
    {l : List Sample} (early : ∀ x ∈ l, x.info.pts + l.length < wordLimit) :
    let taken := w.takenOf s' l
    LeastAbove (taken.map (·.1.info.pts)) (taken.map (·.2)) ∧
      (∀ before x pts after, taken = before ++ (x, pts) :: after → pts ≠ x.info.pts →
        ∃ last ∈ (before.map (·.2)).getLast?, x.info.pts ≤ last) ∧
      (w.acceptAll s' l).2.1.written = taken.length ∧
      ∀ before x after, l = before ++ x :: after →
        let last := ((w.takenOf s' before).map (·.2)).getLast?
        let w' := (w.acceptAll s' before).2.1
        let s'' := (w.acceptAll s' before).2.2
        ∃ t, w'.track = some t ∧ w'.Placed t x (moved last x.info.pts) s'' (w'.accept x s'') := by
  intro taken
  obtain ⟨file, container, _, same⟩ := registered_eq rfl registered
  have track : w.track = some { file, container } := by rw [same]
  have fresh : w.lastPts = none := by
    rw [same]
    rfl
  have unwritten : w.written = 0 := by
    rw [same]
    rfl
  have below : w.Below (wordLimit - l.length) := by
    intro last h
    rw [fresh] at h
    cases h
  have room : l.length ≤ wordLimit := by
    rcases l with _ | ⟨x, rest⟩
    · exact Nat.zero_le _
    · have := early x (.head _)
      omega
  -- As many time stamps are left as there are samples.
  have stands {before : List Sample} (le : before.length ≤ l.length) (among : ∀ x ∈ before, x ∈ l) :
      w.Stands (wordLimit - l.length + before.length) (w.takenOf s' before) (w.acceptAll s' before).2.1 := by
    refine stands_of_track track below ?_ (by omega) s'
    intro x hx
    have := early x (among x hx)
    omega
  have all : w.Stands _ taken _ := stands (le_refl _) (fun _ hx => hx)
  have stamps : taken.map (·.2) = spread none (taken.map (·.1.info.pts)) := fresh ▸ all.stamps
  refine ⟨stamps ▸ spread_least _, ?_, ?_, ?_⟩
  · intro before x pts after parts changed
    rw [parts, List.map_append, List.map_append] at stamps
    have moved : pts = moved (before.map (·.2)).getLast? x.info.pts :=
      eq_moved_of_spread stamps (by rw [List.length_map, List.length_map])
    by_contra none
    push Not at none
    exact changed (moved.trans (moved_eq_self none))
  · rw [all.written, unwritten, Nat.zero_add]
  · intro before x after parts
    have le : before.length < l.length := by
      rw [parts, List.length_append, List.length_cons]
      omega
    have here := stands le.le (fun y hy => parts ▸ List.mem_append_left _ hy)
    have fits := early x (parts ▸ List.mem_append_right _ (.head _))
    obtain ⟨t, track'⟩ := here.track
    have last : (w.acceptAll s' before).2.1.lastPts = ((w.takenOf s' before).map (·.2)).getLast? := by
      rw [here.lastPts, fresh]
      rfl
    have le' : moved (w.acceptAll s' before).2.1.lastPts x.info.pts ≤ wordLimit - l.length + before.length :=
      moved_le (by omega) here.below
    have placed := placed_of_track track' (x := x) (by omega) (by omega) (w.acceptAll s' before).2.2
    rw [last] at placed
    exact ⟨t, track', placed⟩

/-- A sample that does not begin the track, and one that would be shown in the same tick as the one before, are refused.
A container like this one keeps nothing of them. -/
theorem stamps_least_mixed :
    let c : CaptureSettings := { width := 2, height := 2, outputPath := "o" }
    let p : CodecParameters := { width := 2, height := 2, sps := #[0x67], pps := #[0x68] }
    let data := AnnexB.startCode ++ p.sps ++ AnnexB.startCode ++ p.pps ++ AnnexB.startCode ++ #[0x65]
    let sample (pts : Nat) (keyFrame : Bool) : Sample := { data, info := { size := data.size, pts, flags := { keyFrame } } }
    let l := [sample 9 false, sample 5 true, sample 5 false, sample 0 false, sample 20 false]
    ∃ (w : TrackWriter Mp4.Movie) (s : Surroundings), (create c "today").register p {} = (.ok (), w, s) ∧
      (∀ x ∈ l, x.info.pts + l.length < wordLimit) ∧ Firm Mp4.Movie ∧
      (w.takenOf s l).map (·.1.info.pts) = [5, 5, 20] ∧ (w.takenOf s l).map (·.2) = [5, 6, 20] ∧
      LeastAbove [5, 5, 20] [5, 6, 20] ∧ (w.acceptAll s l).2.1.written = 3 := by
  intro c p data sample l
  let disk : FileTree := { entries := [(["o"], .file 0 #[])], nextId := 1 }
  let track : OpenTrack Mp4.Movie := { file := 0, container := { settings := c.track "today", track := {} } }
  let w : TrackWriter Mp4.Movie :=
    { (create c "today" : TrackWriter Mp4.Movie) with track := some track, parameters := some p }
  have created : ({} : FileTree).create "o" = (.ok 0, disk) := by cbv
  have registered : (create c "today" : TrackWriter Mp4.Movie).register p {} = (.ok (), w, { disk }) :=
    register_of_created rfl rfl created rfl
  have early : ∀ x ∈ l, x.info.pts + l.length < wordLimit := by decide +kernel
  have submitted : (w.takenOf { disk } l).map (·.1.info.pts) = [5, 5, 20] := by decide +kernel
  have stamps : (w.takenOf { disk } l).map (·.2) = [5, 6, 20] := by decide +kernel
  have length : (w.takenOf { disk } l).length = 3 := by
    rw [← List.length_map (·.2), stamps]
    rfl
  obtain ⟨least, _, written, _⟩ := @stamps_least _ _ w c "today" 0 false p {} { disk } registered l early
  rw [submitted, stamps] at least
  exact ⟨w, { disk }, registered, early, firm_movie, submitted, stamps, least, written.trans length⟩

end TrackWriter

end Camcorder
