import Mathlib
import Camcorder.Proofs.Encoding.Backlog

/-!
# Shelves

A `Shelf` is what the instances of the slot protocol have in common: places for samples, and a line in which
announcements of the format and samples wait to be taken. The place of a sample is busy until the sample was
taken, and keeps what was put there. `Shelf.Sound` is the invariant.
-/

namespace Camcorder

/-- A place on a shelf. -/
structure Place where
  sample : Sample
  busy : Bool

/-- Places for samples, and what waits: `none` is an announcement of the format, `some i` the sample in place `i`. -/
@[ext]
structure Shelf where
  places : Array Place
  line : List (Option Nat) := []

namespace Shelf

/-- What the sink is given when something is taken, `q` being the parameters of the stream. -/
def delivery (sh : Shelf) (q : CodecParameters) : Option Nat → Delivery
  | none => .format q
  | some i => .sample (((sh.places[i]?).map Place.sample).getD { data := #[], info := {} })

/-- What all that waits will be delivered as. -/
def deliveries (sh : Shelf) (q : CodecParameters) : List Delivery := sh.line.map (sh.delivery q)

/-- The busy places are those of the samples that wait, each of which waits once. -/
structure Sound (sh : Shelf) : Prop where
  distinct : sh.line.Pairwise fun a b => a = b → a = none
  busy : ∀ i place, sh.places[i]? = some place → (place.busy = true ↔ some i ∈ sh.line)
  inRange : ∀ i, some i ∈ sh.line → i < sh.places.size

/-- The same with samples that were handed out and not given back yet: their places, `taken`, are busy as well. -/
structure Lent (sh : Shelf) (taken : List Nat) : Prop where
  distinct : sh.line.Pairwise fun a b => a = b → a = none
  nodup : taken.Nodup
  apart : ∀ i ∈ taken, some i ∉ sh.line
  busy : ∀ i place, sh.places[i]? = some place → (place.busy = true ↔ some i ∈ sh.line ∨ i ∈ taken)
  inRange : ∀ i, some i ∈ sh.line ∨ i ∈ taken → i < sh.places.size

/-- A shelf of which nothing is handed out. -/
theorem lent_nil {sh : Shelf} : sh.Lent [] ↔ sh.Sound := by
  constructor
  · intro h
    refine ⟨h.distinct, ?_, fun i waits => h.inRange i (.inl waits)⟩
    intro i place hi
    rw [h.busy i place hi]
    simp
  · intro h
    refine ⟨h.distinct, List.nodup_nil, nofun, ?_, ?_⟩
    · intro i place hi
      rw [h.busy i place hi]
      simp
    · rintro i (waits | none)
      · exact h.inRange i waits
      · cases none

/-- Whether place `i` is there and not busy. -/
def IsFree (sh : Shelf) (i : Nat) : Prop := ∃ place, sh.places[i]? = some place ∧ place.busy = false

/-- Takes a place that something is to be put into. -/
def claim (sh : Shelf) (i : Nat) : Shelf :=
  { sh with places := sh.places.modify i fun place => { place with busy := true } }

/-- Gives a place back. -/
def release (sh : Shelf) (i : Nat) : Shelf :=
  { sh with places := sh.places.modify i fun place => { place with busy := false } }

/-- Announces the format. -/
def announce (sh : Shelf) : Shelf := { sh with line := sh.line ++ [none] }

/-- Puts a sample into a place. -/
def put (sh : Shelf) (i : Nat) (sample : Sample) : Shelf where
  places := sh.places.modify i fun _ => { sample, busy := true }
  line := sh.line ++ [some i]

theorem map_modify {α β : Type} {f : α → α} {f' : β → β} {g : α → β} (a : Array α) (i : Nat)
    (h : ∀ x, a[i]? = some x → g (f x) = f' (g x)) : (a.modify i f).map g = (a.map g).modify i f' := by
  apply Array.ext_getElem?
  intro j
  simp only [Array.getElem?_map, Array.getElem?_modify]
  split
  · rename_i same
    subst same
    cases hi : a[i]? with
    | none => rfl
    | some x => exact congrArg some (h x hi)
  · rfl

theorem map_modify_same {α β : Type} {f : α → α} {g : α → β} (a : Array α) (i : Nat) (h : ∀ x, g (f x) = g x) :
    (a.modify i f).map g = a.map g := by
  apply Array.ext_getElem?
  intro j
  simp only [Array.getElem?_map, Array.getElem?_modify]
  split
  · cases a[j]? with
    | none => rfl
    | some x => exact congrArg some (h x)
  · rfl

theorem modify_modify {α : Type} (a : Array α) (i : Nat) (f g : α → α) :
    (a.modify i f).modify i g = a.modify i (g ∘ f) := by
  apply Array.ext_getElem?
  intro j
  simp only [Array.getElem?_modify]
  split
  · cases a[j]? <;> rfl
  · rfl

/-- Changing one element so that `p` no longer holds of it. -/
theorem countP_modify {α : Type} {a : Array α} {i : Nat} {f : α → α} {p : α → Bool} (lt : i < a.size)
    (before : p a[i] = true) (after : p (f a[i]) = false) : (a.modify i f).countP p + 1 = a.countP p := by
  have set : a.modify i f = a.set i (f a[i]) := by
    apply Array.ext_getElem?
    intro j
    rw [Array.getElem?_modify, Array.getElem?_set]
    split
    · rename_i same
      subst same
      rw [Array.getElem?_eq_getElem lt]
      rfl
    · rfl
  have pos : 0 < a.countP p := Array.countP_pos_iff.mpr ⟨a[i], Array.getElem_mem lt, before⟩
  rw [set, Array.countP_set]
  simp only [before, after, if_true]
  simp
  omega

variable {sh : Shelf} {q : CodecParameters}

/-- To claim a place before something is put there makes no difference. -/
theorem put_claim (sh : Shelf) (i : Nat) (sample : Sample) : (sh.claim i).put i sample = sh.put i sample := by
  unfold put claim
  rw [modify_modify]
  rfl

/-- A place that is claimed and released is as it was. -/
theorem release_claim {i : Nat} (free : sh.IsFree i) : (sh.claim i).release i = sh := by
  rcases free with ⟨place, hi, free⟩
  have places : (sh.places.modify i fun place => { place with busy := true }).modify i
      (fun place => { place with busy := false }) = sh.places := by
    rw [modify_modify]
    apply Array.ext_getElem?
    intro j
    rw [Array.getElem?_modify]
    split
    · rename_i same
      subst same
      rw [hi]
      simp [← free]
    · rfl
  unfold release claim
  rw [places]

theorem deliveries_eq_cons {d : Delivery} {l : List Delivery} (h : sh.deliveries q = d :: l) :
    ∃ e rest, sh.line = e :: rest ∧ sh.delivery q e = d ∧ ({ sh with line := rest } : Shelf).deliveries q = l :=
  List.map_eq_cons_iff.mp h

theorem deliveries_congr (sh : Shelf) (q q' : CodecParameters) (h : none ∉ sh.line) :
    sh.deliveries q = sh.deliveries q' := by
  unfold deliveries
  apply List.map_congr_left
  intro e he
  cases e with
  | none => exact absurd he h
  | some i => rfl

/-- The formats to be delivered are the announcements in the line. -/
theorem formats_deliveries (sh : Shelf) (q : CodecParameters) :
    Delivery.formats (sh.deliveries q) = sh.line.count none := by
  unfold deliveries Delivery.formats
  rw [List.countP_map]
  apply List.countP_congr
  intro e _
  cases e <;> simp [delivery, Delivery.isFormat]

/-! ## Taking -/

/-- To release a place does not change what is to be delivered. -/
theorem deliveries_release (sh : Shelf) (q : CodecParameters) (i : Nat) :
    (sh.release i).deliveries q = sh.deliveries q := by
  unfold deliveries
  apply List.map_congr_left
  intro e _
  cases e with
  | none => rfl
  | some j =>
    simp only [delivery, release, Array.getElem?_modify]
    split
    · cases sh.places[j]? <;> rfl
    · rfl

variable {taken : List Nat}

/-- The line moves up when the format is taken. -/
theorem Lent.take_format {rest : List (Option Nat)} (h : sh.Lent taken) (hl : sh.line = none :: rest) :
    Lent { sh with line := rest } taken := by
  have distinct := h.distinct
  rw [hl] at distinct
  refine ⟨distinct.of_cons, h.nodup, ?_, ?_, ?_⟩
  · intro i hi waits
    exact h.apart i hi (by rw [hl]; exact .tail _ waits)
  · intro i place hi
    rw [h.busy i place hi, hl]
    simp
  · rintro i (waits | hi)
    · exact h.inRange i (.inl (by rw [hl]; exact .tail _ waits))
    · exact h.inRange i (.inr hi)

/-- A sample that was taken goes on to keep its place busy. -/
theorem Lent.take_sample {i : Nat} {rest : List (Option Nat)} (h : sh.Lent taken) (hl : sh.line = some i :: rest) :
    Lent { sh with line := rest } (i :: taken) := by
  have distinct := h.distinct
  rw [hl] at distinct
  -- The sample waited only once.
  have alone : some i ∉ rest := by
    intro hi
    cases List.rel_of_pairwise_cons distinct hi rfl
  have new : i ∉ taken := by
    intro hi
    exact h.apart i hi (by rw [hl]; exact .head _)
  have same (j : Nat) : (some j ∈ sh.line ∨ j ∈ taken) ↔ (some j ∈ rest ∨ j ∈ i :: taken) := by
    rw [hl, List.mem_cons, List.mem_cons, Option.some.injEq]
    tauto
  refine ⟨distinct.of_cons, List.nodup_cons.mpr ⟨new, h.nodup⟩, ?_, ?_, ?_⟩
  · intro j hj waits
    rcases List.mem_cons.mp hj with rfl | hj
    · exact alone waits
    · exact h.apart j hj (by rw [hl]; exact .tail _ waits)
  · intro j place hj
    rw [← same]
    exact h.busy j place hj
  · intro j hj
    exact h.inRange j ((same j).mpr hj)

/-- A place that is given back is free. -/
theorem Lent.release {i : Nat} (h : sh.Lent taken) (hi : i ∈ taken) : Lent (sh.release i) (taken.erase i) := by
  refine ⟨h.distinct, h.nodup.erase i, fun j hj => h.apart j (List.mem_of_mem_erase hj), ?_, ?_⟩
  · intro j place hj
    simp only [Shelf.release, Array.getElem?_modify] at hj ⊢
    rw [h.nodup.mem_erase_iff]
    split at hj
    · rename_i same
      subst same
      rcases Option.map_eq_some_iff.mp hj with ⟨old, _, rfl⟩
      simp [h.apart i hi]
    · rename_i other
      rw [h.busy j place hj]
      simp [Ne.symm other]
  · rintro j (waits | hj)
    · simpa [Shelf.release] using h.inRange j (.inl waits)
    · simpa [Shelf.release] using h.inRange j (.inr (List.mem_of_mem_erase hj))

theorem Sound.take_format {rest : List (Option Nat)} (h : Sound sh) (hl : sh.line = none :: rest) :
    Sound { sh with line := rest } :=
  lent_nil.mp ((lent_nil.mpr h).take_format hl)

/-- The line moves up when a sample is taken and its place is released. -/
theorem Sound.take_sample {i : Nat} {rest : List (Option Nat)} (h : Sound sh) (hl : sh.line = some i :: rest) :
    Sound (release { sh with line := rest } i) := by
  have given := ((lent_nil.mpr h).take_sample hl).release (i := i) List.mem_cons_self
  rw [List.erase_cons_head] at given
  exact lent_nil.mp given

/-! ## Adding -/

/-- An announcement takes no place. -/
theorem Lent.announce (h : sh.Lent taken) : Lent sh.announce taken := by
  have same (i : Nat) : some i ∈ sh.announce.line ↔ some i ∈ sh.line := by simp [Shelf.announce]
  refine ⟨?_, h.nodup, ?_, ?_, ?_⟩
  · simp only [Shelf.announce, List.pairwise_append, List.mem_singleton]
    refine ⟨h.distinct, List.pairwise_singleton _ _, ?_⟩
    rintro a _ b rfl same
    exact same
  · intro i hi
    rw [same]
    exact h.apart i hi
  · intro i place hi
    rw [same]
    exact h.busy i place hi
  · intro i hi
    rw [same] at hi
    exact h.inRange i hi

theorem Sound.announce (h : Sound sh) : Sound sh.announce := lent_nil.mp (lent_nil.mpr h).announce

/-- An announcement is delivered after everything that waits. -/
theorem deliveries_announce (sh : Shelf) (q : CodecParameters) :
    sh.announce.deliveries q = sh.deliveries q ++ [.format q] := by
  simp only [deliveries, announce, List.map_append]
  rfl

/-- A free place is neither in the line nor taken. -/
theorem Lent.fresh {i : Nat} (h : sh.Lent taken) (free : sh.IsFree i) : some i ∉ sh.line ∧ i ∉ taken := by
  rcases free with ⟨place, hi, free⟩
  have idle : ¬ (some i ∈ sh.line ∨ i ∈ taken) := by
    rw [← h.busy i place hi, free]
    exact Bool.false_ne_true
  exact not_or.mp idle

/-- A sample can be put into any free place. -/
theorem Lent.put {i : Nat} (h : sh.Lent taken) (free : sh.IsFree i) (sample : Sample) :
    Lent (sh.put i sample) taken := by
  obtain ⟨fresh, new⟩ := h.fresh free
  refine ⟨?_, h.nodup, ?_, ?_, ?_⟩
  · simp only [Shelf.put, List.pairwise_append, List.mem_singleton]
    refine ⟨h.distinct, List.pairwise_singleton _ _, ?_⟩
    rintro a ha b rfl rfl
    exact absurd ha fresh
  · intro j hj waits
    rcases List.mem_append.mp waits with old | last
    · exact h.apart j hj old
    · cases List.mem_singleton.mp last
      exact new hj
  · intro j place hj
    simp only [Shelf.put, Array.getElem?_modify] at hj ⊢
    split at hj
    · rename_i same
      subst same
      rcases Option.map_eq_some_iff.mp hj with ⟨old, _, rfl⟩
      simp
    · rename_i other
      rw [h.busy j place hj]
      simp [Ne.symm other]
  · intro j hj
    simp only [Shelf.put, Array.size_modify] at hj ⊢
    rcases hj with waits | held
    · rcases List.mem_append.mp waits with old | new
      · exact h.inRange j (.inl old)
      · cases List.mem_singleton.mp new
        rcases free with ⟨place, hi, _⟩
        exact (Array.getElem?_eq_some_iff.mp hi).1
    · exact h.inRange j (.inr held)

theorem Sound.put {i : Nat} (h : Sound sh) (free : sh.IsFree i) (sample : Sample) : Sound (sh.put i sample) :=
  lent_nil.mp ((lent_nil.mpr h).put free sample)

/-- A sample that is put is delivered after everything that waits. -/
theorem Lent.deliveries_put {i : Nat} (h : sh.Lent taken) (free : sh.IsFree i) (q : CodecParameters) (sample : Sample) :
    (sh.put i sample).deliveries q = sh.deliveries q ++ [.sample sample] := by
  have fresh := (h.fresh free).1
  have last : (sh.put i sample).delivery q (some i) = .sample sample := by
    rcases free with ⟨place, hi, _⟩
    simp [delivery, Shelf.put, Array.getElem?_modify, hi]
  -- What waits already is in other places.
  have before (e : Option Nat) (he : e ∈ sh.line) : (sh.put i sample).delivery q e = sh.delivery q e := by
    cases e with
    | none => rfl
    | some j =>
      have other : i ≠ j := by
        rintro rfl
        exact fresh he
      simp only [delivery, Shelf.put, Array.getElem?_modify, if_neg other]
  have line : (sh.put i sample).line = sh.line ++ [some i] := rfl
  unfold deliveries
  rw [line, List.map_append, List.map_congr_left before, List.map_singleton, last]

theorem deliveries_put {i : Nat} (h : Sound sh) (free : sh.IsFree i) (q : CodecParameters) (sample : Sample) :
    (sh.put i sample).deliveries q = sh.deliveries q ++ [.sample sample] :=
  (lent_nil.mpr h).deliveries_put free q sample

/-- What was handed out stays as it is. -/
theorem Lent.places_put {i j : Nat} (h : sh.Lent taken) (free : sh.IsFree i) (sample : Sample) (hj : j ∈ taken) :
    (sh.put i sample).places[j]? = sh.places[j]? := by
  have other : i ≠ j := by
    rintro rfl
    exact (h.fresh free).2 hj
  simp only [Shelf.put, Array.getElem?_modify, if_neg other]

/-- A shelf on which nothing waits and no place is busy. -/
theorem sound_of_idle (line : sh.line = []) (idle : ∀ place ∈ sh.places, place.busy = false) : Sound sh := by
  refine ⟨?_, ?_, ?_⟩
  · rw [line]
    exact .nil
  · intro i place hi
    rw [line, idle place (Array.mem_of_getElem? hi)]
    simp
  · intro i hi
    rw [line] at hi
    cases hi

/-- If no more than one sample waits, and nothing else, a place is free among any two. -/
theorem Sound.exists_isFree (h : Sound sh) (two : 2 ≤ sh.places.size)
    (few : sh.line = [] ∨ ∃ i, sh.line = [some i]) : ∃ i, sh.IsFree i := by
  -- A busy place would wait in the line.
  have isFree {i : Nat} (lt : i < sh.places.size) (absent : some i ∉ sh.line) : sh.IsFree i := by
    refine ⟨sh.places[i], Array.getElem?_eq_getElem lt, ?_⟩
    by_contra busy
    rw [Bool.not_eq_false] at busy
    exact absent ((h.busy i _ (Array.getElem?_eq_getElem lt)).mp busy)
  rcases few with none | ⟨i, one⟩
  · exact ⟨0, isFree (by omega) (by rw [none]; exact List.not_mem_nil)⟩
  · by_cases hi : i = 0
    · exact ⟨1, isFree (by omega) (by simp [one, hi])⟩
    · exact ⟨0, isFree (by omega) (by simp [one, Ne.symm hi])⟩

end Shelf

end Camcorder
