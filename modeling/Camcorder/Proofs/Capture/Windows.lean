import Mathlib
import Camcorder.Proofs.Capture.SoundPreferences

/-!
# Windows of throughput reports

The timings of a run fall into windows of one length, one after the other; the last one may not be full yet. A monitor
holds the window under way (`Throughput.Keeps`), and `Throughput.reports_by_window` says that its reports are the
summaries of the full ones.
-/

namespace Camcorder.Throughput

variable {t : Throughput} {c : ℕ} {timings : List FrameTiming}

/-- The monitor after these timings were recorded, one after the other. -/
def run (t : Throughput) (timings : List FrameTiming) : Throughput :=
  timings.foldl (fun t timing => (t.record timing).2) t

/-- The reports that come of these timings, in order. -/
def reports (t : Throughput) : List FrameTiming → List ThroughputReport
  | [] => []
  | timing :: rest => (t.record timing).1.toList ++ (t.record timing).2.reports rest

theorem run_concat (t : Throughput) (timings : List FrameTiming) (timing : FrameTiming) :
    t.run (timings ++ [timing]) = ((t.run timings).record timing).2 := by
  unfold run
  rw [List.foldl_append]
  rfl

/-- The reports after one more timing: the last one may have filled a window. -/
theorem reports_concat (t : Throughput) (timings : List FrameTiming) (timing : FrameTiming) :
    t.reports (timings ++ [timing]) = t.reports timings ++ ((t.run timings).record timing).1.toList := by
  induction timings generalizing t with
  | nil => exact List.append_nil _
  | cons first rest ih =>
    have later : (t.record first).2.run rest = t.run (first :: rest) := rfl
    rw [List.cons_append, reports, ih, later, reports, List.append_assoc]

/-! ## Windows of a list -/

/-- Window `k` of a list that is cut every `c` elements. -/
def window {α : Type} (c : ℕ) (l : List α) (k : ℕ) : List α := (l.drop (k * c)).take c

/-- What comes after the last full window. -/
def rest {α : Type} (c : ℕ) (l : List α) : List α := l.drop (l.length / c * c)

section Cutting

variable {α : Type} {l : List α} {k : ℕ}

theorem length_rest (c : ℕ) (l : List α) : (rest c l).length = l.length % c := by
  unfold rest
  rw [List.length_drop, Nat.mod_eq_sub_div_mul]

theorem length_window (full : (k + 1) * c ≤ l.length) : (window c l k).length = c := by
  rw [Nat.add_mul, Nat.one_mul] at full
  unfold window
  rw [List.length_take, List.length_drop]
  omega

/-- A full window stays as it is, whatever comes later. -/
theorem window_append (full : (k + 1) * c ≤ l.length) (m : List α) : window c (l ++ m) k = window c l k := by
  rw [Nat.add_mul, Nat.one_mul] at full
  unfold window
  rw [List.drop_append_of_le_length (by omega), List.take_append_of_le_length]
  rw [List.length_drop]
  omega

/-- Every element is in one window, or comes after the last full one. -/
theorem flatten_windows (c : ℕ) (l : List α) {n : ℕ} (full : n * c ≤ l.length) :
    ((List.range n).map (window c l)).flatten ++ l.drop (n * c) = l := by
  induction n with
  | zero => simp
  | succ n ih =>
    have earlier : n * c ≤ l.length := (Nat.mul_le_mul_right c (Nat.le_succ n)).trans full
    have next : window c l n ++ l.drop ((n + 1) * c) = l.drop (n * c) := by
      have start : (n + 1) * c = n * c + c := Nat.succ_mul n c
      unfold window
      rw [start, ← List.drop_drop, List.take_append_drop]
    rw [List.range_succ, List.map_append, List.flatten_append, List.map_singleton, List.flatten_singleton,
      List.append_assoc, next]
    exact ih earlier

/-- One element more is added to the rest, or completes a window. -/
theorem rest_concat (pos : 0 < c) (l : List α) (a : α) :
    (l.length % c + 1 < c ∧ (l.length + 1) / c = l.length / c ∧ rest c (l ++ [a]) = rest c l ++ [a]) ∨
    (l.length % c + 1 = c ∧ (l.length + 1) / c = l.length / c + 1 ∧ rest c (l ++ [a]) = [] ∧
      window c (l ++ [a]) (l.length / c) = rest c l ++ [a]) := by
  have parts : l.length / c * c + l.length % c = l.length := Nat.div_add_mod' l.length c
  have below : l.length % c < c := Nat.mod_lt _ pos
  have start : l.length / c * c ≤ l.length := Nat.div_mul_le_self _ _
  have longer : (l ++ [a]).length = l.length + 1 := List.length_append
  have dropped : (l ++ [a]).drop (l.length / c * c) = rest c l ++ [a] := List.drop_append_of_le_length start
  by_cases more : l.length % c + 1 < c
  · left
    have same : (l.length + 1) / c = l.length / c := by
      apply Nat.div_eq_of_lt_le
      · omega
      · rw [Nat.add_mul, Nat.one_mul]
        omega
    refine ⟨more, same, ?_⟩
    rw [← dropped, rest, longer, same]
  · right
    have full : l.length % c + 1 = c := by omega
    have next : l.length + 1 = (l.length / c + 1) * c := by
      rw [Nat.add_mul, Nat.one_mul]
      omega
    have quotient : (l.length + 1) / c = l.length / c + 1 := by rw [next, Nat.mul_div_cancel _ pos]
    refine ⟨full, quotient, ?_, ?_⟩
    · unfold rest
      rw [longer, quotient, ← next]
      exact List.drop_eq_nil_of_le longer.le
    · unfold window
      rw [dropped]
      apply List.take_of_length_le
      rw [List.length_append, length_rest, List.length_singleton]
      exact full.le

end Cutting

/-! ## The window under way -/

/-- What a monitor for windows of `c` timings holds after these were recorded. -/
structure Keeps (c : ℕ) (minimumRate : Float) (timings : List FrameTiming) (t : Throughput) : Prop where
  capacity : t.capacity = c
  minimumRate : t.minimumRate = minimumRate
  pending : t.pending.toList = rest c timings
  windows : t.windows = timings.length / c

variable {minimumRate : Float}

/-- What is pending is what the last full window left over. -/
theorem Keeps.size (h : Keeps c minimumRate timings t) : t.pending.size = timings.length % c := by
  rw [← Array.length_toList, h.pending, length_rest]

/-- The timing that completes a window is answered with the summary of that window, and any other with nothing. -/
theorem Keeps.record (h : Keeps c minimumRate timings t) (pos : 0 < c) (timing : FrameTiming) :
    Keeps c minimumRate (timings ++ [timing]) (t.record timing).2 ∧
      (t.record timing).1 =
        if c ∣ timings.length + 1 then
          some (summarize (window c (timings ++ [timing]) (timings.length / c)) minimumRate)
        else none := by
  have held : (t.pending.push timing).toList = rest c timings ++ [timing] := by
    rw [Array.toList_push, h.pending]
  have size : (t.pending.push timing).size = timings.length % c + 1 := by rw [Array.size_push, h.size]
  have divides : c ∣ timings.length + 1 ↔ timings.length % c + 1 = c := by
    have below : timings.length % c < c := Nat.mod_lt _ pos
    rw [Nat.dvd_iff_mod_eq_zero, Nat.add_mod_eq_ite]
    rcases Nat.lt_or_eq_of_le (Nat.succ_le_of_lt pos) with many | one
    · rw [Nat.mod_eq_of_lt many]
      split <;> omega
    · simp [← one, Nat.mod_one]
  unfold Throughput.record
  dsimp only
  rw [size, h.capacity]
  rcases rest_concat pos timings timing with ⟨more, quotient, left⟩ | ⟨full, quotient, left, done⟩
  · rw [if_pos more, if_neg (fun all => more.ne (divides.mp all))]
    refine ⟨⟨rfl, h.minimumRate, held.trans left.symm, ?_⟩, rfl⟩
    rw [List.length_append, List.length_singleton, quotient]
    exact h.windows
  · rw [if_neg (by omega), if_pos (divides.mpr full), held, done, h.minimumRate]
    refine ⟨⟨rfl, rfl, left.symm, ?_⟩, rfl⟩
    rw [List.length_append, List.length_singleton, quotient, h.windows]

/-- After any timings the monitor holds the window under way, and has reported on the full ones. -/
theorem keeps_run (fresh : Keeps c minimumRate [] t) (pos : 0 < c) (timings : List FrameTiming) :
    Keeps c minimumRate timings (t.run timings) ∧
      t.reports timings =
        (List.range (timings.length / c)).map fun k => summarize (window c timings k) minimumRate := by
  -- By induction on the timings, the last one first.
  induction timings using List.reverseRecOn with
  | nil =>
    refine ⟨fresh, ?_⟩
    rw [List.length_nil, Nat.zero_div]
    rfl
  | append_singleton timings timing ih =>
    obtain ⟨kept, reported⟩ := ih
    obtain ⟨kept', answer⟩ := kept.record pos timing
    refine ⟨by rw [run_concat]; exact kept', ?_⟩
    have earlier : ((List.range (timings.length / c)).map fun k => summarize (window c timings k) minimumRate) =
        (List.range (timings.length / c)).map fun k => summarize (window c (timings ++ [timing]) k) minimumRate := by
      refine List.map_congr_left fun k hk => ?_
      have full : (k + 1) * c ≤ timings.length :=
        (Nat.mul_le_mul_right c (List.mem_range.mp hk)).trans (Nat.div_mul_le_self _ _)
      rw [window_append full]
    rw [reports_concat, reported, answer, earlier, List.length_append, List.length_singleton, Nat.succ_div]
    split
    · rw [List.range_succ, List.map_append]
      rfl
    · exact List.append_nil _

/-! ## Reports -/

/-- The window that the last timing completes is the last `c` timings. -/
theorem window_concat (pos : 0 < c) (last : FrameTiming) (divides : c ∣ timings.length + 1) :
    window c (timings ++ [last]) (timings.length / c) = (timings ++ [last]).drop (timings.length + 1 - c) := by
  have quotient : timings.length / c * c + c = timings.length + 1 := by
    have next : (timings.length + 1) / c = timings.length / c + 1 := Nat.succ_div_of_dvd divides
    rw [← Nat.succ_mul, ← Nat.add_one, ← next, Nat.div_mul_cancel divides]
  have start : timings.length + 1 - c = timings.length / c * c := by omega
  unfold window
  rw [start]
  apply List.take_of_length_le
  rw [List.length_drop, List.length_append, List.length_singleton]
  omega

/-- What a monitor for windows of `c` timings has to show for the timings recorded so far. -/
structure ByWindow (c : ℕ) (minimumRate : Float) (timings : List FrameTiming) (t : Throughput) : Prop where
  pending : (t.run timings).pending.size = timings.length % c
  bounded : (t.run timings).pending.size ≤ c - 1
  windows : (t.run timings).windows = timings.length / c
  /-- The reports are the summaries of the full windows, in order. -/
  reports : t.reports timings =
    (List.range (timings.length / c)).map fun k => summarize (window c timings k) minimumRate
  frames : ∀ report ∈ t.reports timings, report.frames = c
  /-- Every timing is in one full window or is pending. -/
  partition : ((List.range (timings.length / c)).map (window c timings)).flatten ++
    (t.run timings).pending.toList = timings
  /-- The timing that comes next is answered with a report just if it completes a window. -/
  answer : ∀ last, ((t.run timings).record last).1 =
    if c ∣ timings.length + 1 then
      some (summarize ((timings ++ [last]).drop (timings.length + 1 - c)) minimumRate)
    else none

/-- A fresh meter reports window by window. -/
theorem Keeps.byWindow (fresh : Keeps c minimumRate [] t) (pos : 0 < c) (timings : List FrameTiming) :
    ByWindow c minimumRate timings t := by
  obtain ⟨kept, reported⟩ := keeps_run fresh pos timings
  have below : timings.length % c < c := Nat.mod_lt _ pos
  have full (n : ℕ) (hn : n ≤ timings.length / c) : n * c ≤ timings.length :=
    (Nat.mul_le_mul_right c hn).trans (Nat.div_mul_le_self _ _)
  refine ⟨kept.size, ?_, kept.windows, reported, ?_, ?_, fun last => ?_⟩
  · rw [kept.size]
    omega
  · intro report member
    rw [reported] at member
    obtain ⟨k, hk, rfl⟩ := List.mem_map.mp member
    exact length_window (full (k + 1) (List.mem_range.mp hk))
  · rw [kept.pending]
    exact flatten_windows c timings (full _ le_rfl)
  · rw [(kept.record pos last).2]
    split
    case isTrue divides => rw [window_concat pos last divides]
    case isFalse => rfl

/-- **Throughput is reported window by window.** A monitor for windows of `capacity` timings, of one timing if that is
zero, has recorded each timing in one window only and has reported on the full ones. There is such a monitor unless no
buffer for so long a window can be asked for. -/
theorem reports_by_window (capacity : ℕ) (minimumRate : Float) :
    (capacity ≤ greatestWindow → ∃ t, create capacity minimumRate = .ok t ∧ t.capacity = max capacity 1 ∧
      ∀ timings, ByWindow (max capacity 1) minimumRate timings t) ∧
    (greatestWindow < capacity → create capacity minimumRate = Attempt.halt .tooLarge) := by
  rw [create_eq]
  constructor
  · intro small
    have fresh : Keeps (max capacity 1) minimumRate [] { capacity := max capacity 1, minimumRate } :=
      ⟨rfl, rfl, (List.drop_nil).symm, (Nat.zero_div _).symm⟩
    rw [if_pos small]
    exact ⟨_, rfl, rfl, fresh.byWindow (by omega)⟩
  · intro large
    rw [if_neg (Nat.not_le.mpr large)]

/-- Three timings in windows of two: one report on the first two, with the third one pending. -/
theorem reports_by_window_pair :
    let timing (n : ℕ) : FrameTiming := { conversion := {}, encoding := {}, total := { nanos := n } }
    2 ≤ greatestWindow ∧ ∃ t, create 2 15.0 = .ok t ∧
      t.reports [timing 1, timing 2, timing 3] = [summarize [timing 1, timing 2] 15.0] ∧
      (t.run [timing 1, timing 2, timing 3]).pending.size = 1 := by
  intro timing
  have small : 2 ≤ greatestWindow := by decide +kernel
  obtain ⟨t, made, _, windows⟩ := (reports_by_window 2 15.0).1 small
  obtain ⟨pending, _, _, reported, _⟩ := windows [timing 1, timing 2, timing 3]
  have full : List.range (3 / max 2 1) = [0] := by decide +kernel
  have left : 3 % max 2 1 = 1 := by decide +kernel
  rw [show [timing 1, timing 2, timing 3].length = 3 from rfl, full] at reported
  exact ⟨small, t, made, reported, pending.trans left⟩

/-- There is no monitor for windows of `2 ^ 63 - 1` timings, so none that holds one timing of them. -/
theorem longest_window_refused :
    create 9223372036854775807 15.0 = Attempt.halt .tooLarge ∧
      ¬ ∃ t, create 9223372036854775807 15.0 = .ok t ∧
        ∀ timings, (t.run timings).pending.size = timings.length % 9223372036854775807 := by
  have refused : create 9223372036854775807 15.0 = Attempt.halt .tooLarge := by
    rw [create_eq, if_neg (by decide +kernel)]
  refine ⟨refused, ?_⟩
  rintro ⟨t, made, _⟩
  rw [refused] at made
  cases made

end Camcorder.Throughput
