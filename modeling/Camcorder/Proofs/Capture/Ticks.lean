import Mathlib
import Camcorder.Capture.TrackWriter
import Camcorder.Mp4.Document
import Camcorder.Proofs.Capture.OutputFile

/-!
# Time stamps and ticks

A writer moves a time stamp that does not increase a microsecond behind the one before. The container counts time in
ticks, which are longer: two time stamps that differ may fall into the same tick, and then the later sample is refused.
`TrackWriter.all_taken_iff` says when no sample is.
-/

namespace Camcorder

/-- The time at which a container is told to show a sample. -/
def secondsOf (pts : Nat) : Float := Float.ofNat pts / 1000000.0

/-- A container that puts its samples in order by ticks. The function `tick` says in which tick a time lies, and `last?`
is the tick of the sample that was taken last. The first sample has to be a key picture that carries the parameter sets;
a later one is taken if and only if its tick is a later one. -/
structure Container.Ticking (γ : Type) [Container γ] (tick : Float → Nat) (last? : γ → Option Nat) : Prop where
  built : ∀ {s : TrackSettings} {c : γ}, Container.build s = .ok c → last? c = none
  first : ∀ {c : γ} (seconds : Float) {data : Bytes}, last? c = none → data ≠ #[] → (Mp4.Track.setsOf? data).isSome →
    ∃ c', Container.write c seconds data true = (.ok (), c') ∧ last? c' = some (tick seconds)
  later : ∀ {c : γ} {t : Nat} {seconds : Float} {data : Bytes} (key : Bool), last? c = some t → data ≠ #[] →
    t < tick seconds → ∃ c', Container.write c seconds data key = (.ok (), c') ∧ last? c' = some (tick seconds)
  refused : ∀ {c : γ} {t : Nat} {seconds : Float} {data : Bytes} (key : Bool), last? c = some t → data ≠ #[] →
    tick seconds ≤ t → ∃ reason c', Container.write c seconds data key = (.error reason, c') ∧ last? c' = some t

/-- What such a container makes of a sample after the one shown at `last`. -/
theorem Container.Ticking.write_cases {γ : Type} [Container γ] {tick : Float → Nat} {last? : γ → Option Nat}
    (ticking : Container.Ticking γ tick last?) {c : γ} {last : Option Float} (clock : last? c = last.map tick)
    {data : Bytes} (holds : data ≠ #[]) {key : Bool}
    (first : last = none → key = true ∧ (Mp4.Track.setsOf? data).isSome) (seconds : Float) :
    ((∀ l ∈ last, tick l < tick seconds) ∧
      ∃ c', Container.write c seconds data key = (.ok (), c') ∧ last? c' = some (tick seconds)) ∨
    ¬(∀ l ∈ last, tick l < tick seconds) ∧ ∃ reason c', Container.write c seconds data key = (.error reason, c') := by
  cases last with
  | none =>
    left
    obtain ⟨rfl, sets⟩ := first rfl
    exact ⟨nofun, ticking.first seconds clock holds sets⟩
  | some l =>
    by_cases later : tick l < tick seconds
    · left
      refine ⟨?_, ticking.later key clock holds later⟩
      intro l' same
      cases same
      exact later
    · right
      obtain ⟨reason, c', refused, _⟩ := ticking.refused key clock holds (Nat.le_of_not_lt later)
      exact ⟨fun all => later (all l rfl), reason, c', refused⟩

/-! ## Time stamps -/

/-- The time stamp that is written for `pts` after `last`. -/
def moved (last : Option Nat) (pts : Nat) : Nat :=
  match last with
  | none => pts
  | some last => max pts (last + 1)

/-- The time stamps that are written if every sample is taken. -/
def spread (last : Option Nat) : List Nat → List Nat
  | [] => []
  | pts :: rest => moved last pts :: spread (some (moved last pts)) rest

/-- Time stamps that increase are written as they are. -/
theorem spread_of_increasing {last : Option Nat} {stamps : List Nat}
    (increasing : (last.toList ++ stamps).IsChain (· < ·)) : spread last stamps = stamps := by
  induction stamps generalizing last with
  | nil => rfl
  | cons pts rest ih =>
    have same : moved last pts = pts := by
      cases last with
      | none => rfl
      | some l =>
        have lt : l < pts := (List.isChain_cons_cons.mp increasing).1
        exact max_eq_left lt
    have later : (pts :: rest).IsChain (· < ·) := by
      cases last with
      | none => exact increasing
      | some l => exact (List.isChain_cons_cons.mp increasing).2
    have kept : spread (some pts) rest = rest := ih later
    unfold spread
    rw [same, kept]

/-- The time stamps to be written after `last` are there, and each is in a later tick than the one before. -/
def Rises (tickAt : Nat → Nat) (last : Option Nat) (stamps : List Nat) : Prop :=
  (∀ pts ∈ spread last stamps, pts < wordLimit) ∧
    (last.toList ++ spread last stamps).IsChain (fun p q => tickAt p < tickAt q)

/-- Stamps rise if the first one does and the others rise after it. -/
theorem rises_cons {tickAt : Nat → Nat} {last : Option Nat} {pts : Nat} {rest : List Nat} :
    Rises tickAt last (pts :: rest) ↔
      (moved last pts < wordLimit ∧ ∀ l ∈ last, tickAt l < tickAt (moved last pts)) ∧
        Rises tickAt (some (moved last pts)) rest := by
  unfold Rises
  have fit : (∀ q ∈ spread last (pts :: rest), q < wordLimit) ↔
      moved last pts < wordLimit ∧ ∀ q ∈ spread (some (moved last pts)) rest, q < wordLimit := List.forall_mem_cons
  have chain : (last.toList ++ spread last (pts :: rest)).IsChain (fun p q => tickAt p < tickAt q) ↔
      (∀ l ∈ last, tickAt l < tickAt (moved last pts)) ∧
        (moved last pts :: spread (some (moved last pts)) rest).IsChain (fun p q => tickAt p < tickAt q) := by
    cases last with
    | none => exact ⟨fun chain => ⟨nofun, chain⟩, fun both => both.2⟩
    | some l =>
      refine List.isChain_cons_cons.trans (and_congr_left' ?_)
      exact ⟨fun lt _ same => Option.some_inj.mp same ▸ lt, fun all => all l rfl⟩
  rw [fit, chain]
  exact and_and_and_comm

namespace TrackWriter

variable {γ : Type} [Container γ]

/-- The stamp to write is the moved one, as long as it fits into a word. -/
theorem nextPts_eq {last : Option Nat} {pts : Nat} (fits : pts < wordLimit) :
    nextPts last pts = if moved last pts < wordLimit then .ok (moved last pts) else Attempt.halt .overflow := by
  cases last with
  | none => exact (if_pos fits).symm
  | some l =>
    unfold nextPts
    dsimp only
    by_cases behind : pts ≤ l
    · have next : moved (some l) pts = l + 1 := max_eq_right (by omega)
      rw [if_pos behind, next]
      unfold word?
      split
      · rfl
      · rfl
    · have same : moved (some l) pts = pts := max_eq_left (by omega)
      rw [if_neg behind, same, if_pos fits]

/-! ## Samples -/

/-- A sample is counted if and only if it is taken. -/
theorem accept_written (w : TrackWriter γ) (x : Sample) (s : Surroundings) :
    ((w.accept x s).1 = .ok () ∧ (w.accept x s).2.1.written = w.written + 1) ∨
    ((w.accept x s).1 ≠ .ok () ∧ (w.accept x s).2.1.written = w.written) := by
  unfold accept
  cases w.track with
  | none => exact .inr ⟨nofun, rfl⟩
  | some t =>
    dsimp only
    unfold writeTo
    dsimp only
    split
    · exact .inr ⟨nofun, rfl⟩
    · split
      · exact .inr ⟨nofun, rfl⟩
      · exact .inl ⟨rfl, rfl⟩

/-- Takes samples one after the other. -/
def acceptAll (w : TrackWriter γ) (s : Surroundings) : List Sample → List (Attempt Unit) × TrackWriter γ × Surroundings
  | [] => ([], w, s)
  | x :: rest =>
    let (answer, w, s) := w.accept x s
    let (answers, w, s) := w.acceptAll s rest
    (answer :: answers, w, s)

/-- Every sample is taken. -/
def TakesAll (w : TrackWriter γ) (s : Surroundings) (l : List Sample) : Prop := ∀ a ∈ (w.acceptAll s l).1, a = .ok ()

theorem takesAll_cons {w : TrackWriter γ} {s : Surroundings} {x : Sample} {rest : List Sample} :
    w.TakesAll s (x :: rest) ↔
      (w.accept x s).1 = .ok () ∧ (w.accept x s).2.1.TakesAll (w.accept x s).2.2 rest := List.forall_mem_cons

/-- A writer counts no more than it was given, and as many just when it took them all. -/
theorem acceptAll_written (w : TrackWriter γ) (s : Surroundings) (l : List Sample) :
    (w.acceptAll s l).2.1.written ≤ w.written + l.length ∧
      (w.TakesAll s l ↔ (w.acceptAll s l).2.1.written = w.written + l.length) := by
  induction l generalizing w s with
  | nil => exact ⟨le_refl _, fun _ => rfl, fun _ => nofun⟩
  | cons x rest ih =>
    have last : (w.acceptAll s (x :: rest)).2.1 = ((w.accept x s).2.1.acceptAll (w.accept x s).2.2 rest).2.1 := rfl
    obtain ⟨le, all⟩ := ih (w.accept x s).2.1 (w.accept x s).2.2
    rw [takesAll_cons, last, List.length_cons]
    rcases w.accept_written x s with ⟨taken, more⟩ | ⟨refused, same⟩
    · rw [more] at le all
      refine ⟨by omega, ?_⟩
      rw [and_iff_right taken, all]
      omega
    · rw [same] at le
      refine ⟨by omega, ?_⟩
      constructor
      · rintro ⟨taken, _⟩
        exact absurd taken refused
      · omega

/-- A sample that can be read, and holds something. -/
structure Playable (x : Sample) : Prop where
  fits : x.info.pts < wordLimit
  payload : ∃ data, x.payload? = some data ∧ data ≠ #[]

/-- A key picture that carries the parameter sets. -/
structure Opens (x : Sample) : Prop where
  key : x.info.flags.keyFrame = true
  sets : ∃ data, x.payload? = some data ∧ (Mp4.Track.setsOf? data).isSome

/-- The time stamp written last is `last`, and the container knows its tick. -/
structure Ticks (tick : Float → Nat) (last? : γ → Option Nat) (w : TrackWriter γ) (last : Option Nat) : Prop where
  lastPts : w.lastPts = last
  track : ∃ t, w.track = some t ∧ last? t.container = (last.map secondsOf).map tick

variable {tick : Float → Nat} {last? : γ → Option Nat} {w : TrackWriter γ} {last : Option Nat}

/-- A sample is taken if and only if the time stamp that is written for it is there, and in a later tick. -/
theorem accept_ticks (ticking : Container.Ticking γ tick last?) (h : Ticks tick last? w last) {x : Sample}
    (playable : Playable x) (opens : last = none → Opens x) (s : Surroundings) :
    let pts := moved last x.info.pts
    let later := pts < wordLimit ∧ ∀ l ∈ last, tick (secondsOf l) < tick (secondsOf pts)
    (later ∧ (w.accept x s).1 = .ok () ∧ Ticks tick last? (w.accept x s).2.1 (some pts)) ∨
      ¬later ∧ (w.accept x s).1 ≠ .ok () := by
  intro pts later
  obtain ⟨t, track, clock⟩ := h.track
  obtain ⟨data, readable, holds⟩ := playable.payload
  have first : last.map secondsOf = none → x.info.flags.keyFrame = true ∧ (Mp4.Track.setsOf? data).isSome := by
    intro none
    obtain ⟨key, data', same, sets⟩ := opens (Option.map_eq_none_iff.mp none)
    rw [readable] at same
    cases same
    exact ⟨key, sets⟩
  have accepted : w.accept x s = ((w.writeTo t x).1, (w.writeTo t x).2, s) := by
    unfold accept
    rw [track]
  rw [accepted]
  unfold writeTo
  rw [h.lastPts, nextPts_eq playable.fits, readable]
  by_cases fits : pts < wordLimit
  · rw [if_pos fits]
    dsimp only [Attempt.ofOption, bind, Except.bind, pure, Except.pure]
    have early : (∀ l ∈ last.map secondsOf, tick l < tick (secondsOf pts)) ↔
        ∀ l ∈ last, tick (secondsOf l) < tick (secondsOf pts) := by simp
    rcases ticking.write_cases clock holds first (secondsOf pts) with
      ⟨after, c', taken, clock'⟩ | ⟨before, reason, c', refused⟩
    · left
      rw [show Container.write t.container (Float.ofNat pts / 1000000.0) data x.info.flags.keyFrame = _ from taken]
      exact ⟨⟨fits, early.mp after⟩, rfl, rfl, _, rfl, clock'⟩
    · right
      rw [show Container.write t.container (Float.ofNat pts / 1000000.0) data x.info.flags.keyFrame = _ from refused]
      exact ⟨fun both => before (early.mpr both.2), nofun⟩
  · right
    rw [if_neg fits]
    exact ⟨fun both => fits both.1, nofun⟩

/-- All samples are taken if and only if their time stamps, once they are moved, rise in ticks. -/
theorem takesAll_iff_rises (ticking : Container.Ticking γ tick last?) (h : Ticks tick last? w last) {l : List Sample}
    (playable : ∀ x ∈ l, Playable x) (opens : last = none → ∀ x ∈ l.head?, Opens x) (s : Surroundings) :
    w.TakesAll s l ↔ Rises (fun pts => tick (secondsOf pts)) last (l.map (·.info.pts)) := by
  induction l generalizing w last s with
  | nil =>
    refine ⟨fun _ => ⟨nofun, ?_⟩, fun _ => nofun⟩
    cases last with
    | none => exact .nil
    | some l => exact .singleton l
  | cons x rest ih =>
    rw [takesAll_cons, List.map_cons, rises_cons]
    rcases accept_ticks ticking h (playable x (.head _)) (fun none => opens none x rfl) s with
      ⟨later, taken, ticks⟩ | ⟨early, refused⟩
    · -- From here on there is a sample before each.
      have others := ih ticks (fun y hy => playable y (.tail _ hy)) nofun (w.accept x s).2.2
      rw [and_iff_right taken, and_iff_right later]
      exact others
    · constructor
      · rintro ⟨taken, _⟩
        exact absurd taken refused
      · rintro ⟨later, _⟩
        exact absurd later early

/-- The tick of a time stamp is the nearest one, a tick being 100/9 microseconds long. -/
def Nearest (tick : Float → Nat) (pts : Nat) : Prop :=
  9 * pts ≤ 100 * tick (secondsOf pts) + 50 ∧ 100 * tick (secondsOf pts) ≤ 9 * pts + 50

instance (tick : Float → Nat) (pts : Nat) : Decidable (Nearest tick pts) := inferInstanceAs (Decidable (_ ∧ _))

/-- Time stamps that are more than a tick apart lie in different ticks. -/
theorem later_of_apart {stamps : List Nat} (nearest : ∀ pts ∈ stamps, Nearest tick pts)
    (apart : stamps.IsChain (fun p q => p + 12 ≤ q)) :
    stamps.IsChain (fun p q => tick (secondsOf p) < tick (secondsOf q)) := by
  induction stamps with
  | nil => exact .nil
  | cons p rest ih =>
    cases rest with
    | nil => exact .singleton p
    | cons q rest =>
      obtain ⟨far, apart⟩ := List.isChain_cons_cons.mp apart
      obtain ⟨_, below⟩ := nearest p (.head _)
      obtain ⟨above, _⟩ := nearest q (.tail _ (.head _))
      have later : tick (secondsOf p) < tick (secondsOf q) := by omega
      exact List.isChain_cons_cons.mpr ⟨later, ih (fun r hr => nearest r (.tail _ hr)) apart⟩

/-- Stamps that are far enough apart rise in ticks. -/
theorem rises_of_apart {stamps : List Nat} (fits : ∀ pts ∈ stamps, pts < wordLimit)
    (nearest : ∀ pts ∈ stamps, Nearest tick pts) (apart : stamps.IsChain (fun p q => p + 12 ≤ q)) :
    Rises (fun pts => tick (secondsOf pts)) none stamps := by
  have increasing : stamps.IsChain (· < ·) := apart.imp (fun p q far => by omega)
  have same : spread none stamps = stamps := spread_of_increasing increasing
  unfold Rises
  rw [same]
  exact ⟨fits, later_of_apart nearest apart⟩

example : ∀ pts ∈ [0, 12, 33333, 66667], Nearest Mp4.tickOf pts := by
  decide +kernel

/-- A writer whose track is registered has a file and a container, and is the same otherwise. -/
theorem registered_eq {before : TrackWriter γ} (idle : before.track = none) {p : CodecParameters} {s s' : Surroundings}
    (registered : before.register p s = (.ok (), w, s')) :
    ∃ file container, Container.build before.settings = .ok container ∧
      w = { before with track := some { file, container }, parameters := some p } := by
  obtain ⟨journal, outcome⟩ := register_idle idle p s
  rw [registered] at outcome
  unfold build at outcome
  rcases created : s.disk.create before.path with ⟨cause | file, disk⟩
  · rw [created] at outcome
    cases outcome
  · rw [created] at outcome
    dsimp only at outcome
    rcases built : (Container.build before.settings : Except String γ) with reason | container
    · rw [built] at outcome
      cases outcome
    · rw [built] at outcome
      cases outcome
      exact ⟨file, container, rfl, rfl⟩

/-- A track that is registered has a container that took nothing so far. -/
theorem ticks_of_registered (ticking : Container.Ticking γ tick last?) {before : TrackWriter γ}
    (idle : before.track = none) (fresh : before.lastPts = none) {p : CodecParameters} {s s' : Surroundings}
    (registered : before.register p s = (.ok (), w, s')) : Ticks tick last? w none ∧ w.written = before.written := by
  obtain ⟨file, container, built, rfl⟩ := registered_eq idle registered
  exact ⟨⟨fresh, _, rfl, ticking.built built⟩, rfl⟩

/-- **When no sample is lost for its time stamp.** A writer, whatever it dropped before, has its track, in a container
that goes by ticks, and is given samples that can be read, the first of which is a key picture with the parameter sets.
It takes and counts them all if and only if the time stamps that it writes, each moved behind the one before, are there
and rise in ticks. They do if they come more than a tick apart. -/
theorem all_taken_iff (ticking : Container.Ticking γ tick last?) {c : CaptureSettings} {date : String} {dropped : Nat}
    {noted : Bool} {p : CodecParameters} {s s' : Surroundings}
    (registered : { (create c date : TrackWriter γ) with dropped, noted }.register p s = (.ok (), w, s'))
    {l : List Sample} (playable : ∀ x ∈ l, Playable x) (opens : ∀ x ∈ l.head?, Opens x) :
    let stamps := l.map (·.info.pts)
    let rises := (∀ pts ∈ spread none stamps, pts < wordLimit) ∧
      (spread none stamps).IsChain (fun p q => tick (secondsOf p) < tick (secondsOf q))
    (w.TakesAll s' l ↔ rises) ∧ ((w.acceptAll s' l).2.1.written = l.length ↔ rises) ∧
      ((∀ pts ∈ stamps, Nearest tick pts) → stamps.IsChain (fun p q => p + 12 ≤ q) → w.TakesAll s' l) := by
  intro stamps rises
  obtain ⟨ticks, same⟩ := ticks_of_registered ticking rfl rfl registered
  have unwritten : w.written = 0 := same
  have taken : w.TakesAll s' l ↔ rises := takesAll_iff_rises ticking ticks playable (fun _ => opens) s'
  obtain ⟨_, counted⟩ := w.acceptAll_written s' l
  rw [unwritten, Nat.zero_add] at counted
  refine ⟨taken, counted.symm.trans taken, ?_⟩
  intro nearest apart
  have fits : ∀ pts ∈ stamps, pts < wordLimit := by
    intro pts among
    obtain ⟨x, hx, rfl⟩ := List.mem_map.mp among
    exact (playable x hx).fits
  exact taken.mpr (rises_of_apart fits nearest apart)

/-- Of two samples with the same time stamp the second one is moved by a microsecond, which is in the same tick, and is
lost. -/
theorem equal_stamps_lost :
    let c : CaptureSettings := { width := 2, height := 2, outputPath := "o" }
    let p : CodecParameters := { width := 2, height := 2, sps := #[0x67], pps := #[0x68] }
    let data := AnnexB.startCode ++ p.sps ++ AnnexB.startCode ++ p.pps ++ AnnexB.startCode ++ #[0x65]
    let first : Sample := { data, info := { size := data.size, pts := 0, flags := { keyFrame := true } } }
    let second : Sample := { data, info := { size := data.size, pts := 0 } }
    ∃ (w : TrackWriter Mp4.Movie) (s : Surroundings), (create c "today").register p {} = (.ok (), w, s) ∧
      (∀ x ∈ [first, second], Playable x) ∧ Opens first ∧ first.info.pts ≤ second.info.pts ∧
      ¬w.TakesAll s [first, second] ∧ (w.acceptAll s [first, second]).2.1.written = 1 := by
  intro c p data first second
  let disk : FileTree := { entries := [(["o"], .file 0 #[])], nextId := 1 }
  let track : OpenTrack Mp4.Movie := { file := 0, container := { settings := c.track "today", track := {} } }
  let w : TrackWriter Mp4.Movie :=
    { (create c "today" : TrackWriter Mp4.Movie) with track := some track, parameters := some p }
  have created : ({} : FileTree).create "o" = (.ok 0, disk) := by cbv
  have registered : (create c "today" : TrackWriter Mp4.Movie).register p {} = (.ok (), w, { disk }) :=
    register_of_created rfl rfl created rfl
  have readable : ∀ x ∈ [first, second], x.info.pts < wordLimit ∧ x.payload? = some data := by decide +kernel
  have holds : data ≠ #[] := by decide +kernel
  have sets : (Mp4.Track.setsOf? data).isSome := by decide +kernel
  have written : (w.acceptAll { disk } [first, second]).2.1.written = 1 := by decide +kernel
  refine ⟨w, { disk }, registered, ?_, ⟨rfl, data, (readable first (.head _)).2, sets⟩, le_refl _, ?_, written⟩
  · intro x hx
    obtain ⟨fits, payload⟩ := readable x hx
    exact ⟨fits, data, payload, holds⟩
  · rw [(w.acceptAll_written { disk } [first, second]).2, written]
    decide

end TrackWriter

/-- A container that keeps nothing but the tick of its last sample. -/
structure Ruler where
  last : Option Nat := none

instance : Container Ruler where
  build _ := .ok {}
  write r seconds data key :=
    let tick := Mp4.tickOf seconds
    if data = #[] then (.error "empty", r)
    else match r.last with
      | some last => if last < tick then (.ok (), { last := some tick }) else (.error "not later", r)
      | none =>
        if key && (Mp4.Track.setsOf? data).isSome then (.ok (), { last := some tick }) else (.error "no beginning", r)
  finish _ := .ok { content := #[], duration := 0.0 }

/-- A ruler takes every sample that comes in a later tick than the last one. -/
theorem Ruler.ticking : Container.Ticking Ruler Mp4.tickOf Ruler.last where
  built := by
    intro s c built
    cases built
    rfl
  first := by
    intro c seconds data none holds sets
    refine ⟨{ last := some (Mp4.tickOf seconds) }, ?_, rfl⟩
    unfold Container.write instContainerRuler
    dsimp only
    rw [if_neg holds, none, sets]
    rfl
  later := by
    intro c t seconds data key last holds later
    refine ⟨{ last := some (Mp4.tickOf seconds) }, ?_, rfl⟩
    unfold Container.write instContainerRuler
    dsimp only
    rw [if_neg holds, last]
    exact if_pos later
  refused := by
    intro c t seconds data key last holds before
    refine ⟨"not later", c, ?_, last⟩
    unfold Container.write instContainerRuler
    dsimp only
    rw [if_neg holds, last]
    exact if_neg (Nat.not_lt.mpr before)

/-- Two samples with the same time stamp are both taken where the next microsecond lies in the next tick. -/
theorem TrackWriter.all_taken_moved :
    let c : CaptureSettings := { width := 2, height := 2, outputPath := "o" }
    let p : CodecParameters := { width := 2, height := 2, sps := #[0x67], pps := #[0x68] }
    let data := AnnexB.startCode ++ p.sps ++ AnnexB.startCode ++ p.pps ++ AnnexB.startCode ++ #[0x65]
    let sample (pts : Nat) : Sample := { data, info := { size := data.size, pts, flags := { keyFrame := true } } }
    let l := [sample 5, sample 5, sample 20]
    Container.Ticking Ruler Mp4.tickOf Ruler.last ∧
    ∃ (w : TrackWriter Ruler) (s : Surroundings), (create c "today").register p {} = (.ok (), w, s) ∧
      (∀ x ∈ l, Playable x) ∧ (∀ x ∈ l.head?, Opens x) ∧ (w.acceptAll s l).2.1.written = 3 := by
  intro c p data sample l
  let disk : FileTree := { entries := [(["o"], .file 0 #[])], nextId := 1 }
  let w : TrackWriter Ruler :=
    { (create c "today" : TrackWriter Ruler) with track := some { file := 0, container := {} }, parameters := some p }
  have created : ({} : FileTree).create "o" = (.ok 0, disk) := by cbv
  have registered : (create c "today" : TrackWriter Ruler).register p {} = (.ok (), w, { disk }) :=
    register_of_created rfl rfl created rfl
  have readable : ∀ x ∈ l, x.info.pts < wordLimit ∧ x.payload? = some data := by decide +kernel
  have holds : data ≠ #[] := by decide +kernel
  have sets : (Mp4.Track.setsOf? data).isSome := by decide +kernel
  have playable : ∀ x ∈ l, Playable x := by
    intro x hx
    obtain ⟨fits, payload⟩ := readable x hx
    exact ⟨fits, data, payload, holds⟩
  have opens : ∀ x ∈ l.head?, Opens x := by
    intro x hx
    cases hx
    exact ⟨rfl, data, (readable _ (.head _)).2, sets⟩
  refine ⟨Ruler.ticking, w, { disk }, registered, playable, opens, ?_⟩
  refine (all_taken_iff Ruler.ticking registered playable opens).2.1.mpr ?_
  -- The second time stamp is moved into the next tick.
  decide +kernel

end Camcorder
