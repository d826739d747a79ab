import Mathlib
import Camcorder.Proofs.Encoding.AvcRuns
import Camcorder.Proofs.Encoding.LoopbackRuns
import Camcorder.Proofs.Encoding.Readiness

/-!
# H.264 sessions that keep up

An instance of the H.264 backend compresses a picture at once, and announces the format of its stream only once. So a
session that is drained after every picture is not behind between two of them: `Avc.Prompt` is the invariant, and
`Avc.Prompt.exchange` one picture and the drain after it, which give the sink one sample at most.
-/

namespace Camcorder

/-- A compressor whose access units have a size that a word can hold. -/
def Compressor.Compact (ε : Type) [Compressor ε] : Prop :=
  ∀ (e e' : ε) planes u, Compressor.encode e planes = (some u, e') → u.data.size < wordLimit

/-- The access units of a cadence are small. -/
theorem Cadence.compact : Compressor.Compact Cadence := by
  rintro c c' planes u made
  have next : c.next = u := Option.some.inj (congrArg Prod.fst made)
  have sizes : parameterUnits.size = 16 ∧ AnnexB.startCode.size = 4 := by decide
  rw [← next]
  unfold Cadence.next wordLimit
  split
  · split <;> simp [sizes]
  · simp [sizes]

namespace Avc

open Delivery

variable {ε : Type} {f : StreamFormat} {len pts : ℕ} {e : Encoder (Instance ε)} {c : Instance ε} {x : ε}
  {k : Option CodecParameters}

/-- Deliveries with one sample at most, which has the time stamp `pts` and can be read. -/
structure Single (pts : ℕ) (l : List Delivery) : Prop where
  one : (samples l).length ≤ 1
  readable : ∀ s, .sample s ∈ l → s.payload? = some s.data ∧ s.info.pts = pts

theorem single_nil (pts : ℕ) : Single pts [] := ⟨Nat.zero_le 1, nofun⟩

/-- A sink is given one sample at most for an access unit. -/
theorem single_given (g : Geometry) (known : Bool) {u : AccessUnit} (small : u.data.size < wordLimit) (pts : ℕ) :
    Single pts (given g known (u, pts)) := by
  have picture : Single pts (if u.holdsPicture then [.sample (sample u pts)] else []) := by
    split
    · refine ⟨le_rfl, fun s hs => ?_⟩
      cases List.mem_singleton.mp hs
      exact ⟨Sample.payload?_whole rfl rfl small, rfl⟩
    · exact single_nil pts
  unfold given
  cases if known then none else setsIn g u with
  | none => exact picture
  | some p =>
    refine ⟨picture.one, fun s hs => ?_⟩
    rcases List.mem_cons.mp hs with format | hs
    · cases format
    · exact picture.readable s hs

/-- What a session is between two pictures: nothing waits, and the sink was told of the parameters as soon as they were
settled. -/
structure Prompt (f : StreamFormat) (len : ℕ) (e : Encoder (Instance ε)) : Prop where
  ready : e.Ready f
  idle : ∃ c x k, e.instance? = some c ∧ c.Sound ∧ Instance.Ready f len x k c ∧ c.backlog = [] ∧
    e.formatDelivered = Option.isSome k

/-- To give a time stamp leaves an encoder prompt. -/
theorem Prompt.stamp (p : Prompt f len e) (now : ℕ) : Prompt f len (e.stamp now).2 := ⟨p.ready.stamp now, p.idle⟩

variable [Compressor ε]

/-- A drain takes all that an access unit put into the line of an instance where nothing waited. -/
theorem haul_yield (g : Geometry) (known : Bool) (u : AccessUnit × ℕ) :
    haul known (Instance.yield g known u) =
      { given := given g known u, left := [], delivered := known || (setsIn g u.1).isSome } := by
  have left : (haul known (Instance.yield g known u)).left = [] :=
    left_eq_nil (endsLast_of_forall (Instance.endsStream_yield g known u)) (Instance.formats_yield_le g known u)
  have all := given_append_due known (Instance.yield g known u)
  have announced := announced_haul known (Instance.yield g known u)
  rw [left, due, List.append_nil, Instance.due_yield] at all
  rw [left, List.any_nil, Bool.or_false, Instance.any_isFormat_yield] at announced
  generalize haul known (Instance.yield g known u) = t at left all announced
  obtain ⟨_, _, _⟩ := t
  cases left
  cases all
  cases announced
  rfl

/-- A drain that takes all of the backlog, unless the sink breaks down over it. -/
theorem drain_of_haul (ready : e.Ready f) (held : e.instance? = some c) (sound : c.Sound)
    (made : Instance.Ready f len x k c) {l : List Delivery}
    (all : haul e.formatDelivered c.backlog = { given := l, left := [], delivered := k.isSome }) {κ : Type} [Sink κ]
    (sink : κ) (now : ℕ) :
    let r := e.drain false sink now
    (∃ fault, r.1 = .error (.fault fault) ∧ Sink.Breaks sink l) ∨
      ∃ tally, r.1 = .ok tally ∧ Sink.Takes sink l r.2.2 ∧ Prompt f len r.2.1 := by
  intro r
  have observed : r = _ := e.drain_observed false ({ sink } : Observed κ) now
  have prompt := ready.drain sink now
  rw [ready.drain_eq] at observed
  rcases Encoder.collect_cases held sound false ({ sink } : Observed κ) with
    ⟨fault, broken, breaks⟩ | ⟨tally, c', o', hauled, collected⟩
  · have given : (haul e.formatDelivered (Orderly.backlog c)).given = l := congrArg Haul.given all
    rw [given] at breaks
    refine .inl ⟨fault, ?_, breaks⟩
    rw [observed]
    exact broken
  · have all : haul e.formatDelivered (Orderly.backlog c) = _ := all
    rw [all] at hauled collected
    rw [collected] at observed
    rw [show e.drain false sink now = r from rfl, observed] at prompt
    rw [observed]
    exact .inr ⟨tally, rfl, hauled.takes,
      prompt, c', x, k, rfl, hauled.sound, made.of_core hauled.core, hauled.backlog, rfl⟩

/-- A picture and the drain after it. The encoder has an answer for the picture, and unless the sink breaks down over
what comes of it, nothing waits afterwards. -/
theorem Prompt.exchange (compact : Compressor.Compact ε) (p : Prompt f len e) (length : f.inputLength? = some len)
    (cut : ∀ picture : Bytes, picture.size = len → (Planes.ofPicture? f.layout f.width f.height picture).isSome = true)
    {picture : Bytes} (fits : picture.size = len) (pts now : ℕ) {κ : Type} [Sink κ] (sink : κ) :
    let out := e.submit picture pts
    let r := out.2.drain false sink now
    (∀ fault, out.1 ≠ .error (.fault fault)) ∧ ∃ l, Single pts l ∧
      ((∃ fault, r.1 = .error (.fault fault) ∧ Sink.Breaks sink l) ∨
        ∃ tally, r.1 = .ok tally ∧ Sink.Takes sink l r.2.2 ∧ Prompt f len r.2.1) := by
  intro out r
  obtain ⟨c, x, k, held, sound, made, caughtUp, delivered⟩ := p.idle
  obtain ⟨planes, planesOf⟩ := Option.isSome_iff_exists.mp (cut picture fits)
  have ready : out.2.Ready f := p.ready.submit picture pts
  rcases Encoder.submit_running p.ready.state held p.ready.format length picture pts with ⟨_, n, eq⟩ | ⟨unfit, _⟩
  · have eq : out = ((Encoder.feed c picture pts).1,
        { e with instance? := some (Encoder.feed c picture pts).2, framesQueued := n }) := eq
    have held' : out.2.instance? = some (Encoder.feed c picture pts).2 := by rw [eq]
    have delivered' : out.2.formatDelivered = k.isSome := by rw [eq, ← delivered]
    have nothing : haul k.isSome [] = { given := [], left := [], delivered := k.isSome } := by cases k <;> rfl
    have answered : out.1 = (Encoder.feed c picture pts).1 := by rw [eq]
    rw [answered]
    -- The picture is dropped, or the compressor fails it, or it becomes an access unit.
    rcases made.feed_cases sound fits planesOf pts with fed | ⟨c', sound', fed⟩
    · rw [fed] at held' ⊢
      refine ⟨nofun, [], single_nil pts, drain_of_haul ready held' sound made ?_ sink now⟩
      rw [delivered', caughtUp, nothing]
    · rcases encoded : Compressor.encode x planes with ⟨_ | u, x'⟩
      · rw [encoded] at fed
        obtain ⟨fed, made', backlog⟩ := fed
        rw [fed] at held' ⊢
        refine ⟨nofun, [], single_nil pts, drain_of_haul ready held' sound' made' ?_ sink now⟩
        rw [delivered', backlog, caughtUp, nothing]
      · rw [encoded] at fed
        obtain ⟨fed, made', backlog⟩ := fed
        rw [fed] at held' ⊢
        refine ⟨nofun, given f.geometry k.isSome (u, pts), single_given _ _ (compact _ _ _ _ encoded) pts,
          drain_of_haul ready held' sound' made' ?_ sink now⟩
        rw [delivered', backlog, caughtUp, List.nil_append, haul_yield, Option.isSome_or]
  · exact absurd fits unfit

/-- A session that was opened is not behind. -/
theorem prompt_of_opened {b b' : Avc ε} {r : StreamRequest} {j j' : Journal} {e' : Encoder (Instance ε)}
    (configured : ({} : Encoder (Instance ε)).configure b r j = (.ok f, e, j'))
    (launched : e.launch b = (.ok (), e', b')) :
    ∃ len, f.inputLength? = some len ∧ f.width % 2 = 0 ∧ f.height % 2 = 0 ∧ Prompt f len e' ∧ e'.lastPts = 0 := by
  obtain ⟨c, c', created, started, rfl⟩ := Encoder.opened configured launched
  have created : (create f : Attempt (Instance ε)) = .ok c := congrArg Prod.fst created
  have sound := Instance.sound_of_create created
  obtain ⟨width, height, compressor, len, length, rfl⟩ := create_ok created
  cases started
  refine ⟨len, length, width, height, ⟨⟨rfl, rfl, rfl⟩, _, compressor, none, rfl,
    ⟨sound.shelf, sound.settled, sound.inputs⟩, ⟨rfl, rfl, ?_, rfl, rfl⟩, rfl, rfl⟩, rfl⟩
  intro i slot held
  obtain ⟨_, rfl⟩ := Array.getElem?_eq_some_iff.mp held
  simp [Bytes.fill]

end Avc

end Camcorder
