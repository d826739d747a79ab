import Mathlib
import Camcorder.Proofs.Encoding.Ledger
import Camcorder.Proofs.Encoding.Pushing

/-!
# Runs of H.264 sessions

What a session with an instance of the H.264 backend passes on, whatever its compressor answers: the access units
that hold a picture, in the order in which their pictures were submitted, each once, and the parameters of the
stream just before the first unit that has them.
-/

namespace Camcorder

namespace Avc

/-! ## What is to be given -/

/-- What the sink is to be given for an access unit; `known` says whether an earlier one had the parameters. -/
def given (g : Geometry) (known : Bool) (u : AccessUnit × Nat) : List Delivery :=
  ((if known then none else setsIn g u.1).map Delivery.format).toList ++
    if u.1.holdsPicture then [.sample (sample u.1 u.2)] else []

/-- What the sink is to be given for access units. -/
def script (g : Geometry) : (known : Bool) → List (AccessUnit × Nat) → List Delivery
  | _, [] => []
  | known, u :: l => given g known u ++ script g (known || (setsIn g u.1).isSome) l

/-- The parameters that access units make known, those of the first unit that has any. -/
def known (g : Geometry) (l : List (AccessUnit × Nat)) : Option CodecParameters := l.findSome? fun u => setsIn g u.1

/-- The script of one more access unit. -/
theorem script_concat (g : Geometry) (k : Bool) (l : List (AccessUnit × Nat)) (u : AccessUnit × Nat) :
    script g k (l ++ [u]) = script g k l ++ given g (k || (known g l).isSome) u := by
  induction l generalizing k with
  | nil => simp [script, known]
  | cons x l ih =>
    have shift : (k || (setsIn g x.1).isSome || (known g l).isSome) = (k || (known g (x :: l)).isSome) := by
      unfold known
      rw [List.findSome?_cons, Bool.or_assoc]
      cases setsIn g x.1 <;> simp
    simp only [List.cons_append, script, ih, shift, List.append_assoc]

/-- The samples to be given are the units that hold a picture. -/
theorem samples_script (g : Geometry) (k : Bool) (l : List (AccessUnit × Nat)) :
    Delivery.samples (script g k l) = (l.filter fun u => u.1.holdsPicture).map fun u => sample u.1 u.2 := by
  have ofGiven (k : Bool) (u : AccessUnit × Nat) :
      Delivery.samples (given g k u) = if u.1.holdsPicture then [sample u.1 u.2] else [] := by
    have none (q : Option CodecParameters) : Delivery.samples (q.map Delivery.format).toList = [] := by
      cases q <;> rfl
    unfold given
    unfold Delivery.samples at none ⊢
    rw [List.filterMap_append, none]
    split <;> rfl
  induction l generalizing k with
  | nil => rfl
  | cons u l ih =>
    unfold script
    unfold Delivery.samples at ofGiven ih ⊢
    rw [List.filterMap_append, ofGiven, ih, List.filter_cons]
    split <;> rfl

/-- The access units that a compressor makes of pictures, in their order, and the compressor afterwards. Pictures
that it fails on yield nothing. -/
def compress {ε : Type} [Compressor ε] (e : ε) : List (Planes × Nat) → List (AccessUnit × Nat) × ε
  | [] => ([], e)
  | (planes, pts) :: l =>
    let (unit, e) := Compressor.encode e planes
    let (units, e) := compress e l
    ((unit.map (·, pts)).toList ++ units, e)

theorem compress_concat {ε : Type} [Compressor ε] (e : ε) (l : List (Planes × Nat)) (planes : Planes) (pts : Nat) :
    compress e (l ++ [(planes, pts)]) =
      let (unit, e') := Compressor.encode (compress e l).2 planes
      ((compress e l).1 ++ (unit.map (·, pts)).toList, e') := by
  induction l generalizing e with
  | nil => simp [compress]
  | cons x l ih => simp [compress, ih]

/-- The planes and the time stamp, if the picture reached the compressor. -/
def compressed? (f : StreamFormat) (s : Submitted) : Option (Planes × Nat) :=
  match s.answer with
  | .ok (.queued _) | .error (.error (.encoding .encoderFailed)) =>
    (Planes.ofPicture? f.layout f.width f.height s.picture).map (·, s.pts)
  | _ => none

/-- The access units made of the pictures that were submitted to a session in the format `f`, by a compressor that
was `e` when the session was opened. -/
def units {ε : Type} [Compressor ε] (f : StreamFormat) (e : ε) (h : List Submitted) : List (AccessUnit × Nat) :=
  (compress e (h.filterMap (compressed? f))).1

theorem compressed_concat_of_none (h : List Submitted) {f : StreamFormat} {s : Submitted}
    (hs : compressed? f s = none) : (h ++ [s]).filterMap (compressed? f) = h.filterMap (compressed? f) := by
  simp [hs]

/-- A picture that reached the compressor is compressed after the others. -/
theorem compress_of_reached {ε : Type} [Compressor ε] (e : ε) (h : List Submitted) {f : StreamFormat} {s : Submitted}
    {planes : Planes} (hs : compressed? f s = some (planes, s.pts)) :
    compress e ((h ++ [s]).filterMap (compressed? f)) =
      let (unit, e') := Compressor.encode (compress e (h.filterMap (compressed? f))).2 planes
      (units f e h ++ (unit.map (·, s.pts)).toList, e') := by
  have one : (h ++ [s]).filterMap (compressed? f) = h.filterMap (compressed? f) ++ [(planes, s.pts)] := by simp [hs]
  rw [one, compress_concat]
  rfl

/-- A picture that was turned away did not reach the compressor. -/
theorem compressed?_of_turnedAway (f : StreamFormat) {s : Submitted} (away : s.isTurnedAway = true) :
    compressed? f s = none := by
  unfold Submitted.isTurnedAway at away
  unfold compressed?
  split
  · rename_i answer
    rw [answer] at away
    cases away
  · rename_i answer
    rw [answer] at away
    cases away
  · rfl

/-! ## What an instance makes of a picture -/

namespace Instance

variable {ε : Type} {s s' : Instance ε}

theorem ofSample_sample {u : AccessUnit} (holds : u.holdsPicture = true) (pts : Nat) :
    Delivery.ofSample (sample u pts) = [.sample (sample u pts)] := by
  apply Delivery.ofSample_of_picture
  · rfl
  · intro empty
    have empty : u.data = #[] := Array.eq_empty_of_size_eq_zero empty
    simp [AccessUnit.holdsPicture, empty] at holds

/-- What an access unit yields is due to the sink as the script has it. -/
theorem due_yield (g : Geometry) (k : Bool) (u : AccessUnit × Nat) : Delivery.due k (yield g k u) = given g k u := by
  have picture (k : Bool) : Delivery.due k (if u.1.holdsPicture then [.sample (sample u.1 u.2)] else []) =
      if u.1.holdsPicture then [.sample (sample u.1 u.2)] else [] := by
    split
    · rename_i holds
      simp [Delivery.due, ofSample_sample holds]
    · rfl
  have config (p : CodecParameters) : Delivery.ofSample (configSample p u.2) = [] := by
    simp [Delivery.ofSample, Sample.holdsPicture, configSample]
  unfold yield given
  cases k with
  | true => exact picture true
  | false =>
    cases setsIn g u.1 with
    | none => exact picture false
    | some p => simp [Delivery.due, config, picture]

theorem any_isFormat_yield (g : Geometry) (k : Bool) (u : AccessUnit × Nat) :
    (k || (yield g k u).any Delivery.isFormat) = (k || (setsIn g u.1).isSome) := by
  unfold yield
  cases k with
  | true => rfl
  | false =>
    cases setsIn g u.1 with
    | none => by_cases holds : u.1.holdsPicture <;> simp [Delivery.isFormat, holds]
    | some p => simp [Delivery.isFormat]

/-- The format is announced at most once, and only if it is not known yet. -/
theorem formats_yield_le (g : Geometry) (k : Bool) (u : AccessUnit × Nat) :
    Delivery.formats (yield g k u) + k.toNat ≤ 1 := by
  have picture : Delivery.formats (if u.1.holdsPicture then [.sample (sample u.1 u.2)] else []) = 0 := by
    split <;> rfl
  unfold yield Delivery.formats at *
  rw [List.countP_append, picture]
  cases k with
  | true => exact Nat.le_refl _
  | false =>
    cases setsIn g u.1 with
    | none => exact Nat.zero_le _
    | some p => exact Nat.le_refl _

/-- No access unit ends the stream. -/
theorem endsStream_yield (g : Geometry) (k : Bool) (u : AccessUnit × Nat) :
    ∀ d ∈ yield g k u, d.endsStream = false := by
  intro d hd
  rcases List.mem_append.mp hd with format | picture
  · split at format
    · rcases List.mem_cons.mp format with rfl | format
      · rfl
      · cases List.mem_singleton.mp format
        rfl
    · cases format
  · split at picture
    · cases List.mem_singleton.mp picture
      rfl
    · cases picture

/-- With two output slots free, an access unit is parked, behind the parameters if it is the first to have them. -/
theorem take_of_free (sound : Sound s) (two : 2 ≤ s.freeOutputs) (u : AccessUnit) (pts : Nat) :
    ∃ s', s.take u pts = (.ok (), s') ∧ Sound s' ∧
      s'.backlog = s.backlog ++ yield s.format.geometry s.parameters.isSome (u, pts) ∧
      s'.parameters = s.parameters.or (setsIn s.format.geometry u) ∧
      s' = { s with outputs := s'.outputs, pending := s'.pending, parameters := s'.parameters } := by
  have room := (samples_yield_le s.format.geometry s.parameters.isSome (u, pts)).trans two
  obtain ⟨pushed, parameters, answer⟩ := sound.lent.take u pts
  rw [fitting_of_room room] at pushed
  exact ⟨_, Prod.ext (answer.mpr room) rfl, sound.pushed pushed, pushed.backlog, parameters, pushed.others⟩

/-- What is known of an instance as long as it takes pictures: it is for the format `f`, in which pictures have
`len` bytes, its compressor is `e` by now, and it settled the parameters `k`. -/
structure Ready (f : StreamFormat) (len : Nat) (e : ε) (k : Option CodecParameters) (s : Instance ε) : Prop where
  format : s.format = f
  length : s.length = len
  room : ∀ (i : Nat) (slot : InputSlot), s.inputs[i]? = some slot → slot.data.size = len
  compressor : s.compressor = e
  parameters : s.parameters = k

variable {f : StreamFormat} {len : Nat} {e : ε} {k : Option CodecParameters}

/-- Whether an instance is ready depends on its core alone. -/
theorem Ready.of_core (h : Ready f len e k s) (same : s'.core = s.core) : Ready f len e k s' := by
  have inputs : s'.core.inputs = s.core.inputs := congrArg Instance.inputs same
  change s'.inputs = s.inputs at inputs
  refine ⟨?_, ?_, by rw [inputs]; exact h.room, ?_, ?_⟩
  · exact (congrArg Instance.format same).trans h.format
  · exact (congrArg Instance.length same).trans h.length
  · exact (congrArg Instance.compressor same).trans h.compressor
  · exact (congrArg Instance.parameters same).trans h.parameters

/-- Changing an input slot without changing the size of its buffer. -/
theorem room_modify {a : Array InputSlot} (h : ∀ (i : Nat) (slot : InputSlot), a[i]? = some slot → slot.data.size = len)
    (i : Nat) {g : InputSlot → InputSlot} (keeps : ∀ slot, (g slot).data.size = slot.data.size) (j : Nat)
    (slot : InputSlot) (hj : (a.modify i g)[j]? = some slot) : slot.data.size = len := by
  rw [Array.getElem?_modify] at hj
  split at hj
  · rcases Option.map_eq_some_iff.mp hj with ⟨old, held, rfl⟩
    rw [keeps]
    exact h j old held
  · exact h j slot hj

/-- An input slot that was claimed and filled with a picture. -/
theorem Ready.filled (h : Ready f len e k s) (sound : Sound s) {i : Nat} (hc : s.claim = (some i, s')) {picture : Bytes}
    (fits : picture.size = len) :
    Ready f len e k (s'.fill i picture) ∧ Sound (s'.fill i picture) ∧ 2 ≤ (s'.fill i picture).freeOutputs ∧
      i < (s'.fill i picture).inputs.size ∧ (s'.fill i picture).backlog = s.backlog ∧
      (s'.buffer? i).map Array.size = some len ∧ (s'.fill i picture).buffer? i = some picture := by
  rcases sound.claimed hc with ⟨sound', lt, backlog, slot, old, held⟩
  rcases claim_some hc with ⟨two, rest, free, eq⟩
  have room : slot.data.size = len := h.room i slot old
  have size : (s'.fill i picture).inputs.size = s'.inputs.size := Array.size_modify ..
  refine ⟨?_, ⟨sound'.shelf, sound'.settled, ?_⟩, ?_, by rwa [size], ?_, ?_, ?_⟩
  · subst eq
    refine ⟨h.format, h.length, ?_, h.compressor, h.parameters⟩
    have claimed := room_modify h.room i (g := fun slot => { slot with claimed := true }) fun _ => rfl
    refine room_modify claimed i fun slot => ?_
    split
    · exact Bytes.size_overwrite ..
    · rfl
  · intro j hj
    rw [size]
    exact sound'.inputs j hj
  · rw [eq]
    exact two
  · exact backlog
  · unfold buffer?
    rw [held]
    exact congrArg some room
  · unfold buffer? fill
    rw [Array.getElem?_modify, if_pos rfl, held]
    simp [Bytes.overwrite_of_size_eq (fits.trans room.symm)]

variable [Compressor ε]

/-- With two output slots free, the compressor is asked, and its access unit waits at the end of the line unless it
fails. -/
theorem Ready.encode_cases (ready : Ready f len e k s) (sound : Sound s) (two : 2 ≤ s.freeOutputs) {picture : Bytes}
    {planes : Planes} (cut : Planes.ofPicture? f.layout f.width f.height picture = some planes) (pts : Nat) :
    ∃ s', Sound s' ∧ s'.inputs = s.inputs ∧
      match Compressor.encode e planes with
      | (none, e') => s.encode picture pts = (Attempt.refuse (.encoding .encoderFailed), s') ∧
        Ready f len e' k s' ∧ s'.backlog = s.backlog
      | (some u, e') => s.encode picture pts = (.ok (), s') ∧ Ready f len e' (k.or (setsIn f.geometry u)) s' ∧
        s'.backlog = s.backlog ++ yield f.geometry k.isSome (u, pts) := by
  rcases ready with ⟨rfl, rfl, room, rfl, rfl⟩
  unfold encode
  rw [cut]
  dsimp only
  rcases Compressor.encode s.compressor planes with ⟨_ | u, e'⟩
  · exact ⟨{ s with compressor := e' }, ⟨sound.shelf, sound.settled, sound.inputs⟩, rfl, rfl,
      ⟨rfl, rfl, room, rfl, rfl⟩, rfl⟩
  · have sound' : Sound { s with compressor := e' } := ⟨sound.shelf, sound.settled, sound.inputs⟩
    rcases take_of_free sound' two u pts with ⟨s', taken, sound', backlog, parameters, others⟩
    refine ⟨s', sound', by rw [others], taken, ⟨?_, ?_, ?_, ?_, parameters⟩, backlog⟩
    · rw [others]
    · rw [others]
    · rw [others]
      exact room
    · rw [others]

/-- What an instance makes of the picture with these planes: it drops it, or its compressor is asked. -/
theorem Ready.feed_cases (ready : Ready f len e k s) (sound : Sound s) {picture : Bytes} (fits : picture.size = len)
    {planes : Planes} (cut : Planes.ofPicture? f.layout f.width f.height picture = some planes) (pts : Nat) :
    Encoder.feed s picture pts = (.ok .dropped, s) ∨
    ∃ s', Sound s' ∧
      match Compressor.encode e planes with
      | (none, e') => Encoder.feed s picture pts = (Attempt.refuse (.encoding .encoderFailed), s') ∧
        Ready f len e' k s' ∧ s'.backlog = s.backlog
      | (some u, e') => Encoder.feed s picture pts = (.ok (.queued pts), s') ∧
        Ready f len e' (k.or (setsIn f.geometry u)) s' ∧
        s'.backlog = s.backlog ++ yield f.geometry k.isSome (u, pts) := by
  rcases hc : s.claim with ⟨_ | i, s₁⟩
  · left
    have same := claim_none hc
    subst same
    have hc' : Coder.claim s₁ Encoder.inputWait = (none, s₁) := hc
    unfold Encoder.feed
    rw [hc']
  · right
    have hc' : Coder.claim s Encoder.inputWait = (some i, s₁) := hc
    rcases ready.filled sound hc fits with ⟨ready', sound', two, lt, backlog, room, buffer⟩
    have room' : Coder.room? s₁ i = some len := room
    have fed {r : Attempt Unit} {s₂ : Instance ε} (h : (s₁.fill i picture).encode picture pts = (r, s₂)) :
        Encoder.feed s picture pts = (r.map fun _ => .queued pts, s₂.giveBack i) := by
      have queued : (s₁.fill i picture).queue i picture.size pts .none = (r, s₂.giveBack i) := by
        unfold queue
        rw [buffer]
        simp [SampleFlags.none, fits, ready'.length, h]
      have queued' : Coder.queue (Coder.fill s₁ i picture) i picture.size pts .none = (r, s₂.giveBack i) := queued
      unfold Encoder.feed
      rw [hc']
      dsimp only
      rw [room']
      dsimp only
      rw [if_neg (by omega), queued']
      cases r <;> rfl
    -- Whatever the compressor answers, the input slot is given back.
    have returned {e' : ε} {k' : Option CodecParameters} {s₂ : Instance ε} (h : Ready f len e' k' s₂) :
        Ready f len e' k' (s₂.giveBack i) :=
      ⟨h.format, h.length, room_modify h.room i fun _ => rfl, h.compressor, h.parameters⟩
    rcases ready'.encode_cases sound' two cut pts with ⟨s₂, sound₂, inputs, encoded⟩
    refine ⟨s₂.giveBack i, sound₂.giveBack (by rwa [inputs]), ?_⟩
    rcases he : Compressor.encode e planes with ⟨_ | u, e'⟩
    · rw [he] at encoded
      rcases encoded with ⟨encoded, ready₂, backlog₂⟩
      exact ⟨fed encoded, returned ready₂, backlog₂.trans backlog⟩
    · rw [he] at encoded
      rcases encoded with ⟨encoded, ready₂, backlog₂⟩
      refine ⟨fed encoded, returned ready₂, ?_⟩
      rw [← backlog]
      exact backlog₂

end Instance

/-! ## The ledger -/

section Ledger

variable {ε : Type} [Compressor ε]

/-- The format is known from the first access unit that holds it. -/
theorem known_concat (g : Geometry) (l : List (AccessUnit × Nat)) (u : AccessUnit × Nat) :
    known g (l ++ [u]) = (known g l).or (setsIn g u.1) := by
  unfold known
  rw [List.findSome?_append]
  simp

/-- The ledger of a session in the format `f` whose compressor was `e` when it was opened. Pictures have `len`
bytes, which is enough for their planes. -/
def ledger (f : StreamFormat) (len : Nat) (e : ε)
    (cut : ∀ picture : Bytes, picture.size = len → (Planes.ofPicture? f.layout f.width f.height picture).isSome = true) :
    Ledger (Instance ε) where
  length := len
  script h := script f.geometry false (units f e h)
  announced h := (known f.geometry (units f e h)).isSome
  Ready h := Instance.Ready f len (compress e (h.filterMap (compressed? f))).2 (known f.geometry (units f e h))
  repeats := false
  Answers a := (∃ x, a = .ok x) ∨ a = Attempt.refuse (.encoding .encoderFailed)
  ready_of_core := Instance.Ready.of_core
  turned_away h s away := by
    have same := compressed_concat_of_none (f := f) h (compressed?_of_turnedAway f away)
    unfold units
    rw [same]
    exact ⟨rfl, rfl, fun _ ready => ready⟩
  fed := by
    intro h c picture pts ready sound fits
    rcases Option.isSome_iff_exists.mp (cut picture fits) with ⟨planes, planesOf⟩
    rcases ready.feed_cases sound fits planesOf pts with fed | ⟨s', sound', fed⟩
    · have same := compressed_concat_of_none (f := f) h (s := { picture, pts, answer := .ok .dropped }) rfl
      rw [fed]
      dsimp only
      unfold units
      rw [same]
      refine ⟨.inl ⟨_, rfl⟩, ready, sound, [], (List.append_nil _).symm, nofun, ?_, ?_, ?_⟩
      · simp [Delivery.due]
      · simp
      · exact fun _ => (Nat.zero_add _).le.trans (Bool.toNat_le _)
    · rcases he : Compressor.encode (compress e (h.filterMap (compressed? f))).2 planes with ⟨_ | u, e'⟩
      · -- The compressor failed: nothing was added, but it may have changed.
        let s : Submitted := { picture, pts, answer := Attempt.refuse (.encoding .encoderFailed) }
        have reached : compressed? f s = some (planes, s.pts) := by simp [s, compressed?, Attempt.refuse, planesOf]
        have more := compress_of_reached e h reached
        rw [he] at fed more
        rcases fed with ⟨fed, ready', backlog⟩
        have units' : units f e (h ++ [s]) = units f e h := by
          unfold units
          rw [more]
          exact List.append_nil _
        rw [fed]
        dsimp only
        rw [units', more]
        refine ⟨.inr rfl, ready', sound', [], ?_, nofun, ?_, ?_, ?_⟩
        · rw [List.append_nil]
          exact backlog
        · simp [Delivery.due]
        · simp
        · exact fun _ => (Nat.zero_add _).le.trans (Bool.toNat_le _)
      · let s : Submitted := { picture, pts, answer := .ok (.queued pts) }
        have reached : compressed? f s = some (planes, s.pts) := by simp [s, compressed?, planesOf]
        have more := compress_of_reached e h reached
        rw [he] at fed more
        rcases fed with ⟨fed, ready', backlog⟩
        have units' : units f e (h ++ [s]) = units f e h ++ [(u, pts)] := by
          unfold units
          rw [more]
          rfl
        rw [fed]
        dsimp only
        rw [units', more, known_concat]
        refine ⟨.inl ⟨_, rfl⟩, ready', sound', _, backlog, Instance.endsStream_yield _ _ _, ?_, ?_, ?_⟩
        · rw [script_concat, Instance.due_yield, Bool.false_or]
        · rw [Instance.any_isFormat_yield, Option.isSome_or]
        · exact fun _ => Instance.formats_yield_le _ _ _

/-- A picture of the length that a format asks for has all three planes, if the dimensions are even. -/
theorem isSome_ofPicture? {f : StreamFormat} {len : Nat} (length : f.inputLength? = some len) (width : f.width % 2 = 0)
    (height : f.height % 2 = 0) {picture : Bytes} (fits : picture.size = len) :
    (Planes.ofPicture? f.layout f.width f.height picture).isSome = true := by
  rw [StreamFormat.inputLength?_eq, Geometry.len420?_eq_some_iff] at length
  rcases length with ⟨_, rfl⟩
  have size : picture.size = f.width * f.height + 2 * (f.width / 2 * (f.height / 2)) := by
    rw [fits]
    unfold StreamFormat.geometry Geometry.pixels
    dsimp only
    rcases Nat.dvd_of_mod_eq_zero width with ⟨a, ha⟩
    rcases Nat.dvd_of_mod_eq_zero height with ⟨b, hb⟩
    have area : 2 * a * (2 * b) = 4 * (a * b) := by ring
    rw [ha, hb, area, Nat.mul_div_cancel_left _ Nat.two_pos, Nat.mul_div_cancel_left _ Nat.two_pos]
    omega
  -- As the dimensions are even, the three planes have the length of the picture exactly.
  have slice {start count : Nat} (fits : start + count ≤ picture.size) :
      Bytes.slice? picture start count = some (picture.extract start (start + count)) := if_pos fits
  unfold Planes.ofPicture?
  dsimp only
  generalize f.width * f.height = luma at size ⊢
  generalize f.width / 2 * (f.height / 2) = chroma at size ⊢
  rw [slice (by omega)]
  cases f.layout with
  | planar =>
    rw [slice (by omega), slice (by omega)]
    rfl
  | semiPlanar =>
    have both : luma + 2 * chroma ≤ picture.size := by omega
    rw [slice both]
    rfl

/-- What an instance is when it was made. -/
theorem create_ok {f : StreamFormat} {s : Instance ε} (created : create f = .ok s) :
    f.width % 2 = 0 ∧ f.height % 2 = 0 ∧ ∃ compressor length, f.inputLength? = some length ∧ s = {
      compressor, format := f, length, inputs := Array.replicate inputSlots { data := Bytes.fill length 0 } } := by
  unfold create at created
  split at created
  · cases created
  · rename_i codable
    cases hp : Attempt.ofOption .overflow (halfWord? (max f.frameRate 1 * max f.keyFrameSeconds 1)) with
    | error failure =>
      rw [hp] at created
      cases created
    | ok period =>
      rw [hp] at created
      cases hc : Compressor.create (ε := ε) f period with
      | error reason =>
        simp only [bind, Except.bind, hc] at created
        cases created
      | ok compressor =>
        cases length : f.inputLength? with
        | none =>
          simp only [bind, Except.bind, hc, length] at created
          cases created
        | some len =>
          simp only [bind, Except.bind, hc, length] at created
          cases created
          exact ⟨by omega, by omega, compressor, len, rfl, rfl⟩

/-- Nothing waits in an instance that was just made, and all its output slots are free. -/
theorem Instance.sound_of_create {f : StreamFormat} {s : Instance ε} (created : create f = .ok s) : s.Sound := by
  obtain ⟨_, _, _, _, _, rfl⟩ := create_ok created
  refine ⟨Shelf.sound_of_idle rfl ?_, nofun, ?_⟩
  · intro place hp
    rcases Array.mem_map.mp hp with ⟨slot, held, rfl⟩
    rw [Array.eq_of_mem_replicate held]
    rfl
  · simp [inputSlots]

/-- A session that was opened keeps the ledger. -/
theorem keeps_of_opened {b b' : Avc ε} {r : StreamRequest} {j j' : Journal} {f : StreamFormat}
    {e e' : Encoder (Instance ε)} (configured : ({} : Encoder (Instance ε)).configure b r j = (.ok f, e, j'))
    (launched : e.launch b = (.ok (), e', b')) :
    ∃ c len cut, e'.instance? = some c ∧ (ledger f len c.compressor cut).Keeps [] e' [] c := by
  rcases Encoder.opened configured launched with ⟨c, c', created, started, rfl⟩
  have created : (create f : Attempt (Instance ε)) = .ok c := congrArg Prod.fst created
  have sound := Instance.sound_of_create created
  obtain ⟨width, height, compressor, len, length, rfl⟩ := create_ok created
  cases started
  have cut (picture : Bytes) (fits : picture.size = len) := isSome_ofPicture? (f := f) length width height fits
  refine ⟨_, len, cut, rfl, rfl, ⟨f, rfl, length⟩, ⟨sound.shelf, sound.settled, sound.inputs⟩, rfl, rfl,
    fun _ => Nat.zero_le _, nofun, .running rfl ⟨rfl, rfl, ?_, rfl, rfl⟩ nofun⟩
  intro i slot held
  rcases Array.getElem?_eq_some_iff.mp held with ⟨_, rfl⟩
  simp [Bytes.fill]

end Ledger

/-! ## Runs -/

/-- What a session with an instance of the H.264 backend hands to its sink, whatever is asked of it in whichever
order, whatever its compressor makes of the pictures and whatever the sink refuses. It never runs out of output
slots; at any time the sink was given the beginning of the access units that hold a picture, in the order in which
their pictures were submitted, each once, and of the parameters, before the first unit that has them; and it was
given all of it once the session was drained at the end. -/
theorem heard_isPrefix_units {ε κ : Type} [Compressor ε] [Sink κ] [Answering κ] {b b' : Avc ε} {r : StreamRequest}
    {j j' : Journal} {f : StreamFormat} {e e' : Encoder (Instance ε)}
    (configured : ({} : Encoder (Instance ε)).configure b r j = (.ok f, e, j'))
    (launched : e.launch b = (.ok (), e', b')) (sink : κ) (requests : List Request) :
    let t := ({ encoder := e', sink := { sink } } : Trial (Instance ε) κ).run requests
    (∀ s ∈ t.submissions, s.answer ≠ Attempt.refuse (.encoding .outputSlotsExhausted)) ∧
      ∃ c, e'.instance? = some c ∧
        t.sink.heard <+: script f.geometry false (units f c.compressor t.submissions) ∧
        Delivery.samples t.sink.heard <+:
          ((units f c.compressor t.submissions).filter fun u => u.1.holdsPicture).map (fun u => sample u.1 u.2) ∧
        ((∃ now, .drain true now ∈ requests) →
          t.sink.heard = script f.geometry false (units f c.compressor t.submissions)) := by
  intro t
  rcases keeps_of_opened configured launched with ⟨c, len, cut, held, keeps⟩
  have holds : (ledger f len c.compressor cut).Holds
      ({ encoder := e', sink := { sink } } : Trial (Instance ε) κ) c := keeps
  rcases holds.run requests with ⟨c', holds'⟩
  refine ⟨?_, c, held, holds'.isPrefix, ?_, ?_⟩
  · intro s hs exhausted
    have seen : s.isTurnedAway = false := by
      rw [Submitted.isTurnedAway, exhausted]
      rfl
    rcases (holds'.seen s hs seen).2 with ⟨x, answer⟩ | answer
    · rw [answer] at exhausted
      cases exhausted
    · rw [answer] at exhausted
      cases exhausted
  · rw [← samples_script f.geometry false]
    exact holds'.isPrefix.filterMap _
  · rintro ⟨now, asked⟩
    rcases List.append_of_mem asked with ⟨before, after, rfl⟩
    rcases holds.run before with ⟨c₁, holds₁⟩
    rcases holds₁.drain_end now with ⟨c₂, holds₂, state, _, all⟩
    have split : t = ((({ encoder := e', sink := { sink } } : Trial (Instance ε) κ).run before).step
        (.drain true now)).run after := by
      simp only [t, Trial.run, List.foldl_append, List.foldl_cons]
    rw [split]
    exact holds₂.run_draining state after (.inl (all rfl))

/-- Two pictures of 2 × 2 pixels and a drain at the end, with a compressor that makes every second picture a key
picture. -/
theorem heard_isPrefix_units_pair :
    let r : StreamRequest :=
      { width := 2, height := 2, bitrate := 1, frameRate := 1, keyFrameSeconds := 2, layout := none }
    let e := ((({} : Encoder (Instance Cadence)).configure ({} : Avc Cadence) r []).2.1.launch ({} : Avc Cadence)).2.1
    let t := ({ encoder := e, sink := { sink := {} } } : Trial (Instance Cadence) Moody).run
      [.submit (Bytes.fill 6 7) 5, .submit (Bytes.fill 6 8) 9, .drain true 12]
    let f : StreamFormat := {
      width := 2
      height := 2
      bitrate := 1
      frameRate := 1
      keyFrameSeconds := 2
      layout := .semiPlanar
      level := .level31 }
    ∃ c, e.instance? = some c ∧ t.sink.heard = script f.geometry false (units f c.compressor t.submissions) := by
  have run := heard_isPrefix_units (b := ({} : Avc Cadence))
    (r := { width := 2, height := 2, bitrate := 1, frameRate := 1, keyFrameSeconds := 2, layout := none })
    (j := []) rfl rfl ({} : Moody) [.submit (Bytes.fill 6 7) 5, .submit (Bytes.fill 6 8) 9, .drain true 12]
  rcases run.2 with ⟨c, held, _, _, all⟩
  exact ⟨c, held, all ⟨12, by simp⟩⟩

end Avc

end Camcorder
