import Mathlib
import Camcorder.Proofs.Encoding.Arrivals
import Camcorder.Proofs.Encoding.LoopbackOrder

/-!
# Runs of loopback sessions

What a session with a loopback instance passes on: the pictures it queued, in their order, each once, behind the
header for the first picture or that for the others.
-/

namespace Camcorder

namespace Loopback

/-- The access unit that a picture comes back as. -/
def unit (first : Bool) (p : Bytes × Nat) : Sample :=
  let data := (if first then firstHeader else laterHeader) ++ p.1
  { data, info := { size := data.size, pts := p.2, flags := { keyFrame := first } } }

/-- What the sink is to be given for the pictures that were queued. -/
def script (q : CodecParameters) : List (Bytes × Nat) → List Delivery
  | [] => []
  | p :: l => .format q :: .sample (unit true p) :: l.map fun p => .sample (unit false p)

theorem ofSample_unit (first : Bool) (p : Bytes × Nat) : Delivery.ofSample (unit first p) = [.sample (unit first p)] := by
  apply Delivery.ofSample_of_picture
  · rfl
  · cases first <;> simp [unit, firstHeader, laterHeader, AnnexB.startCode]

/-- A further picture adds its announcement, if it is the first one, and its access unit. -/
theorem script_concat (q : CodecParameters) (l : List (Bytes × Nat)) (p : Bytes × Nat) (news : List Delivery)
    (h : news = [] ∨ news = [.format q]) (first : l = [] → news = [.format q]) :
    script q (l ++ [p]) =
      script q l ++ Delivery.due (!l.isEmpty) (news ++ [.sample (unit l.isEmpty p)]) := by
  cases l with
  | nil =>
    rw [first rfl]
    simp [script, Delivery.due, ofSample_unit]
  | cons p' l =>
    rcases h with rfl | rfl <;> simp [script, Delivery.due, ofSample_unit]

namespace Instance

/-- What is known of an instance as long as it takes pictures: it was made by `b` for the format `f`, in which
pictures have `len` bytes, and encoded `n` pictures so far. -/
structure Ready (b : Loopback) (f : StreamFormat) (len n : Nat) (s : Instance) : Prop where
  started : s.started = true
  parameters : s.parameters = { width := f.width, height := f.height, sps, pps }
  size : s.slots.size = b.slots
  room : ∀ (i : Nat) (slot : Slot), s.slots[i]? = some slot → slot.input.size = len
  repeatsFormat : s.repeatsFormat = b.repeatsFormat
  samples : s.samples = n
  sent : s.formatSent = decide (n ≠ 0)

variable {b : Loopback} {f : StreamFormat} {len n : Nat} {s s' : Instance}

/-- Whether an instance is ready depends on its core alone. -/
theorem Ready.of_core (h : Ready b f len n s) (same : s'.core = s.core) : Ready b f len n s' := by
  have slots : s'.core.slots = s.core.slots := congrArg Instance.slots same
  refine ⟨?_, ?_, ?_, ?_, ?_, ?_, ?_⟩
  · exact (congrArg Instance.started same).trans h.started
  · exact (congrArg Instance.parameters same).trans h.parameters
  · have size := congrArg Array.size slots
    simp only [core, Array.size_map] at size
    exact size.trans h.size
  · intro i slot hi
    have slot' := congrArg (·[i]?) slots
    simp only [core, Array.getElem?_map, hi, Option.map_some] at slot'
    rcases Option.map_eq_some_iff.mp slot'.symm with ⟨old, held, eq⟩
    have input : old.input = slot.input := (Slot.mk.inj eq).1
    rw [← input]
    exact h.room i old held
  · exact (congrArg Instance.repeatsFormat same).trans h.repeatsFormat
  · exact (congrArg Instance.samples same).trans h.samples
  · exact (congrArg Instance.formatSent same).trans h.sent

/-- Changing a slot without changing the size of its buffer. -/
theorem Ready.modify (h : Ready b f len n s) (i : Nat) {g : Slot → Slot}
    (keeps : ∀ slot, (g slot).input.size = slot.input.size) :
    Ready b f len n { s with slots := s.slots.modify i g } := by
  refine ⟨h.started, h.parameters, (Array.size_modify ..).trans h.size, ?_, h.repeatsFormat, h.samples, h.sent⟩
  intro j slot hj
  rw [Array.getElem?_modify] at hj
  split at hj
  · rcases Option.map_eq_some_iff.mp hj with ⟨old, held, rfl⟩
    rw [keeps]
    exact h.room j old held
  · exact h.room j slot hj

/-- Whether the format is announced before the next sample. -/
def announces (s : Instance) : Bool := !s.formatSent || s.repeatsFormat

/-- A picture is put on the shelf as one sample, behind the format where that is announced. -/
theorem shelf_encode {i : Nat} {slot : Slot} (hi : s.slots[i]? = some slot) (busy : slot.busy = true) (len pts : Nat) :
    (s.encode i slot len pts).shelf = (if s.announces then s.shelf.announce else s.shelf).put i
      (unit (s.samples == 0) (slot.input.extract 0 len, pts)) := by
  unfold encode announces
  dsimp only
  split
  · refine (shelf_emit (s := { s with
      pending := s.pending ++ [.format], formatSent := true, samples := s.samples + 1 }) hi busy _ _ _).trans ?_
    have line : (s.pending ++ [Event.format]).map Event.place? = s.pending.map Event.place? ++ [none] :=
      List.map_append
    simp only [Instance.shelf, Shelf.announce, line]
    rfl
  · exact shelf_emit (s := { s with samples := s.samples + 1 }) hi busy _ _ _

theorem Ready.emit (h : Ready b f len n s) (i : Nat) (output : Bytes) (pts : Nat) (flags : SampleFlags) :
    Ready b f len n (s.emit i output pts flags) := by
  have h' := h.modify i (g := fun slot => { slot with output, info := { size := output.size, pts, flags } }) fun _ => rfl
  exact ⟨h.started, h.parameters, h'.size, h'.room, h.repeatsFormat, h.samples, h.sent⟩

/-- After a picture the instance is ready for the next one. -/
theorem Ready.encode (h : Ready b f len n s) (i : Nat) (slot : Slot) (len' pts : Nat) :
    Ready b f len (n + 1) (s.encode i slot len' pts) := by
  have samples : s.samples + 1 = n + 1 := by rw [h.samples]
  unfold Instance.encode
  dsimp only
  split
  · apply Ready.emit
    exact ⟨h.started, h.parameters, h.size, h.room, h.repeatsFormat, samples, by simp⟩
  · rename_i silent
    rw [Bool.or_eq_true, not_or, Bool.not_eq_true', Bool.not_eq_false] at silent
    apply Ready.emit
    exact ⟨h.started, h.parameters, h.size, h.room, h.repeatsFormat, samples, by simpa using silent.1⟩

/-- A slot that was claimed and filled with a picture. -/
theorem Ready.filled (h : Ready b f len n s) {i : Nat} (hc : s.claim = (some i, s')) {picture : Bytes}
    (fits : picture.size = len) :
    Ready b f len n (s'.fill i picture) ∧ Coder.room? s' i = some len ∧
      ∃ slot, (s'.fill i picture).slots[i]? = some slot ∧ slot.busy = true ∧ slot.input = picture := by
  rcases claim_some hc with ⟨⟨place, hi, _⟩, _, eq⟩
  rw [getElem?_places] at hi
  rcases Option.map_eq_some_iff.mp hi with ⟨old, held, _⟩
  have room : old.input.size = len := h.room i old held
  have claimed : s'.slots[i]? = some { old with busy := true } := by
    rw [eq]
    simp [Array.getElem?_modify, held]
  refine ⟨?_, ?_, { old with input := picture, busy := true }, ?_, rfl, rfl⟩
  · rw [eq]
    have h' := h.modify i (g := fun slot => { slot with busy := true }) fun _ => rfl
    exact h'.modify i (g := fun slot => { slot with input := Bytes.overwrite slot.input picture }) fun _ =>
      Bytes.size_overwrite _ _
  · rw [← room]
    exact congrArg (Option.map fun slot : Slot => slot.input.size) claimed
  · unfold fill
    simp [Array.getElem?_modify, claimed, Bytes.overwrite_of_size_eq (fits.trans room.symm)]

/-- A picture of the right length is dropped without a trace if no place is free, and waits at the end of the line
otherwise, behind an announcement of the format if there is to be one. -/
theorem Ready.feed_cases (ready : Ready b f len n s) (sound : Sound s) {picture : Bytes} (fits : picture.size = len)
    (pts : Nat) :
    (Encoder.feed s picture pts = (.ok .dropped, s) ∧ ∀ i, ¬ s.shelf.IsFree i) ∨
    ∃ s', Encoder.feed s picture pts = (.ok (.queued pts), s') ∧ Ready b f len (n + 1) s' ∧ Sound s' ∧
      s'.backlog = s.backlog ++ ((if s.announces then [.format s.parameters] else []) ++
        [.sample (unit (n == 0) (picture, pts))]) := by
  rcases hc : s.claim with ⟨_ | i, s₁⟩
  · -- No slot is handed out, and the instance stays as it was.
    left
    rcases claim_none hc with ⟨same, busy⟩
    have hc' : Coder.claim s Encoder.inputWait = (none, s₁) := hc
    refine ⟨?_, busy ready.started⟩
    unfold Encoder.feed
    rw [hc', same]
  · -- The slot that the picture is written to is the place of its access unit.
    right
    have hc' : Coder.claim s Encoder.inputWait = (some i, s₁) := hc
    rcases claim_some hc with ⟨free, shelf, eq⟩
    rcases ready.filled hc fits with ⟨ready', room, slot, held, busy, input⟩
    have queued : Coder.queue (Coder.fill s₁ i picture) i picture.size pts .none =
        (.ok (), (s₁.fill i picture).encode i slot picture.size pts) := by
      have eq : (s₁.fill i picture).queue i picture.size pts .none =
          (.ok (), (s₁.fill i picture).encode i slot picture.size pts) := by
        simp [queue, held, busy, SampleFlags.none]
      exact eq
    have fed : Encoder.feed s picture pts = (.ok (.queued pts), (s₁.fill i picture).encode i slot picture.size pts) := by
      unfold Encoder.feed
      rw [hc']
      dsimp only
      rw [room]
      dsimp only
      rw [if_neg (by omega), queued]
    have announces : (s₁.fill i picture).announces = s.announces := by rw [eq]; rfl
    have shelf' : ((s₁.fill i picture).encode i slot picture.size pts).shelf =
        (if s.announces then s.shelf.announce else s.shelf).put i (unit (n == 0) (picture, pts)) := by
      rw [shelf_encode held busy, announces, ready'.samples, input, Array.extract_size, shelf_fill, shelf]
      split
      · exact Shelf.put_claim s.shelf.announce i _
      · exact Shelf.put_claim s.shelf i _
    have ready'' := ready'.encode i slot picture.size pts
    refine ⟨_, fed, ready'', ⟨?_, ?_⟩, ?_⟩
    · rw [shelf']
      split
      · exact sound.shelf.announce.put free _
      · exact sound.shelf.put free _
    · intro _
      rw [ready''.sent]
      simp
    · unfold backlog
      rw [shelf', ready''.parameters, ready.parameters]
      split
      · rw [Shelf.deliveries_put sound.shelf.announce free, Shelf.deliveries_announce, List.append_assoc]
      · rw [Shelf.deliveries_put sound.shelf free, List.nil_append]

end Instance

/-! ## The ledger -/

/-- The parameters of a stream in the format `f`. -/
def parameters (f : StreamFormat) : CodecParameters := { width := f.width, height := f.height, sps, pps }

/-- The ledger of a session with an instance that `b` made for `f`, in which pictures have `len` bytes. -/
def ledger (b : Loopback) (f : StreamFormat) (len : Nat) : Ledger Instance where
  length := len
  script h := script (parameters f) (queued h)
  announced h := !(queued h).isEmpty
  Ready h := Instance.Ready b f len (queued h).length
  Answers a := ∃ x, a = .ok x
  repeats := b.repeatsFormat
  ready_of_core := Instance.Ready.of_core
  turned_away h s away := by
    rw [queued_concat_of_turnedAway h away]
    exact ⟨rfl, rfl, fun _ ready => ready⟩
  fed := by
    intro h c picture pts ready sound fits
    rcases ready.feed_cases sound fits pts with ⟨fed, _⟩ | ⟨s', fed, ready', sound', backlog⟩
    · rw [fed]
      dsimp only
      rw [queued_concat_of_none h rfl]
      refine ⟨⟨_, rfl⟩, ready, sound, [], (List.append_nil _).symm, nofun, ?_, ?_, ?_⟩
      · simp [Delivery.due]
      · simp
      · intro _
        cases (queued h).isEmpty <;> decide
    · rw [fed]
      dsimp only
      rw [queued_concat h rfl]
      have isEmpty : ((queued h).length == 0) = (queued h).isEmpty := by cases queued h <;> rfl
      have first (none : queued h = []) : c.announces = true := by
        simp [Instance.announces, ready.sent, none]
      rw [isEmpty, ready.parameters] at backlog
      refine ⟨⟨_, rfl⟩, by rw [List.length_append]; exact ready', sound', _, backlog, ?_, ?_, ?_, ?_⟩
      · intro d hd
        rcases List.mem_append.mp hd with format | unit
        · split at format
          · cases List.mem_singleton.mp format
            rfl
          · cases format
        · cases List.mem_singleton.mp unit
          rfl
      · apply script_concat
        · split
          · exact .inr rfl
          · exact .inl rfl
        · intro none
          rw [first none]
          rfl
      · cases hq : queued h with
        | nil =>
          rw [first hq]
          rfl
        | cons p l => simp
      · intro single
        have announces : c.announces = (queued h).isEmpty := by
          unfold Instance.announces
          rw [ready.repeatsFormat, single, ready.sent]
          cases queued h <;> simp
        rw [announces]
        cases (queued h).isEmpty with
        | true => exact Nat.le_refl _
        | false => exact Nat.le_refl _

/-- A session that was opened keeps the ledger. -/
theorem keeps_of_opened {b b' : Loopback} {r : StreamRequest} {j j' : Journal} {f : StreamFormat}
    {e e' : Encoder Instance} (configured : ({} : Encoder Instance).configure b r j = (.ok f, e, j'))
    (launched : e.launch b = (.ok (), e', b')) :
    ∃ len c, f.inputLength? = some len ∧ (ledger b f len).Keeps [] e' [] c ∧ c.backlog = [] := by
  rcases Encoder.opened configured launched with ⟨c, c', created, started, rfl⟩
  have created : create b f = (.ok c, b') := created
  unfold create at created
  split at created
  · cases created
  · cases length : f.inputLength? with
    | none =>
      rw [length] at created
      cases created
    | some len =>
      rw [length] at created
      cases created
      cases started
      refine ⟨len, _, rfl, ⟨rfl, ⟨f, rfl, length⟩, ⟨Shelf.sound_of_idle rfl ?_, nofun⟩, rfl, rfl, fun _ => Nat.zero_le _,
        nofun, .running rfl ?_ nofun⟩, rfl⟩
      · intro place hp
        rcases Array.mem_map.mp hp with ⟨slot, held, rfl⟩
        rw [Array.eq_of_mem_replicate held]
        rfl
      · refine ⟨rfl, rfl, Array.size_replicate, ?_, rfl, rfl, rfl⟩
        intro i slot held
        rcases Array.getElem?_eq_some_iff.mp held with ⟨_, rfl⟩
        simp [Bytes.fill]

/-! ## Runs -/

/-- How many announcements of the format wait in the instance of a session. -/
def formatsWaiting (e : Encoder Instance) : Nat := e.instance?.elim 0 fun s => s.pending.count .format

theorem formats_backlog (s : Instance) : Delivery.formats s.backlog = s.pending.count .format := by
  unfold Instance.backlog
  rw [Shelf.formats_deliveries]
  unfold Instance.shelf
  rw [List.count_eq_countP, List.count_eq_countP, List.countP_map]
  apply List.countP_congr
  intro e _
  cases e <;> simp [Event.place?]

/-- Every sample of a script is made of one of its pictures. -/
theorem eq_unit_of_mem_script {q : CodecParameters} {l : List (Bytes × Nat)} {s : Sample}
    (h : .sample s ∈ script q l) : ∃ first p, p ∈ l ∧ s = unit first p := by
  cases l with
  | nil => cases h
  | cons p l =>
    rcases List.mem_cons.mp h with h | h
    · cases h
    · rcases List.mem_cons.mp h with h | h
      · cases h
        exact ⟨true, p, .head _, rfl⟩
      · rcases List.mem_map.mp h with ⟨p', hp, eq⟩
        cases eq
        exact ⟨false, p', .tail _ hp, rfl⟩

/-- An access unit is not too long to be read as a whole. -/
theorem payload?_unit {f : StreamFormat} {len : Nat} (length : f.inputLength? = some len) (first : Bool)
    {p : Bytes × Nat} (size : p.1.size = len) : (unit first p).payload? = some (unit first p).data := by
  rw [StreamFormat.inputLength?_eq, Geometry.len420?_eq_some_iff] at length
  rcases length with ⟨bound, rfl⟩
  have header : (if first then firstHeader else laterHeader).size ≤ 21 := by cases first <;> decide
  apply Sample.payload?_whole rfl rfl
  simp only [unit, Array.size_append, size, wordLimit] at bound ⊢
  omega

/-- The pictures that were queued have the right length. -/
theorem size_of_mem_queued {b : Loopback} {f : StreamFormat} {len : Nat} {h : List Submitted} {e : Encoder Instance}
    {heard : List Delivery} {c : Instance} (keeps : (ledger b f len).Keeps h e heard c) {p : Bytes × Nat}
    (hp : p ∈ queued h) : p.1.size = len := by
  rcases List.mem_filterMap.mp hp with ⟨x, hx, queued⟩
  unfold Submitted.queued? at queued
  split at queued
  · rename_i answer
    cases queued
    exact (keeps.seen x hx (by rw [Submitted.isTurnedAway, answer])).1
  · cases queued

/-- What a session with a loopback instance hands to its sink, whatever is asked of it in whichever order and
whatever the sink refuses: at any time it is the beginning of the format and the queued pictures, in their order,
each once and behind its header; and it is all of it once the session was drained at the end often enough, once
and then once more for each announcement of the format that waited at the time. -/
theorem heard_isPrefix_queued {κ : Type} [Sink κ] [Answering κ] {b b' : Loopback} {r : StreamRequest} {j j' : Journal}
    {f : StreamFormat} {e e' : Encoder Instance}
    (configured : ({} : Encoder Instance).configure b r j = (.ok f, e, j'))
    (launched : e.launch b = (.ok (), e', b')) (sink : κ) (requests : List Request) :
    let opened : Trial Instance κ := { encoder := e', sink := { sink } }
    let t := opened.run requests
    t.sink.heard <+: script (parameters f) (queued t.submissions) ∧
      (∀ s ∈ Delivery.samples t.sink.heard, s.payload? = some s.data) ∧
      ∀ before now after, requests = before ++ .drain true now :: after →
        formatsWaiting (opened.run before).encoder ≤ after.countP Request.isEnd →
        t.sink.heard = script (parameters f) (queued t.submissions) := by
  intro opened t
  rcases keeps_of_opened configured launched with ⟨len, c, length, keeps, _⟩
  have holds : (ledger b f len).Holds opened c := keeps
  rcases holds.run requests with ⟨c', holds'⟩
  refine ⟨holds'.isPrefix, ?_, ?_⟩
  · intro s hs
    rcases List.mem_filterMap.mp hs with ⟨_ | s', hd, eq⟩
    · cases eq
    · cases eq
      rcases eq_unit_of_mem_script (holds'.isPrefix.subset hd) with ⟨first, p, hp, rfl⟩
      exact payload?_unit length first (size_of_mem_queued holds' hp)
  · rintro before now after rfl enough
    -- The first drain takes one announcement away, and those that follow the others.
    rcases holds.run before with ⟨c₁, holds₁⟩
    rcases holds₁.drain_end now with ⟨c₂, holds₂, state, fewer, _⟩
    have waiting : formatsWaiting (opened.run before).encoder = Delivery.formats (Orderly.backlog c₁) := by
      unfold formatsWaiting
      rw [holds₁.held]
      exact (formats_backlog c₁).symm
    have split : t = ((opened.run before).step (.drain true now)).run after := by
      simp only [t, Trial.run, List.foldl_append, List.foldl_cons]
    rw [split]
    apply holds₂.run_draining state
    rcases fewer with none | fewer
    · exact .inl none
    · right
      omega

/-- A picture of 2 × 2 pixels, and two drains at the end, since its format waits before the first of them. -/
theorem heard_isPrefix_queued_single :
    let b : Loopback := { slots := 1, repeatsFormat := true }
    let r : StreamRequest :=
      { width := 2, height := 2, bitrate := 1, frameRate := 1, keyFrameSeconds := 1, layout := none }
    let e := ((({} : Encoder Instance).configure b r []).2.1.launch b).2.1
    let t := ({ encoder := e, sink := { sink := {} } } : Trial Instance Moody).run
      [.submit (Bytes.fill 6 7) 5, .drain true 8, .drain true 9]
    t.sink.heard = script { width := 2, height := 2, sps, pps } (queued t.submissions) :=
  (heard_isPrefix_queued (b := { slots := 1, repeatsFormat := true })
    (r := { width := 2, height := 2, bitrate := 1, frameRate := 1, keyFrameSeconds := 1, layout := none })
    (j := []) rfl rfl ({} : Moody) _).2.2 [.submit (Bytes.fill 6 7) 5] 8 [.drain true 9] rfl (by decide +kernel)

end Loopback

end Camcorder
