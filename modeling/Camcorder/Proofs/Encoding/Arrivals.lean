import Mathlib
import Camcorder.Encoding.Scripted
import Camcorder.Proofs.Encoding.Backlog
import Camcorder.Proofs.Encoding.Polling
import Camcorder.Proofs.Encoding.StartCodes

/-!
# What arrives is passed on as it arrives

A poll may come back with a sample of any offset and any size. A drain does not look at them: it offers its sink the
samples that arrive, as the instance reports them (`Pass.samples_turn`, `Encoder.InStep.drain`), and leaves it to the
reader to find the part of the slot that is meant. What is read is that part as far as the slot has it, except that the
end of the part has to be a number of 64 bits before it is cut off at the end of the slot (`Sample.payload?_eq`).
-/

namespace Camcorder

/-! ## Parts of a slot -/

namespace Sample

/-- The bytes of the slot from the offset of the sample on, as many as the sample has or as there are. -/
def part (s : Sample) : List UInt8 := (s.data.toList.drop s.info.offset).take s.info.size

/-- `payload?` with its cut checked: `none` also if it does not go from one place of the slot on to another. -/
def checked? (s : Sample) : Option Bytes := do
  let stop ← word? (s.info.offset + s.info.size)
  let stop := min stop s.data.size
  AnnexB.part? s.data (min s.info.offset stop) stop

theorem checked?_eq (s : Sample) : s.checked? = s.payload? := by
  unfold checked? payload?
  cases word? (s.info.offset + s.info.size) with
  | none => rfl
  | some stop => exact AnnexB.part?_eq_some (min_le_right _ _) (min_le_right _ _)

/-- A cut with both ends moved back into the slot leaves the part. -/
theorem extract_eq_part (s : Sample) :
    let stop := min (s.info.offset + s.info.size) s.data.size
    s.data.extract (min s.info.offset stop) stop = s.part.toArray := by
  apply Array.ext'
  rw [Array.toList_extract, List.extract_eq_take_drop, part]
  generalize at_stop : min (s.info.offset + s.info.size) s.data.size = stop
  by_cases inside : s.info.offset ≤ s.data.size
  · have first : min s.info.offset stop = s.info.offset := by omega
    have count : stop - s.info.offset = min s.info.size (s.data.toList.drop s.info.offset).length := by
      rw [List.length_drop, Array.length_toList]
      omega
    rw [first, count, ← List.take_eq_take_min]
  · -- Nothing of the slot is behind its end.
    have count : stop - min s.info.offset stop = 0 := by omega
    have behind : s.data.toList.drop s.info.offset = [] := by
      apply List.drop_eq_nil_of_le
      rw [Array.length_toList]
      omega
    rw [count, behind, List.take_zero, List.take_nil]

/-- A sample is read as its part, unless the sum of its offset and its size does not fit a word. -/
theorem payload?_eq (s : Sample) :
    s.payload? = if s.info.offset + s.info.size < wordLimit then some s.part.toArray else none := by
  unfold payload? word?
  by_cases fits : s.info.offset + s.info.size < wordLimit
  · rw [if_pos fits, if_pos fits]
    exact congrArg some s.extract_eq_part
  · rw [if_neg fits, if_neg fits]
    rfl

/-- A sample that fills its slot is all of what is in the slot. -/
theorem payload?_whole {s : Sample} (offset : s.info.offset = 0) (size : s.info.size = s.data.size)
    (fits : s.data.size < wordLimit) : s.payload? = some s.data := by
  have whole : s.part = s.data.toList := by
    rw [part, offset, size, List.drop_zero, ← Array.length_toList, List.take_length]
  rw [payload?_eq, offset, size, zero_add, if_pos fits, whole, Array.toArray_toList]

end Sample

/-! ## Arrivals -/

/-- A sample that a poll came back with, and what could be read of its slot then. -/
structure Arrival where
  info : SampleInfo
  content? : Option Bytes
deriving DecidableEq, Repr

/-- What a sink is offered of an arrival: the whole slot with what was reported, if it holds a picture. -/
def Arrival.offered? (a : Arrival) : Option Sample := do
  let s : Sample := { data := ← a.content?, info := a.info }
  if s.holdsPicture then some s else none

/-- What arrives with a poll, given its answer and the instance after it. -/
def arrived {σ : Type} [Coder σ] : Output × σ → List Arrival
  | (.sample slot info, s) => [{ info, content? := Coder.slot? s slot }]
  | _ => []

/-- An instance, and what arrived from it so far. -/
structure Tracked (σ : Type) where
  coder : σ
  arrivals : List Arrival := []

namespace Tracked

variable {σ : Type}

/-- An instance from which nothing arrived yet. -/
def fresh (coder : σ) : Tracked σ := { coder }

variable [Coder σ]

instance : Coder (Tracked σ) where
  start t :=
    let (r, coder) := Coder.start t.coder
    (r, { t with coder })
  claim t wait :=
    let (slot, coder) := Coder.claim t.coder wait
    (slot, { t with coder })
  room? t := Coder.room? t.coder
  fill t slot picture := { t with coder := Coder.fill t.coder slot picture }
  queue t slot len pts flags :=
    let (r, coder) := Coder.queue t.coder slot len pts flags
    (r, { t with coder })
  poll t wait :=
    let (answer, coder) := Coder.poll t.coder wait
    (answer, { coder, arrivals := t.arrivals ++ arrived (answer, coder) })
  slot? t := Coder.slot? t.coder
  parameters? t := Coder.parameters? t.coder
  release t slot := { t with coder := Coder.release t.coder slot }
  stop t :=
    let (r, coder) := Coder.stop t.coder
    (r, { t with coder })
  left t := Coder.left t.coder
  left_poll_lt t := Coder.left_poll_lt t.coder
  left_poll_le t := Coder.left_poll_le t.coder
  left_release_le t := Coder.left_release_le t.coder

/-- An instance that is tracked answers like the instance itself. -/
theorem alike : Coder.Alike fun (s : σ) (t : Tracked σ) => t.coder = s where
  claim h _ := by cases h; exact ⟨rfl, rfl⟩
  room? h _ := by cases h; rfl
  fill h _ _ := by cases h; rfl
  queue h _ _ _ _ := by cases h; exact ⟨rfl, rfl⟩
  poll h _ := by cases h; exact ⟨rfl, rfl⟩
  slot? h _ := by cases h; rfl
  parameters? h := by cases h; rfl
  release h _ := by cases h; rfl

/-- A poll that is kept track of takes what the poll of the coder takes. -/
theorem arrived_poll (t : Tracked σ) (wait : Nat) :
    arrived (Coder.poll t wait) = arrived (Coder.poll t.coder wait) := by
  have asked : Coder.poll t wait = ((Coder.poll t.coder wait).1,
      { coder := (Coder.poll t.coder wait).2, arrivals := t.arrivals ++ arrived (Coder.poll t.coder wait) }) := rfl
  rw [asked]
  rcases Coder.poll t.coder wait with ⟨answer, coder⟩
  cases answer <;> rfl

end Tracked

/-! ## What a pass offers -/

theorem Delivery.samples_append_map (l : List Delivery) (m : List Sample) :
    samples (l ++ m.map .sample) = samples l ++ m := by
  have all : sample? ∘ Delivery.sample = some := rfl
  rw [samples, samples, List.filterMap_append, List.filterMap_map, all, List.filterMap_some]

namespace Pass

variable {σ κ : Type} [Coder σ] [Sink κ]

omit [Coder σ] in
/-- A sample that is offered is heard, taken or not. -/
theorem heard_offer (p : Pass σ (Observed κ)) (s : Sample) :
    (p.offer s).2.sink.heard = p.sink.heard ++ [.sample s] := by
  have asked : Sink.accept p.sink s = ((Sink.accept p.sink.sink s).1,
      { sink := (Sink.accept p.sink.sink s).2, heard := p.sink.heard ++ [.sample s] }) := rfl
  unfold offer
  rw [asked]
  rcases Sink.accept p.sink.sink s with ⟨(e | f) | u, k⟩
  · cases e <;> rfl
  · rfl
  · rfl

/-- Of an arrival the sink is given what it is to be offered. -/
theorem heard_deliver (p : Pass σ (Observed κ)) (slot : Nat) (info : SampleInfo) :
    (p.deliver slot info).2.sink.heard = p.sink.heard ++
      (([{ info, content? := Coder.slot? p.source slot }] : List Arrival).filterMap Arrival.offered?).map .sample := by
  have holds (data : Bytes) : ({ data, info } : Sample).holdsPicture = !(info.flags.codecConfig || info.size == 0) :=
    rfl
  unfold deliver Arrival.offered?
  generalize (info.flags.codecConfig || info.size == 0) = blank at holds ⊢
  cases blank with
  | true => cases Coder.slot? p.source slot <;> simp [skip, holds]
  | false =>
    cases Coder.slot? p.source slot with
    | none => exact (List.append_nil _).symm
    | some data => simpa [holds] using heard_offer p { data, info }

theorem heard_takeSample (p : Pass σ (Observed κ)) (slot : Nat) (info : SampleInfo) :
    (p.takeSample slot info).pass.sink.heard = (p.deliver slot info).2.sink.heard := by
  unfold takeSample
  rcases p.deliver slot info with ⟨failure | u, p'⟩
  · rfl
  · dsimp only
    split <;> rfl

theorem samples_takeFormat (p : Pass σ (Observed κ)) :
    Delivery.samples p.takeFormat.pass.sink.heard = Delivery.samples p.sink.heard := by
  unfold takeFormat
  split
  · rfl
  · cases Coder.parameters? p.source with
    | none => rfl
    | some q =>
      have asked : Sink.register p.sink q = ((Sink.register p.sink.sink q).1,
          { sink := (Sink.register p.sink.sink q).2, heard := p.sink.heard ++ [.format q] }) := rfl
      have same : Delivery.samples (p.sink.heard ++ [.format q]) = Delivery.samples p.sink.heard := by
        simp [Delivery.samples, Delivery.sample?]
      dsimp only
      rw [asked]
      rcases Sink.register p.sink.sink q with ⟨(e | f) | u, k⟩ <;> exact same

omit [Coder σ] in
theorem heard_takeNothing (p : Pass σ (Observed κ)) (atEnd : Bool) :
    (p.takeNothing atEnd).pass.sink.heard = p.sink.heard := by
  unfold takeNothing
  split
  · dsimp only
    split <;> rfl
  · rfl

/-- A turn offers the sink what its poll came back with, whatever the offset and the size are. -/
theorem samples_turn (p : Pass σ (Observed κ)) (atEnd : Bool) :
    Delivery.samples (p.turn atEnd).pass.sink.heard = Delivery.samples p.sink.heard ++
      (arrived (Coder.poll p.source (wait atEnd))).filterMap Arrival.offered? := by
  unfold turn wait
  rcases Coder.poll p.source (if atEnd then endWait else 0) with ⟨answer, s⟩
  cases answer with
  | nothing =>
    dsimp only
    rw [heard_takeNothing]
    exact (List.append_nil _).symm
  | format =>
    dsimp only
    rw [samples_takeFormat]
    exact (List.append_nil _).symm
  | sample slot info =>
    dsimp only
    rw [heard_takeSample, heard_deliver, Delivery.samples_append_map]
    rfl

theorem Polled.arrivals_eq {t t' : Tracked σ} (h : Polled t t') : t'.arrivals = t.arrivals := by
  cases h <;> rfl

/-- A turn adds what its poll took to the arrivals, and nothing else. -/
theorem arrivals_turn (p : Pass (Tracked σ) κ) (atEnd : Bool) :
    (p.turn atEnd).pass.source.arrivals =
      p.source.arrivals ++ arrived (Coder.poll p.source.coder (wait atEnd)) :=
  (p.polled_turn atEnd).arrivals_eq

/-- The sink was offered what arrived, as it arrived. -/
def InStep (p : Pass (Tracked σ) (Observed κ)) : Prop :=
  Delivery.samples p.sink.heard = p.source.arrivals.filterMap Arrival.offered?

/-- What is heard keeps in step with the arrivals in each turn. -/
theorem InStep.turn {p : Pass (Tracked σ) (Observed κ)} (h : p.InStep) (atEnd : Bool) :
    (p.turn atEnd).pass.InStep := by
  unfold InStep at h ⊢
  rw [samples_turn, arrivals_turn, Tracked.arrived_poll, List.filterMap_append, h]

/-- What is heard keeps in step with the arrivals in all turns of a drain. -/
theorem InStep.run {p : Pass (Tracked σ) (Observed κ)} (h : p.InStep) (atEnd : Bool) :
    (p.run atEnd).2.InStep := by
  fun_induction Pass.run p atEnd with
  | case1 p r p' done =>
    have turned := h.turn atEnd
    rwa [done] at turned
  | case2 p p' again ih =>
    have turned := h.turn atEnd
    rw [again] at turned
    exact ih turned

end Pass

/-! ## What a drain offers -/

namespace Encoder

variable {σ κ : Type}

/-- The session with an instance that is tracked from now on. -/
def tracked (e : Encoder σ) : Encoder (Tracked σ) := e.upon (e.instance?.map .fresh)

/-- The session with the instance alone. -/
def untracked (e : Encoder (Tracked σ)) : Encoder σ := e.upon (e.instance?.map Tracked.coder)

/-- What arrived from the instance of a session, nothing if there is none. -/
def arrivals (e : Encoder (Tracked σ)) : List Arrival := (e.instance?.map Tracked.arrivals).getD []

theorem arrivals_tracked (e : Encoder σ) : e.tracked.arrivals = [] := by
  unfold arrivals tracked upon
  cases e.instance? <;> rfl

variable [Coder σ] [Sink κ]

/-- A drain does with a tracked instance what it does with the instance alone. -/
theorem drain_tracked (e : Encoder σ) (atEnd : Bool) (sink : κ) (now : Nat) :
    e.drain atEnd sink now = ((e.tracked.drain atEnd sink now).1, (e.tracked.drain atEnd sink now).2.1.untracked,
      (e.tracked.drain atEnd sink now).2.2) :=
  drain_upon_map (f := Tracked.fresh) (fun _ => rfl) Tracked.alike e atEnd sink now

/-- To announce the end of the stream is nothing that a sink hears. -/
theorem heard_signalEnd (e : Encoder σ) (o : Observed κ) (now : Nat) : (e.signalEnd o now).2.2.heard = o.heard := by
  unfold signalEnd
  dsimp only
  cases (e.stamp now).2.instance? with
  | none => rfl
  | some coder =>
    dsimp only
    rcases Coder.claim coder inputWait with ⟨_ | slot, coder'⟩ <;> rfl

/-- The sink was offered what arrived, as it arrived. -/
def InStep (e : Encoder (Tracked σ)) (o : Observed κ) : Prop :=
  Delivery.samples o.heard = e.arrivals.filterMap Arrival.offered?

variable {e : Encoder (Tracked σ)} {o : Observed κ}

/-- The marker that ends the stream is queued without a poll. -/
theorem InStep.signalEnd (h : e.InStep o) (now : Nat) :
    (e.signalEnd o now).2.1.InStep (e.signalEnd o now).2.2 := by
  have kept := map_signalEnd (f := Tracked.arrivals) (fun _ _ => rfl) (fun _ _ _ _ _ => rfl) e o now
  unfold InStep arrivals at h ⊢
  rw [heard_signalEnd, kept, h]

theorem InStep.collect (h : e.InStep o) (atEnd : Bool) :
    (e.collect atEnd o).2.1.InStep (e.collect atEnd o).2.2 := by
  unfold Encoder.collect
  cases held : e.instance? with
  | none => exact h
  | some t =>
    unfold InStep arrivals at h
    rw [held] at h
    exact Pass.InStep.run (p := { source := t, sink := o, delivered := e.formatDelivered }) h atEnd

/-- A drain, with the end announced or without, keeps them in step. -/
theorem InStep.drain (h : e.InStep o) (atEnd : Bool) (now : Nat) :
    (e.drain atEnd o now).2.1.InStep (e.drain atEnd o now).2.2 := by
  unfold Encoder.drain
  split
  · have told := InStep.signalEnd (e := { e with state := .draining }) h now
    rcases signalled : ({ e with state := .draining } : Encoder (Tracked σ)).signalEnd o now with
      ⟨failure | u, e', o'⟩ <;> rw [signalled] at told
    · exact told
    · exact told.collect true
  · exact h.collect false
  · exact h.collect true
  · exact h

end Encoder

/-! ## Instances from which anything arrives -/

namespace Scripted

/-- A backend from whose instances there is this arrival. -/
def bringing (a : Arrival) : Scripted := { script := { replies := [.sample a.info a.content?] } }

/-- A session that was opened with such an instance. -/
def session (a : Arrival) : Encoder Instance :=
  ((({} : Encoder Instance).configure (bringing a)
    { width := 2, height := 2, bitrate := 1, frameRate := 1, keyFrameSeconds := 1, layout := none } []).2.1.launch
    (bringing a)).2.1

theorem polled_script {t t' : Tracked Instance} (h : Pass.Polled t t') :
    t'.coder.script = t.coder.script ∧ t'.coder.polled = t.coder.polled := by
  cases h <;> exact ⟨rfl, rfl⟩

variable {κ : Type} [Sink κ]

/-- When the script is at its end, nothing more arrives. -/
theorem arrivals_run_ended {p : Pass (Tracked Instance) κ}
    (ended : p.source.coder.script.replies.length ≤ p.source.coder.polled) :
    (p.run false).2.source.arrivals = p.source.arrivals := by
  have nothing : Coder.poll p.source.coder (Pass.wait false) = (.nothing, p.source.coder.log (.poll 0)) := by
    show Instance.poll p.source.coder 0 = _
    unfold Instance.poll Instance.log
    dsimp only
    rw [List.getElem?_eq_none ended]
  have turned := p.arrivals_turn false
  rw [nothing] at turned
  rcases taken : p.turn false with p' | ⟨r, p'⟩
  · -- An empty poll is the last one unless the end of the stream is waited for.
    have goesOn := Pass.goesOn_of_again taken
    rw [show (Coder.poll p.source (Pass.wait false)).1 = .nothing from congrArg Prod.fst nothing] at goesOn
    generalize p'.emptyPolls = k at goesOn
    cases goesOn with
    | nothing few => exact absurd few (by simp [Pass.patience])
    | output came => exact absurd rfl came
  · rw [Pass.run_of_done taken]
    rw [taken] at turned
    exact turned.trans (List.append_nil _)

/-- A script of one sample arrives as that sample. -/
theorem arrivals_run {p : Pass (Tracked Instance) κ} {a : Arrival}
    (script : p.source.coder.script.replies = [.sample a.info a.content?]) (first : p.source.coder.polled = 0) :
    (p.run false).2.source.arrivals = p.source.arrivals ++ [a] := by
  have answer : Coder.poll p.source.coder (Pass.wait false) =
      (.sample 0 a.info, { p.source.coder.log (.poll 0) with polled := 1 }) := by
    show Instance.poll p.source.coder 0 = _
    unfold Instance.poll Instance.log
    dsimp only
    rw [script, first]
    rfl
  have content : Coder.slot? { p.source.coder.log (.poll 0) with polled := 1 } 0 = a.content? := by
    show Instance.slot? _ 0 = _
    unfold Instance.slot? Instance.log
    dsimp only
    rw [script]
    rfl
  have turned := p.arrivals_turn false
  rw [answer, arrived, content] at turned
  obtain ⟨same, polled⟩ := polled_script (p.polled_turn false)
  rw [show (Coder.poll p.source (Pass.wait false)).2.coder = _ from congrArg Prod.snd answer] at same polled
  rcases taken : p.turn false with p' | ⟨r, p'⟩ <;> rw [taken] at turned same polled
  · have ended : p'.source.coder.script.replies.length ≤ p'.source.coder.polled := by
      rw [show p'.source.coder.script = _ from same, show p'.source.coder.polled = _ from polled]
      exact (congrArg List.length script).le
    rw [Pass.run_of_again taken, arrivals_run_ended ended]
    exact turned
  · rw [Pass.run_of_done taken]
    exact turned

theorem arrivals_session (a : Arrival) (sink : κ) (now : Nat) :
    ((session a).tracked.drain false sink now).2.1.arrivals = [a] :=
  arrivals_run (p := { source := .fresh ((session a).instance?.get rfl), sink, delivered := false }) rfl rfl

end Scripted

/-- A sample is read exactly if its offset and its size add up to a number of 64 bits, and then as the part of its slot
that they name, as far as the slot has it; no cut goes astray. Any offset and any size can come up: a drain offers its
sink the samples that arrive with the slot, the offset and the size that the instance reports, whatever the instance
and the sink are, and there are sessions in which anything at all arrives. -/
theorem Encoder.parts_as_reported {κ : Type} [Sink κ] :
    (∀ s : Sample, s.checked? = s.payload? ∧
      s.payload? = if s.info.offset + s.info.size < wordLimit then some s.part.toArray else none) ∧
    (∀ {σ : Type} [Coder σ] (e : Encoder σ) (atEnd : Bool) (sink : κ) (now : Nat),
      let o : Observed κ := { sink }
      let r := e.tracked.drain atEnd o now
      e.drain atEnd o now = (r.1, r.2.1.untracked, r.2.2) ∧
        Delivery.samples r.2.2.heard = r.2.1.arrivals.filterMap Arrival.offered?) ∧
    ∀ (a : Arrival) (sink : κ) (now : Nat),
      ((Scripted.session a).tracked.drain false sink now).2.1.arrivals = [a] := by
  refine ⟨fun s => ⟨s.checked?_eq, s.payload?_eq⟩, fun {σ} _ e atEnd sink now => ⟨?_, ?_⟩, Scripted.arrivals_session⟩
  · exact e.drain_tracked atEnd _ now
  · have begun : e.tracked.InStep ({ sink } : Observed κ) := by
      unfold InStep
      rw [arrivals_tracked]
      rfl
    exact begun.drain atEnd now

/-- Three bytes behind the first one, and the greatest size there is: the sum leaves the word before it is cut off. -/
theorem Sample.rest_unreadable :
    let s : Sample := { data := #[0, 1, 2, 3], info := { offset := 1, size := wordLimit - 1 } }
    s.info.offset < wordLimit ∧ s.info.size < wordLimit ∧ s.part = [1, 2, 3] ∧ s.payload? = none := by
  decide

end Camcorder
