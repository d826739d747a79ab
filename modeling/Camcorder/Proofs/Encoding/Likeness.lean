import Mathlib
import Camcorder.Proofs.Encoding.Delivery

/-!
# Instances that answer alike

A session hears of its instance only through the answers that it gives. Where two instances answer alike whatever they
are asked, a submission and a drain come to the same with either of them (`Encoder.submit_upon`, `Encoder.drain_upon`).
So an instance on which books are kept does what the instance alone would do.
-/

namespace Camcorder

variable {σ σ' κ : Type} [Coder σ] [Coder σ'] {R : σ → σ' → Prop} {s' : σ'}

/-- Instances in this relation give the same answer to whatever both are asked while they are in use, and stay in it. -/
structure Coder.Alike (R : σ → σ' → Prop) : Prop where
  claim {s : σ} {s' : σ'} (h : R s s') (wait : Nat) :
    (Coder.claim s' wait).1 = (Coder.claim s wait).1 ∧ R (Coder.claim s wait).2 (Coder.claim s' wait).2
  room? {s : σ} {s' : σ'} (h : R s s') (slot : Nat) : Coder.room? s' slot = Coder.room? s slot
  fill {s : σ} {s' : σ'} (h : R s s') (slot : Nat) (data : Bytes) : R (Coder.fill s slot data) (Coder.fill s' slot data)
  queue {s : σ} {s' : σ'} (h : R s s') (slot len pts : Nat) (flags : SampleFlags) :
    (Coder.queue s' slot len pts flags).1 = (Coder.queue s slot len pts flags).1 ∧
      R (Coder.queue s slot len pts flags).2 (Coder.queue s' slot len pts flags).2
  poll {s : σ} {s' : σ'} (h : R s s') (wait : Nat) :
    (Coder.poll s' wait).1 = (Coder.poll s wait).1 ∧ R (Coder.poll s wait).2 (Coder.poll s' wait).2
  slot? {s : σ} {s' : σ'} (h : R s s') (slot : Nat) : Coder.slot? s' slot = Coder.slot? s slot
  parameters? {s : σ} {s' : σ'} (h : R s s') : Coder.parameters? s' = Coder.parameters? s
  release {s : σ} {s' : σ'} (h : R s s') (slot : Nat) : R (Coder.release s slot) (Coder.release s' slot)

omit [Coder σ] [Coder σ'] in
/-- Each instance in place of another that it is related to. -/
theorem Coder.rel_map {f : σ → σ'} (h : ∀ s, R s (f s)) (i : Option σ) : Option.Rel R i (i.map f) := by
  cases i with
  | none => exact .none
  | some s => exact .some (h s)

namespace Pass

/-- The pass upon another instance. -/
def upon (p : Pass σ κ) (source : σ') : Pass σ' κ :=
  { source, sink := p.sink, delivered := p.delivered, tally := p.tally, emptyPolls := p.emptyPolls }

/-- The turn, ending with another instance. -/
def Turn.upon (t : Turn σ κ) (source : σ') : Turn σ' κ :=
  match t with
  | .again p => .again (p.upon source)
  | .done r p => .done r (p.upon source)

variable [Sink κ]

omit [Coder σ] [Coder σ'] in
theorem offer_upon (p : Pass σ κ) (s' : σ') (s : Sample) :
    (p.upon s').offer s = ((p.offer s).1, (p.offer s).2.upon s') := by
  have sink : (p.upon s').sink = p.sink := rfl
  unfold offer
  rw [sink]
  rcases Sink.accept p.sink s with ⟨(e | f) | u, k⟩
  · cases e <;> rfl
  · rfl
  · rfl

/-- Coders that are alike deliver alike. -/
theorem deliver_upon (alike : Coder.Alike R) {p : Pass σ κ} (h : R p.source s') (slot : Nat) (info : SampleInfo) :
    (p.upon s').deliver slot info = ((p.deliver slot info).1, (p.deliver slot info).2.upon s') := by
  have read : Coder.slot? (p.upon s').source slot = Coder.slot? p.source slot := alike.slot? h slot
  unfold deliver
  split
  · rfl
  · rw [read]
    cases Coder.slot? p.source slot with
    | none => rfl
    | some data => exact p.offer_upon s' { data, info }

/-- A sample is taken from both alike, and they remain alike. -/
theorem takeSample_upon (alike : Coder.Alike R) {p : Pass σ κ} (h : R p.source s') (slot : Nat) (info : SampleInfo) :
    ∃ s'', R (p.takeSample slot info).pass.source s'' ∧
      (p.upon s').takeSample slot info = (p.takeSample slot info).upon s'' := by
  have came := deliver_upon alike h slot info
  have kept := (p.source_of_deliver slot info).1
  rcases delivered : p.deliver slot info with ⟨r, p'⟩
  rw [delivered] at came kept
  replace kept : p'.source = p.source := kept
  simp only [takeSample, delivered, came]
  cases r with
  | error failure =>
    -- A slot whose sample was not delivered does not go back.
    exact ⟨s', kept ▸ h, rfl⟩
  | ok u =>
    have released : R (Coder.release p'.source slot) (Coder.release s' slot) := alike.release (kept ▸ h) slot
    dsimp only
    split
    · exact ⟨_, released, rfl⟩
    · exact ⟨_, released, rfl⟩

theorem source_of_takeFormat' (p : Pass σ κ) : p.takeFormat.pass.source = p.source := by
  unfold takeFormat
  split
  · rfl
  · cases Coder.parameters? p.source with
    | none => rfl
    | some q =>
      dsimp only
      rcases Sink.register p.sink q with ⟨(e | f) | u, k⟩ <;> rfl

/-- The format is taken from both alike. -/
theorem takeFormat_upon (alike : Coder.Alike R) {p : Pass σ κ} (h : R p.source s') :
    (p.upon s').takeFormat = p.takeFormat.upon s' := by
  have read : Coder.parameters? (p.upon s').source = Coder.parameters? p.source := alike.parameters? h
  have delivered : (p.upon s').delivered = p.delivered := rfl
  have sink : (p.upon s').sink = p.sink := rfl
  unfold takeFormat
  rw [read, delivered, sink]
  cases p.delivered with
  | true => rfl
  | false =>
    cases Coder.parameters? p.source with
    | none => rfl
    | some q =>
      simp only [Bool.false_eq_true, if_false]
      rcases Sink.register p.sink q with ⟨(e | f) | u, k⟩ <;> rfl

omit [Coder σ] [Coder σ'] in
theorem source_of_takeNothing (p : Pass σ κ) (atEnd : Bool) : (p.takeNothing atEnd).pass.source = p.source := by
  unfold takeNothing
  split
  · dsimp only
    split <;> rfl
  · rfl

omit [Coder σ] [Coder σ'] in
theorem takeNothing_upon (p : Pass σ κ) (s' : σ') (atEnd : Bool) :
    (p.upon s').takeNothing atEnd = (p.takeNothing atEnd).upon s' := by
  have polls : (p.upon s').emptyPolls = p.emptyPolls := rfl
  unfold takeNothing
  cases atEnd with
  | true =>
    simp only [if_true, polls]
    split <;> rfl
  | false => rfl

/-- Each turn goes alike with both. -/
theorem turn_upon (alike : Coder.Alike R) {p : Pass σ κ} (h : R p.source s') (atEnd : Bool) :
    ∃ s'', R (p.turn atEnd).pass.source s'' ∧ (p.upon s').turn atEnd = (p.turn atEnd).upon s'' := by
  have source : (p.upon s').source = s' := rfl
  obtain ⟨answer, next⟩ := alike.poll h (if atEnd then endWait else 0)
  unfold turn
  rw [source]
  rcases polled : Coder.poll p.source (if atEnd then endWait else 0) with ⟨output, t⟩
  rcases polled' : Coder.poll s' (if atEnd then endWait else 0) with ⟨output', t'⟩
  rw [polled, polled'] at answer next
  cases answer
  cases output with
  | nothing =>
    refine ⟨t', ?_, takeNothing_upon { p with source := t } t' atEnd⟩
    dsimp only
    rw [source_of_takeNothing]
    exact next
  | format =>
    refine ⟨t', ?_, takeFormat_upon alike (p := { p with source := t, emptyPolls := 0 }) next⟩
    dsimp only
    rw [source_of_takeFormat']
    exact next
  | sample slot info => exact takeSample_upon alike (p := { p with source := t, emptyPolls := 0 }) next slot info

/-- A pass comes to the same upon an instance that answers alike. -/
theorem run_upon (alike : Coder.Alike R) {p : Pass σ κ} (h : R p.source s') (atEnd : Bool) :
    ∃ s'', R (p.run atEnd).2.source s'' ∧ (p.upon s').run atEnd = ((p.run atEnd).1, (p.run atEnd).2.upon s'') := by
  -- By induction on the turns, each of which comes to the same.
  fun_induction run p atEnd generalizing s' with
  | case1 p r p' done =>
    obtain ⟨s'', next, turned⟩ := turn_upon alike h atEnd
    rw [done] at next turned
    exact ⟨s'', next, run_of_done turned⟩
  | case2 p p' again ih =>
    obtain ⟨s'', next, turned⟩ := turn_upon alike h atEnd
    rw [again] at next turned
    obtain ⟨s₂, last, came⟩ := ih next
    exact ⟨s₂, last, (run_of_again turned).trans came⟩

end Pass

namespace Encoder

/-- The session with another instance, or none. -/
def upon (e : Encoder σ) (instance? : Option σ') : Encoder σ' :=
  { state := e.state, format := e.format, instance?, lastPts := e.lastPts, formatDelivered := e.formatDelivered
    framesQueued := e.framesQueued }

variable {e : Encoder σ} {i : Option σ'}

/-- Both are fed alike. -/
theorem feed_upon (alike : Coder.Alike R) {s : σ} (h : R s s') (picture : Bytes) (pts : Nat) :
    (feed s' picture pts).1 = (feed s picture pts).1 ∧ R (feed s picture pts).2 (feed s' picture pts).2 := by
  obtain ⟨answer, next⟩ := alike.claim h inputWait
  unfold feed
  rcases claimed : Coder.claim s inputWait with ⟨slot, t⟩
  rcases claimed' : Coder.claim s' inputWait with ⟨slot', t'⟩
  rw [claimed, claimed'] at answer next
  cases answer
  cases slot with
  | none => exact ⟨rfl, next⟩
  | some slot =>
    dsimp only
    rw [alike.room? next slot]
    cases Coder.room? t slot with
    | none => exact ⟨rfl, next⟩
    | some room =>
      dsimp only
      by_cases short : room < picture.size
      · rw [if_pos short, if_pos short]
        exact ⟨rfl, next⟩
      · obtain ⟨answer, next⟩ := alike.queue (alike.fill next slot picture) slot picture.size pts .none
        rw [if_neg short, if_neg short]
        rcases queued : Coder.queue (Coder.fill t slot picture) slot picture.size pts .none with ⟨r, u⟩
        rcases queued' : Coder.queue (Coder.fill t' slot picture) slot picture.size pts .none with ⟨r', u'⟩
        rw [queued, queued'] at answer next
        cases answer
        cases r with
        | error failure => exact ⟨rfl, next⟩
        | ok u => exact ⟨rfl, next⟩

/-- A submission comes to the same with an instance that answers alike. -/
theorem submit_upon (alike : Coder.Alike R) (h : Option.Rel R e.instance? i) (picture : Bytes) (pts : Nat) :
    ∃ i', Option.Rel R (e.submit picture pts).2.instance? i' ∧
      (e.upon i).submit picture pts = ((e.submit picture pts).1, (e.submit picture pts).2.upon i') := by
  have state : (e.upon i).state = e.state := rfl
  have format : (e.upon i).format = e.format := rfl
  have held : (e.upon i).instance? = i := rfl
  unfold submit
  rw [state, format, held]
  split
  · cases Attempt.ofOption .overflow ((e.format.map StreamFormat.inputLength?).getD (some 0)) with
    | error failure => exact ⟨i, h, rfl⟩
    | ok expected =>
      dsimp only
      split
      · exact ⟨i, h, rfl⟩
      · cases h' : e.instance? with
        | none =>
          cases h' ▸ h
          exact ⟨none, h, rfl⟩
        | some s =>
          rw [h'] at h
          cases h with
          | some h =>
            obtain ⟨answer, next⟩ := feed_upon alike h picture pts
            dsimp only
            rcases fed : feed s picture pts with ⟨r, t⟩
            rename_i s'
            rcases fed' : feed s' picture pts with ⟨r', t'⟩
            rw [fed, fed'] at answer next
            cases answer
            rcases r with failure | _ | _
            · exact ⟨some t', .some next, rfl⟩
            · exact ⟨some t', .some next, rfl⟩
            · exact ⟨some t', .some next, rfl⟩
  · exact ⟨i, h, rfl⟩

variable [Sink κ]

/-- The end of the stream is announced to both alike. -/
theorem signalEnd_upon (alike : Coder.Alike R) (h : Option.Rel R e.instance? i) (sink : κ) (now : Nat) :
    ∃ i', Option.Rel R (e.signalEnd sink now).2.1.instance? i' ∧
      (e.upon i).signalEnd sink now =
        ((e.signalEnd sink now).1, (e.signalEnd sink now).2.1.upon i', (e.signalEnd sink now).2.2) := by
  have allocated : (e.upon i).isAllocated = e.isAllocated := by
    show i.isSome = e.instance?.isSome
    generalize e.instance? = held at h
    cases h <;> rfl
  have stamped : (e.upon i).stamp now = ((e.stamp now).1, (e.stamp now).2.upon i) := by
    unfold stamp
    rw [allocated]
    rfl
  have held : (e.stamp now).2.instance? = e.instance? := rfl
  have held' : ((e.stamp now).2.upon i).instance? = i := rfl
  unfold signalEnd
  rw [stamped]
  dsimp only
  rw [held, held']
  cases h' : e.instance? with
  | none =>
    cases h' ▸ h
    exact ⟨none, h, rfl⟩
  | some s =>
    rw [h'] at h
    cases h with
    | some h =>
      obtain ⟨answer, next⟩ := alike.claim h inputWait
      dsimp only
      rename_i s'
      rcases claimed : Coder.claim s inputWait with ⟨slot, t⟩
      rcases claimed' : Coder.claim s' inputWait with ⟨slot', t'⟩
      rw [claimed, claimed'] at answer next
      cases answer
      cases slot with
      | none => exact ⟨some t', .some next, rfl⟩
      | some slot =>
        obtain ⟨answer, next⟩ := alike.queue next slot 0 (e.stamp now).1 { endOfStream := true }
        dsimp only
        rw [answer]
        exact ⟨some _, .some next, rfl⟩

/-- What they hold is collected alike. -/
theorem collect_upon (alike : Coder.Alike R) (h : Option.Rel R e.instance? i) (atEnd : Bool) (sink : κ) :
    ∃ i', Option.Rel R (e.collect atEnd sink).2.1.instance? i' ∧
      (e.upon i).collect atEnd sink =
        ((e.collect atEnd sink).1, (e.collect atEnd sink).2.1.upon i', (e.collect atEnd sink).2.2) := by
  have held : (e.upon i).instance? = i := rfl
  unfold collect
  rw [held]
  cases h' : e.instance? with
  | none =>
    cases h' ▸ h
    exact ⟨none, h, rfl⟩
  | some s =>
    rw [h'] at h
    cases h with
    | some h =>
      rename_i s'
      obtain ⟨s'', next, came⟩ :=
        Pass.run_upon alike (p := { source := s, sink, delivered := e.formatDelivered }) h atEnd
      have delivered : (e.upon (some s')).formatDelivered = e.formatDelivered := rfl
      refine ⟨some s'', .some next, ?_⟩
      dsimp only
      rw [delivered]
      unfold Pass.upon at came
      dsimp only at came
      rw [came]
      rfl

/-- A drain comes to the same with an instance that answers alike. -/
theorem drain_upon (alike : Coder.Alike R) (h : Option.Rel R e.instance? i) (atEnd : Bool) (sink : κ) (now : Nat) :
    ∃ i', Option.Rel R (e.drain atEnd sink now).2.1.instance? i' ∧
      (e.upon i).drain atEnd sink now =
        ((e.drain atEnd sink now).1, (e.drain atEnd sink now).2.1.upon i', (e.drain atEnd sink now).2.2) := by
  have state : (e.upon i).state = e.state := rfl
  unfold drain
  rw [state]
  split
  · obtain ⟨i₁, next, told⟩ := signalEnd_upon alike (e := { e with state := .draining }) h sink now
    unfold upon at told ⊢
    dsimp only at told ⊢
    rw [told]
    rcases signalled : ({ e with state := .draining } : Encoder σ).signalEnd sink now with ⟨r, e', sink'⟩
    rw [signalled] at next
    cases r with
    | error failure => exact ⟨i₁, next, rfl⟩
    | ok u => exact collect_upon alike next true sink'
  · exact collect_upon alike h false sink
  · exact collect_upon alike h true sink
  · exact ⟨i, h, rfl⟩

/-- A drain comes to the same with an instance that has the one of the session inside and answers alike. -/
theorem drain_upon_map {f : σ → σ'} {g : σ' → σ} (inside : ∀ s, g (f s) = s)
    (alike : Coder.Alike fun (s : σ) (t : σ') => g t = s) (e : Encoder σ) (atEnd : Bool) (sink : κ) (now : Nat) :
    let r := (e.upon (e.instance?.map f)).drain atEnd sink now
    e.drain atEnd sink now = (r.1, r.2.1.upon (r.2.1.instance?.map g), r.2.2) := by
  intro r
  have held := Coder.rel_map (f := f) (R := fun s t => g t = s) inside e.instance?
  obtain ⟨i, next, same⟩ := drain_upon alike held atEnd sink now
  have instance_eq : i.map g = (e.drain atEnd sink now).2.1.instance? := by
    generalize (e.drain atEnd sink now).2.1.instance? = i' at next
    cases next with
    | none => rfl
    | some h => exact congrArg some h
  rw [show r = _ from same]
  unfold upon
  dsimp only
  rw [instance_eq]

end Encoder

end Camcorder
