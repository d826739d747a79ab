import Mathlib
import Camcorder.Encoding.Session

/-!
# What a sink is given

A `Delivery` is one thing that a session hands to its sink: the parameters of the stream, or a sample. What a drain
comes to hangs on the answers of the sink alone (`Encoder.drain_onto`). An `Observed` sink is a sink that writes down
its deliveries and is otherwise as before, so a drain into it does what a drain into the plain sink does
(`Encoder.drain_observed`).
-/

namespace Camcorder

/-- Something that a sink is given. -/
inductive Delivery where
  | format (parameters : CodecParameters)
  | sample (sample : Sample)
deriving DecidableEq, Repr

namespace Delivery

/-- The sample, if it is one. -/
def sample? : Delivery → Option Sample
  | .format _ => none
  | .sample s => some s

/-- The samples among deliveries, in their order. -/
def samples (l : List Delivery) : List Sample := l.filterMap sample?

end Delivery

/-- A sink, and what it was given so far. -/
structure Observed (κ : Type) where
  sink : κ
  heard : List Delivery := []

instance {κ : Type} [Sink κ] : Sink (Observed κ) where
  register o q :=
    let (r, sink) := Sink.register o.sink q
    (r, { sink, heard := o.heard ++ [.format q] })
  accept o s :=
    let (r, sink) := Sink.accept o.sink s
    (r, { sink, heard := o.heard ++ [.sample s] })
  note o n := { o with sink := Sink.note o.sink n }

/-- A sink that may refuse whatever it is given, at any time, but always answers. -/
class Answering (κ : Type) [Sink κ] : Prop where
  register_ne : ∀ (k : κ) (q : CodecParameters) (f : Fault), (Sink.register k q).1 ≠ .error (.fault f)
  accept_ne : ∀ (k : κ) (s : Sample) (f : Fault), (Sink.accept k s).1 ≠ .error (.fault f)

/-- A sink that refuses and takes in turn, beginning with a refusal. -/
structure Moody where
  willing : Bool := false
deriving DecidableEq, Repr

namespace Moody

def answer (m : Moody) : Attempt Unit := if m.willing then .ok () else Attempt.refuse .muxerNotReady

instance : Sink Moody where
  register m _ := (m.answer, { willing := !m.willing })
  accept m _ := (m.answer, { willing := !m.willing })
  note m _ := m

theorem answer_ne (m : Moody) (f : Fault) : m.answer ≠ .error (.fault f) := by
  unfold answer
  split <;> nofun

instance : Answering Moody where
  register_ne m _ f := m.answer_ne f
  accept_ne m _ f := m.answer_ne f

end Moody

/-! ## Sinks that answer alike -/

/-- Sinks in this relation give the same answer to whatever both are given, and stay in it. -/
structure Sink.Alike {κ κ' : Type} [Sink κ] [Sink κ'] (R : κ → κ' → Prop) : Prop where
  register {k : κ} {k' : κ'} (h : R k k') (q : CodecParameters) :
    (Sink.register k' q).1 = (Sink.register k q).1 ∧ R (Sink.register k q).2 (Sink.register k' q).2
  accept {k : κ} {k' : κ'} (h : R k k') (s : Sample) :
    (Sink.accept k' s).1 = (Sink.accept k s).1 ∧ R (Sink.accept k s).2 (Sink.accept k' s).2
  note {k : κ} {k' : κ'} (h : R k k') (n : Notice) : R (Sink.note k n) (Sink.note k' n)

namespace Pass

variable {σ κ κ' : Type}

/-- The pass with another sink. -/
def onto (p : Pass σ κ) (sink : κ') : Pass σ κ' :=
  { source := p.source, sink, delivered := p.delivered, tally := p.tally, emptyPolls := p.emptyPolls }

namespace Turn

/-- The pass at the end of the turn. -/
def pass : Turn σ κ → Pass σ κ
  | .again p => p
  | .done _ p => p

/-- The turn, ending with another sink. -/
def onto (t : Turn σ κ) (sink : κ') : Turn σ κ' :=
  match t with
  | .again p => .again (p.onto sink)
  | .done r p => .done r (p.onto sink)

end Turn

variable [Sink κ] [Sink κ'] {R : κ → κ' → Prop} {k' : κ'}

theorem offer_onto (alike : Sink.Alike R) {p : Pass σ κ} (h : R p.sink k') (s : Sample) :
    ∃ k, R (p.offer s).2.sink k ∧ (p.onto k').offer s = ((p.offer s).1, (p.offer s).2.onto k) := by
  obtain ⟨answer, next⟩ := alike.accept h s
  rcases accepted : Sink.accept p.sink s with ⟨r, k⟩
  rcases accepted' : Sink.accept k' s with ⟨r', k''⟩
  rw [accepted, accepted'] at answer next
  cases answer
  simp only [offer, accepted, accepted', onto]
  rcases r with (e | f) | u
  · cases e with
    | muxerNotReady => exact ⟨_, next, rfl⟩
    | _ => exact ⟨_, alike.note next _, rfl⟩
  · exact ⟨_, next, rfl⟩
  · exact ⟨_, next, rfl⟩

variable [Coder σ]

theorem deliver_onto (alike : Sink.Alike R) {p : Pass σ κ} (h : R p.sink k') (slot : Nat) (info : SampleInfo) :
    ∃ k, R (p.deliver slot info).2.sink k ∧
      (p.onto k').deliver slot info = ((p.deliver slot info).1, (p.deliver slot info).2.onto k) := by
  have source : (p.onto k').source = p.source := rfl
  unfold deliver
  split
  · exact ⟨k', h, rfl⟩
  · rw [source]
    cases Coder.slot? p.source slot with
    | none => exact ⟨_, alike.note h _, rfl⟩
    | some data => exact offer_onto alike h { data, info }

theorem takeSample_onto (alike : Sink.Alike R) {p : Pass σ κ} (h : R p.sink k') (slot : Nat) (info : SampleInfo) :
    ∃ k, R (p.takeSample slot info).pass.sink k ∧
      (p.onto k').takeSample slot info = (p.takeSample slot info).onto k := by
  obtain ⟨k, next, came⟩ := deliver_onto alike h slot info
  rcases delivered : p.deliver slot info with ⟨r, p'⟩
  rw [delivered] at next came
  simp only [takeSample, delivered, came]
  cases r with
  | error e => exact ⟨k, next, rfl⟩
  | ok u =>
    dsimp only
    split
    · exact ⟨k, next, rfl⟩
    · exact ⟨k, next, rfl⟩

theorem takeFormat_onto (alike : Sink.Alike R) {p : Pass σ κ} (h : R p.sink k') :
    ∃ k, R p.takeFormat.pass.sink k ∧ (p.onto k').takeFormat = p.takeFormat.onto k := by
  have source : (p.onto k').source = p.source := rfl
  have delivered : (p.onto k').delivered = p.delivered := rfl
  unfold takeFormat
  rw [source, delivered]
  cases p.delivered with
  | true => exact ⟨_, alike.note h _, rfl⟩
  | false =>
    cases Coder.parameters? p.source with
    | none => exact ⟨k', h, rfl⟩
    | some q =>
      obtain ⟨answer, next⟩ := alike.register h q
      rcases registered : Sink.register p.sink q with ⟨r, k⟩
      rcases registered' : Sink.register k' q with ⟨r', k''⟩
      rw [registered, registered'] at answer next
      cases answer
      simp only [onto, registered, registered']
      rcases r with (e | f) | u
      · exact ⟨_, alike.note next _, rfl⟩
      · exact ⟨_, next, rfl⟩
      · exact ⟨_, next, rfl⟩

omit [Coder σ] in
theorem takeNothing_onto (alike : Sink.Alike R) {p : Pass σ κ} (h : R p.sink k') (atEnd : Bool) :
    ∃ k, R (p.takeNothing atEnd).pass.sink k ∧ (p.onto k').takeNothing atEnd = (p.takeNothing atEnd).onto k := by
  unfold takeNothing
  cases atEnd with
  | true =>
    have polls : (p.onto k').emptyPolls = p.emptyPolls := rfl
    dsimp only [if_true]
    rw [polls]
    by_cases last : maxEmptyPolls ≤ p.emptyPolls + 1
    · rw [if_pos last, if_pos last]
      exact ⟨_, alike.note h _, rfl⟩
    · rw [if_neg last, if_neg last]
      exact ⟨k', h, rfl⟩
  | false => exact ⟨k', h, rfl⟩

theorem turn_onto (alike : Sink.Alike R) {p : Pass σ κ} (h : R p.sink k') (atEnd : Bool) :
    ∃ k, R (p.turn atEnd).pass.sink k ∧ (p.onto k').turn atEnd = (p.turn atEnd).onto k := by
  have source : (p.onto k').source = p.source := rfl
  unfold turn
  rw [source]
  rcases Coder.poll p.source (if atEnd then endWait else 0) with ⟨output, source⟩
  cases output with
  | nothing => exact takeNothing_onto alike (p := { p with source }) h atEnd
  | format => exact takeFormat_onto alike (p := { p with source, emptyPolls := 0 }) h
  | sample slot info => exact takeSample_onto alike (p := { p with source, emptyPolls := 0 }) h slot info

/-- A pass comes to the same with a sink that answers alike. -/
theorem run_onto (alike : Sink.Alike R) {p : Pass σ κ} (h : R p.sink k') (atEnd : Bool) :
    ∃ k, R (p.run atEnd).2.sink k ∧ (p.onto k').run atEnd = ((p.run atEnd).1, (p.run atEnd).2.onto k) := by
  -- By induction on the turns, each of which comes to the same.
  fun_induction run p atEnd generalizing k' with
  | case1 p r p' done =>
    obtain ⟨k, next, turned⟩ := turn_onto alike h atEnd
    rw [done] at next turned
    exact ⟨k, next, run_of_done turned⟩
  | case2 p p' again ih =>
    obtain ⟨k, next, turned⟩ := turn_onto alike h atEnd
    rw [again] at next turned
    obtain ⟨k'', last, came⟩ := ih next
    exact ⟨k'', last, (run_of_again turned).trans came⟩

end Pass

namespace Encoder

variable {σ κ κ' : Type} [Coder σ] [Sink κ] [Sink κ'] {R : κ → κ' → Prop} {k : κ} {k' : κ'}

theorem signalEnd_onto (alike : Sink.Alike R) (h : R k k') (e : Encoder σ) (now : Nat) :
    ∃ k'', R (e.signalEnd k now).2.2 k'' ∧
      e.signalEnd k' now = ((e.signalEnd k now).1, (e.signalEnd k now).2.1, k'') := by
  unfold signalEnd
  dsimp only
  -- The end of the stream is queued without the sink, which at most hears a notice.
  cases (e.stamp now).2.instance? with
  | none => exact ⟨k', h, rfl⟩
  | some coder =>
    dsimp only
    rcases Coder.claim coder inputWait with ⟨_ | slot, coder'⟩
    · exact ⟨_, alike.note h _, rfl⟩
    · exact ⟨k', h, rfl⟩

theorem collect_onto (alike : Sink.Alike R) (h : R k k') (e : Encoder σ) (atEnd : Bool) :
    ∃ k'', R (e.collect atEnd k).2.2 k'' ∧
      e.collect atEnd k' = ((e.collect atEnd k).1, (e.collect atEnd k).2.1, k'') := by
  unfold collect
  cases e.instance? with
  | none => exact ⟨k', h, rfl⟩
  | some coder =>
    obtain ⟨k'', next, came⟩ := Pass.run_onto alike
      (p := { source := coder, sink := k, delivered := e.formatDelivered }) h atEnd
    simp only [Pass.onto] at came
    simp only [came]
    exact ⟨k'', next, rfl⟩

/-- A drain comes to the same with a sink that answers alike. -/
theorem drain_onto (alike : Sink.Alike R) (h : R k k') (e : Encoder σ) (atEnd : Bool) (now : Nat) :
    ∃ k'', R (e.drain atEnd k now).2.2 k'' ∧
      e.drain atEnd k' now = ((e.drain atEnd k now).1, (e.drain atEnd k now).2.1, k'') := by
  unfold drain
  split
  · obtain ⟨k₁, next, came⟩ := signalEnd_onto alike h { e with state := .draining } now
    rcases signalled : ({ e with state := .draining } : Encoder σ).signalEnd k now with ⟨r, e', k₀⟩
    rw [signalled] at next came
    rw [came]
    cases r with
    | error failure => exact ⟨k₁, next, rfl⟩
    | ok u => exact collect_onto alike next e' true
  · exact collect_onto alike h e false
  · exact collect_onto alike h e true
  · exact ⟨k', h, rfl⟩

/-! ## Observing a drain -/

/-- What a sink that was given `heard` before was given in all after a drain. -/
def heardAfter (e : Encoder σ) (atEnd : Bool) (sink : κ) (heard : List Delivery) (now : Nat) : List Delivery :=
  (e.drain atEnd ({ sink, heard } : Observed κ) now).2.2.heard

/-- An observed sink answers as the plain one does. -/
theorem alike_observed : Sink.Alike fun (o : Observed κ) (k : κ) => k = o.sink where
  register := by
    rintro o k rfl q
    exact ⟨rfl, rfl⟩
  accept := by
    rintro o k rfl s
    exact ⟨rfl, rfl⟩
  note := by
    rintro o k rfl n
    rfl

/-- Observing sinks that answer alike, one hears the same. -/
theorem alike_observed_of (alike : Sink.Alike R) :
    Sink.Alike fun (o : Observed κ) (o' : Observed κ') => R o.sink o'.sink ∧ o'.heard = o.heard where
  register := by
    rintro o o' ⟨h, heard⟩ q
    obtain ⟨answer, next⟩ := alike.register h q
    exact ⟨answer, next, congrArg (· ++ [Delivery.format q]) heard⟩
  accept := by
    rintro o o' ⟨h, heard⟩ s
    obtain ⟨answer, next⟩ := alike.accept h s
    exact ⟨answer, next, congrArg (· ++ [Delivery.sample s]) heard⟩
  note := by
    rintro o o' ⟨h, heard⟩ n
    exact ⟨alike.note h n, heard⟩

/-- A drain into an observed sink does what a drain into the plain one does. -/
theorem drain_observed (e : Encoder σ) (atEnd : Bool) (o : Observed κ) (now : Nat) :
    e.drain atEnd o.sink now =
      ((e.drain atEnd o now).1, (e.drain atEnd o now).2.1, (e.drain atEnd o now).2.2.sink) := by
  obtain ⟨k, same, drained⟩ := drain_onto (alike_observed (κ := κ)) (k := o) rfl e atEnd now
  rw [drained, same]

end Encoder

end Camcorder
