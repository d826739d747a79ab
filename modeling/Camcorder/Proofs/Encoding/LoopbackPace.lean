import Mathlib
import Camcorder.Proofs.Encoding.LoopbackRuns

/-!
# Keeping pace

A session with a loopback instance that is drained after every picture. A drain ends where the format is announced
again, so samples lag behind, but never more than one: `Pace` is the invariant, `Pace.exchange` one picture and the
drain after it, and `Pace.drain_end` the drain that ends the stream.
-/

namespace Camcorder

namespace Delivery

/-- No more than one sample waits, and none before the sink has the parameters. -/
def Lag (delivered : Bool) (l : List Delivery) : Prop := l = [] ∨ delivered = true ∧ ∃ s, l = [.sample s]

/-- No format lags behind. -/
theorem Lag.formats_eq_zero {d : Bool} {l : List Delivery} (h : Lag d l) : formats l = 0 := by
  rcases h with rfl | ⟨_, s, rfl⟩ <;> rfl

/-- A drain takes all that lags behind. -/
theorem Lag.left_eq_nil {d : Bool} {l : List Delivery} (h : Lag d l) (last : EndsLast l) : (haul d l).left = [] := by
  apply Delivery.left_eq_nil last
  rw [h.formats_eq_zero, zero_add]
  exact Bool.toNat_le d

/-- A drain leaves at most the sample that came last. -/
theorem Lag.haul {d : Bool} {l : List Delivery} (h : Lag d l) (goesOn : ∀ x ∈ l, x.endsStream = false)
    {news : List Delivery} (format : news = [] ∨ ∃ q, news = [.format q]) {s : Sample}
    (picture : s.info.flags.endOfStream = false) :
    let t := Delivery.haul d (l ++ (news ++ [.sample s]))
    Lag t.delivered t.left := by
  have last (d : Bool) : Delivery.haul d [.sample s] = { given := ofSample s ++ [], delivered := d } := by
    simp [Delivery.haul, picture, Haul.after]
  -- The sample that lags behind is taken first, and nothing else depends on it.
  have after (m : List Delivery) : (Delivery.haul d (l ++ m)).left = (Delivery.haul d m).left ∧
      (Delivery.haul d (l ++ m)).delivered = (Delivery.haul d m).delivered := by
    rcases h with rfl | ⟨_, x, rfl⟩
    · exact ⟨rfl, rfl⟩
    · have goesOn : x.info.flags.endOfStream = false := goesOn _ (.head _)
      simp [Delivery.haul, goesOn, Haul.after]
  rcases after (news ++ [.sample s]) with ⟨left, delivered⟩
  intro t
  rw [left, delivered]
  rcases format with rfl | ⟨q, rfl⟩
  · rw [List.nil_append, last]
    exact .inl rfl
  · cases d with
    | true => exact .inr ⟨rfl, s, rfl⟩
    | false =>
      have taken : Delivery.haul false ([.format q] ++ [.sample s]) = (Delivery.haul true [.sample s]).after [.format q] :=
        rfl
      rw [taken, last]
      exact .inl rfl

end Delivery

/-- What was given to a sink in a drain is what it was to be given next. -/
theorem Ledger.Keeps.given_isPrefix {σ : Type} [Coder σ] [Orderly σ] {l : Ledger σ} {h : List Submitted}
    {e : Encoder σ} {heard : List Delivery} {c : σ} (k : l.Keeps h e heard c) :
    heard ++ (Delivery.haul e.formatDelivered (Orderly.backlog c)).given <+: l.script h := by
  rw [← k.owed, ← Delivery.given_append_due, ← List.append_assoc]
  exact List.prefix_append _ _

namespace Loopback

open Delivery

/-- A session that keeps its ledger and keeps pace with the pictures. -/
structure Pace (b : Loopback) (f : StreamFormat) (len : Nat) (h : List Submitted) (e : Encoder Instance)
    (heard : List Delivery) (c : Instance) : Prop where
  keeps : (ledger b f len).Keeps h e heard c
  running : e.state = .running
  lag : Lag e.formatDelivered c.backlog

variable {b : Loopback} {f : StreamFormat} {len : Nat} {h : List Submitted} {e : Encoder Instance}
  {heard : List Delivery} {c : Instance}

/-- An encoder that keeps pace is ready for the next picture. -/
theorem Pace.ready (p : Pace b f len h e heard c) : Instance.Ready b f len (queued h).length c := by
  cases p.keeps.stage with
  | running _ ready => exact ready
  | draining state =>
    rw [p.running] at state
    cases state

/-- Nothing that waits ends the stream. -/
theorem Pace.goesOn (p : Pace b f len h e heard c) : ∀ d ∈ c.backlog, d.endsStream = false := by
  cases p.keeps.stage with
  | running _ _ goesOn => exact goesOn
  | draining state =>
    rw [p.running] at state
    cases state

theorem Pace.stamp (p : Pace b f len h e heard c) (now : Nat) : Pace b f len h (e.stamp now).2 heard c := by
  rcases p with ⟨⟨held, format, sound, owed, announced, once, seen, stage⟩, running, lag⟩
  refine ⟨⟨held, format, sound, owed, announced, once, seen, ?_⟩, running, lag⟩
  cases stage with
  | running state ready goesOn => exact .running state ready goesOn
  | draining state endsLast => exact .draining state endsLast

/-- What the instance has to announce, if there is anything, is a sample. -/
theorem Pace.pending (p : Pace b f len h e heard c) : c.pending = [] ∨ ∃ i, c.pending = [.sample i] := by
  have lag := p.lag
  unfold Lag Instance.backlog Shelf.deliveries Instance.shelf at lag
  rcases lag with none | ⟨_, s, one⟩
  · left
    simpa using none
  · right
    rw [List.map_map] at one
    rcases List.map_eq_singleton_iff.mp one with ⟨event, pending, sample⟩
    cases event with
    | format => cases sample
    | sample i => exact ⟨i, pending⟩

/-- Among any two slots there is a free one. -/
theorem Pace.exists_isFree (p : Pace b f len h e heard c) (two : 2 ≤ b.slots) : ∃ i, c.shelf.IsFree i := by
  have places : c.shelf.places.size = b.slots := by
    unfold Instance.shelf
    rw [Array.size_map]
    exact p.ready.size
  apply p.keeps.sound.shelf.exists_isFree
  · rw [places]
    exact two
  · have line : c.shelf.line = c.pending.map Event.place? := rfl
    rw [line]
    rcases p.pending with none | ⟨i, one⟩
    · left
      rw [none]
      rfl
    · right
      rw [one]
      exact ⟨i, rfl⟩

/-- A picture is queued, or dropped for want of a second slot; the next drain leaves at most one sample. -/
theorem Pace.submit (p : Pace b f len h e heard c) {picture : Bytes} (fits : picture.size = len) (pts : Nat) :
    let out := e.submit picture pts
    (out.1 = .ok (.queued pts) ∨ out.1 = .ok .dropped ∧ b.slots < 2) ∧
      ∃ c', (ledger b f len).Keeps (h ++ [{ picture, pts, answer := out.1 }]) out.2 heard c' ∧
        out.2.state = .running ∧ out.2.formatDelivered = e.formatDelivered ∧
        Lag (haul e.formatDelivered c'.backlog).delivered (haul e.formatDelivered c'.backlog).left := by
  intro out
  rcases Ledger.keeps_submit p.keeps picture pts with ⟨c', keeps⟩
  have keeps : (ledger b f len).Keeps (h ++ [{ picture, pts, answer := out.1 }]) out.2 heard c' := keeps
  rcases p.keeps.format with ⟨g, format, length⟩
  rcases Encoder.submit_running p.running p.keeps.held format length picture pts with ⟨_, n, eq⟩ | ⟨unfit, _⟩
  · have eq : out = ((Encoder.feed c picture pts).1,
        { e with instance? := some (Encoder.feed c picture pts).2, framesQueued := n }) := eq
    have same : (Encoder.feed c picture pts).2 = c' := by
      have held := keeps.held
      rw [eq] at held
      exact Option.some.inj held
    have state : out.2.state = .running := by rw [eq]; exact p.running
    have delivered : out.2.formatDelivered = e.formatDelivered := by rw [eq]
    rcases p.ready.feed_cases p.keeps.sound fits pts with ⟨fed, busy⟩ | ⟨s', fed, _, _, backlog⟩
    · -- The picture was dropped: the line is as it was, and a drain takes all of it.
      refine ⟨.inr ⟨by rw [eq, fed], ?_⟩, c', keeps, state, delivered, .inl ?_⟩
      · by_contra many
        rcases p.exists_isFree (by omega) with ⟨i, free⟩
        exact busy i free
      · rw [fed] at same
        rw [← same]
        exact p.lag.left_eq_nil p.keeps.endsLast
    · -- The picture was queued, with or without the format before it.
      refine ⟨.inl (by rw [eq, fed]), c', keeps, state, delivered, ?_⟩
      rw [fed] at same
      rw [← same, backlog]
      apply p.lag.haul p.goesOn
      · split
        · exact .inr ⟨_, rfl⟩
        · exact .inl rfl
      · rfl
  · exact absurd fits unfit

variable {κ : Type} [Sink κ]

/-- A picture and the drain after it. Unless the sink breaks down over what it is to be given next, the session keeps
pace. -/
theorem Pace.exchange (p : Pace b f len h e heard c) {picture : Bytes} (fits : picture.size = len) {pts : Nat}
    {a : Attempt Submission} {e' : Encoder Instance} (submitted : e.submit picture pts = (a, e')) (now : Nat) (k : κ) :
    let h' := h ++ [{ picture, pts, answer := a }]
    let r := e'.drain false ({ sink := k, heard } : Observed κ) now
    (a = .ok (.queued pts) ∨ a = .ok .dropped ∧ b.slots < 2) ∧
      (∀ p ∈ queued h', p.1.size = len) ∧
      ((∃ fault l, r.1 = .error (.fault fault) ∧ Sink.Breaks k l ∧
          heard ++ l <+: script (parameters f) (queued h')) ∨
        ∃ tally l c', r.1 = .ok tally ∧ Sink.Takes k l r.2.2.sink ∧ r.2.2.heard = heard ++ l ∧
          Pace b f len h' r.2.1 r.2.2.heard c') := by
  intro h' r
  rcases p.submit fits pts with ⟨answer, c₁, keeps, running, delivered, lag⟩
  rw [submitted] at answer keeps running delivered
  refine ⟨answer, fun p hp => size_of_mem_queued keeps hp, ?_⟩
  rw [← delivered] at lag
  rcases Encoder.drain_cases (.inl running) keeps.held keeps.sound false ({ sink := k, heard } : Observed κ) now with
    ⟨draining, _, _⟩ | ⟨c₂, told, once, ⟨fault, broken, breaks⟩ | ⟨c', drained⟩⟩
  · rw [running] at draining
    cases draining
  · have same : c₂ = c₁ := once (.inl rfl)
    subst same
    exact .inl ⟨fault, _, broken, breaks, keeps.given_isPrefix⟩
  · have same : c₂ = c₁ := once (.inl rfl)
    subst same
    rcases drained.answer with ⟨tally, answered⟩
    refine .inr ⟨tally, _, c', answered, drained.hauled.takes, drained.hauled.heard,
      keeps.drained told once drained, drained.state.trans running, ?_⟩
    have backlog : c'.backlog = _ := drained.hauled.backlog
    rw [backlog, drained.delivered]
    exact lag

/-- The drain that ends the stream gives the sink all that is left, unless the sink breaks down over it. -/
theorem Pace.drain_end (p : Pace b f len h e heard c) (now : Nat) (k : κ) :
    let r := e.drain true ({ sink := k, heard } : Observed κ) now
    (∃ fault l, r.1 = .error (.fault fault) ∧ Sink.Breaks k l ∧ heard ++ l <+: script (parameters f) (queued h)) ∨
      (∃ tally, r.1 = .ok tally) ∧ r.2.2.heard = script (parameters f) (queued h) := by
  intro r
  rcases Encoder.drain_cases (.inl p.running) p.keeps.held p.keeps.sound true ({ sink := k, heard } : Observed κ) now with
    ⟨_, never, _⟩ | ⟨c₁, told, once, outcome⟩
  · cases never
  · rcases p.keeps.told told with ⟨_, owed, _, formats⟩
    have owed : heard ++ due e.formatDelivered (Orderly.backlog c₁) = script (parameters f) (queued h) := owed
    rw [← given_append_due, ← List.append_assoc] at owed
    rcases outcome with ⟨fault, broken, breaks⟩ | ⟨c', drained⟩
    · refine .inl ⟨fault, _, broken, breaks, ?_⟩
      rw [← owed]
      exact List.prefix_append _ _
    · -- The end of the stream may wait as well, but the format does not, so nothing is left.
      have last : EndsLast (Orderly.backlog c₁) := p.keeps.toldLast told fun state => once (.inr state)
      have none : (haul e.formatDelivered (Orderly.backlog c₁)).left = [] := by
        apply left_eq_nil last
        have before : Delivery.formats (Orderly.backlog c) = 0 := p.lag.formats_eq_zero
        rw [formats, before, zero_add]
        exact Bool.toNat_le _
      rw [none, due, List.append_nil] at owed
      exact .inr ⟨drained.answer, drained.hauled.heard.trans owed⟩

end Loopback

end Camcorder
