import Mathlib
import Camcorder.Proofs.Encoding.Backlog

/-!
# The requests of a session

What a session with an orderly instance makes of a submission (`Encoder.submit_running`,
`Encoder.submit_draining`) and of a drain (`Encoder.drain_cases`).
-/

namespace Camcorder

theorem Bytes.overwrite_of_size_eq {b front : Bytes} (h : front.size = b.size) : Bytes.overwrite b front = front := by
  unfold overwrite
  rw [h, min_self, ← h, Array.extract_size, h, Array.extract_empty_of_stop_le_start (le_refl _), Array.append_empty]

theorem Bytes.size_overwrite (b front : Bytes) : (Bytes.overwrite b front).size = b.size := by
  simp only [overwrite, Array.size_append, Array.size_extract]
  omega

/-- An encoder expects pictures of the length that a frame in 4:2:0 has. -/
theorem StreamFormat.inputLength?_eq (f : StreamFormat) : f.inputLength? = f.geometry.len420? := by
  unfold inputLength? Geometry.len420? geometry Geometry.pixels
  by_cases fits : f.width * f.height * 3 < wordLimit
  · have area : f.width * f.height < wordLimit := by omega
    simp [word?, fits, area]
  · by_cases area : f.width * f.height < wordLimit <;> simp [word?, fits, area]

namespace Encoder

open Delivery Orderly

variable {σ κ : Type} [Coder σ]

/-- A granted format has the size that was asked for. -/
theorem grant_ok {name : String} {supported : List Layout} {q : StreamRequest} {f : StreamFormat}
    (h : grant name supported q = .ok f) : f.width = q.width ∧ f.height = q.height := by
  unfold grant at h
  split at h
  · cases h
  · split at h
    · cases h
    · split at h
      · cases h
      · split at h
        · cases h
        · cases h
          exact ⟨rfl, rfl⟩

omit [Coder σ] in
/-- A session that is configured has the format that was granted, which is of the size that was asked for. -/
theorem configure_ok {β : Type} [Backend β σ] {b : β} {r : StreamRequest} {j j' : Journal} {f : StreamFormat}
    {e : Encoder σ} (h : ({} : Encoder σ).configure b r j = (.ok f, e, j')) :
    e = { state := .configured, format := some f } ∧ f.width = r.width ∧ f.height = r.height := by
  unfold configure at h
  rw [if_pos rfl] at h
  dsimp only at h
  split at h
  · rename_i granted
    cases h
    exact ⟨rfl, grant_ok granted⟩
  · cases h

/-- What a session is once it is configured and opened. -/
theorem opened {β : Type} [Backend β σ] {b b' : β} {r : StreamRequest} {j j' : Journal} {f : StreamFormat}
    {e e' : Encoder σ} (configured : ({} : Encoder σ).configure b r j = (.ok f, e, j'))
    (launched : e.launch b = (.ok (), e', b')) :
    ∃ c c', Backend.create b f = (.ok c, b') ∧ Coder.start c = (.ok (), c') ∧
      e' = { state := .running, format := some f, instance? := some c' } := by
  obtain ⟨rfl, _⟩ := configure_ok configured
  unfold launch at launched
  rw [if_pos rfl] at launched
  dsimp only at launched
  rcases created : Backend.create b f with ⟨_ | c, b₁⟩
  · rw [created] at launched
    cases launched
  · rw [created] at launched
    dsimp only at launched
    rcases started : Coder.start c with ⟨_ | _, c'⟩
    · rw [started] at launched
      cases launched
    · rw [started] at launched
      cases launched
      exact ⟨c, c', rfl, started, rfl⟩

/-- A session that is running hands its instance a picture of the right length, and turns any other away. -/
theorem submit_running {e : Encoder σ} {c : σ} {f : StreamFormat} {len : Nat} (state : e.state = .running)
    (held : e.instance? = some c) (format : e.format = some f) (length : f.inputLength? = some len)
    (picture : Bytes) (pts : Nat) :
    (picture.size = len ∧ ∃ n, e.submit picture pts =
      ((feed c picture pts).1, { e with instance? := some (feed c picture pts).2, framesQueued := n })) ∨
    (picture.size ≠ len ∧
      e.submit picture pts = (Attempt.refuse (.encoding (.wrongLength picture.size len)), e)) := by
  have expected : (e.format.map StreamFormat.inputLength?).getD (some 0) = some len := by
    rw [format]
    exact length
  unfold submit
  rw [if_pos state, expected]
  dsimp only [Attempt.ofOption]
  by_cases fits : picture.size = len
  · left
    refine ⟨fits, ?_⟩
    rw [if_neg (not_not.mpr fits), held]
    dsimp only
    rcases feed c picture pts with ⟨(failure | _ | _), c'⟩ <;> exact ⟨_, rfl⟩
  · right
    rw [if_pos fits]
    exact ⟨fits, rfl⟩

/-- A draining encoder takes no pictures. -/
theorem submit_draining {e : Encoder σ} (state : e.state = .draining) (picture : Bytes) (pts : Nat) :
    e.submit picture pts = (Attempt.refuse (.invalidState (.wrongState "submit_frame" "draining")), e) := by
  unfold submit
  rw [if_neg (by rw [state]; nofun), misplaced, state]
  rfl

omit [Coder σ] in
/-- A time stamp is not later than the clock, or than the last one. -/
theorem stamp_le (e : Encoder σ) (now : Nat) : (e.stamp now).1 ≤ max e.lastPts now := by
  unfold stamp
  dsimp only
  split
  · exact le_refl _
  · exact le_max_left _ _

theorem submit_lastPts (e : Encoder σ) (picture : Bytes) (pts : Nat) : (e.submit picture pts).2.lastPts = e.lastPts := by
  unfold submit
  split
  · split
    · rfl
    · split
      · rfl
      · split
        · rfl
        · split <;> rfl
  · rfl

/-- A submission neither allocates an instance nor destroys one. -/
theorem submit_isAllocated (e : Encoder σ) (picture : Bytes) (pts : Nat) :
    (e.submit picture pts).2.isAllocated = e.isAllocated := by
  unfold submit
  split
  · split
    · rfl
    · split
      · rfl
      · cases held : e.instance? with
        | none => rfl
        | some coder =>
          have allocated : e.isAllocated = true := congrArg Option.isSome held
          dsimp only
          split <;> exact allocated.symm
  · rfl

variable [Sink κ]

/-- Only a drain that ends the stream looks at the clock. -/
theorem drain_lastPts (e : Encoder σ) (sink : κ) (now : Nat) : (e.drain false sink now).2.1.lastPts = e.lastPts := by
  have collected : (e.collect false sink).2.1.lastPts = e.lastPts := by
    unfold collect
    split <;> rfl
  unfold drain
  split
  · contradiction
  · exact collected
  · contradiction
  · rfl

theorem signalEnd_isAllocated (e : Encoder σ) (sink : κ) (now : Nat) :
    (e.signalEnd sink now).2.1.isAllocated = e.isAllocated := by
  unfold signalEnd
  dsimp only
  cases held : (e.stamp now).2.instance? with
  | none => rfl
  | some coder =>
    have allocated : e.isAllocated = true := congrArg Option.isSome held
    dsimp only
    split <;> exact allocated.symm

theorem collect_isAllocated (e : Encoder σ) (atEnd : Bool) (sink : κ) :
    (e.collect atEnd sink).2.1.isAllocated = e.isAllocated := by
  unfold collect
  cases held : e.instance? with
  | none => rfl
  | some coder =>
    have allocated : e.isAllocated = true := congrArg Option.isSome held
    exact allocated.symm

/-- A drain neither allocates an instance nor destroys one. -/
theorem drain_isAllocated (e : Encoder σ) (atEnd : Bool) (sink : κ) (now : Nat) :
    (e.drain atEnd sink now).2.1.isAllocated = e.isAllocated := by
  unfold drain
  split
  · have told : (({ e with state := .draining } : Encoder σ).signalEnd sink now).2.1.isAllocated = e.isAllocated :=
      signalEnd_isAllocated { e with state := .draining } sink now
    rcases signalled : ({ e with state := .draining } : Encoder σ).signalEnd sink now with ⟨r, e', sink'⟩
    rw [signalled] at told
    cases r with
    | error failure => exact told
    | ok u => exact (collect_isAllocated e' true sink').trans told
  · exact collect_isAllocated e false sink
  · exact collect_isAllocated e true sink
  · rfl

omit [Sink κ] in
/-- Giving a session up does to the backend what closing it does. -/
theorem discard_eq_close {β : Type} [Backend β σ] (e : Encoder σ) (backend : β) (j : Journal) :
    (e.discard backend j).1 = (e.close backend).2.2 := by
  unfold discard
  split
  · rename_i closed
    rw [closed]
  · rename_i closed
    rw [closed]

variable [Orderly σ]

/-- What taking a haul makes of an instance and a sink. -/
structure Hauled (t : Haul) (c : σ) (o : Observed κ) (c' : σ) (o' : Observed κ) : Prop where
  sound : Sound c'
  backlog : backlog c' = t.left
  core : core c' = core c
  heard : o'.heard = o.heard ++ t.given
  takes : Sink.Takes o.sink t.given o'.sink

/-- A drain of a sound instance takes the haul of its backlog, unless the sink breaks down over it. -/
theorem collect_cases {e : Encoder σ} {c : σ} (held : e.instance? = some c) (sound : Sound c) (atEnd : Bool)
    (o : Observed κ) :
    let t := haul e.formatDelivered (backlog c)
    (∃ f, (e.collect atEnd o).1 = .error (.fault f) ∧ Sink.Breaks o.sink t.given) ∨
    ∃ tally c' o', Hauled t c o c' o' ∧
      e.collect atEnd o = (.ok tally, { e with instance? := some c', formatDelivered := t.delivered }, o') := by
  intro t
  unfold collect
  rw [held]
  dsimp only
  rcases Pass.run_cases { source := c, sink := o, delivered := e.formatDelivered } atEnd sound with
    ⟨f, fault, breaks⟩ | took
  · exact .inl ⟨f, by rw [fault]; rfl, breaks⟩
  · refine .inr ⟨(Pass.run { source := c, sink := o, delivered := e.formatDelivered } atEnd).2.tally, _, _,
      ⟨took.sound, took.backlog, took.core, took.heard, took.takes⟩, ?_⟩
    rw [took.answer, took.delivered]
    rfl

/-- An instance before and after it may have been told that the stream ends. -/
inductive Told (c : σ) : σ → Prop where
  | not : Told c c
  | swallowed {c' : σ} (sound : Sound c') (backlog : backlog c' = backlog c) : Told c c'
  | echoed {c' : σ} (pts : Nat) (sound : Sound c') (backlog : backlog c' = Orderly.backlog c ++ [mark pts]) : Told c c'

/-- The end is announced to the instance, and at most noted to the sink. -/
theorem signalEnd_cases {e : Encoder σ} {c : σ} (held : e.instance? = some c) (sound : Sound c) (o : Observed κ)
    (now : Nat) :
    ∃ c' o' pts, Told c c' ∧ o'.heard = o.heard ∧ (o'.sink = o.sink ∨ ∃ n, o'.sink = Sink.note o.sink n) ∧
      e.signalEnd o now = (.ok (), { e with instance? := some c', lastPts := pts }, o') := by
  have held' : (e.stamp now).2.instance? = some c := held
  unfold signalEnd
  dsimp only
  rw [held']
  dsimp only
  rcases hc : Coder.claim c inputWait with ⟨slot, c'⟩
  cases slot with
  | none =>
    have same : c' = c := claim_none _ hc
    subst same
    exact ⟨c', Sink.note o .noSlotForEnd, _, .not, rfl, .inr ⟨_, rfl⟩, rfl⟩
  | some slot =>
    rcases queue_end inputWait (e.stamp now).1 sound hc with ⟨c'', queued, sound', swallowed | echoed⟩
    · refine ⟨c'', o, (e.stamp now).1, .swallowed sound' swallowed, rfl, .inl rfl, ?_⟩
      dsimp only
      rw [queued]
      rfl
    · refine ⟨c'', o, (e.stamp now).1, .echoed _ sound' echoed, rfl, .inl rfl, ?_⟩
      dsimp only
      rw [queued]
      rfl

/-- What a drain comes to that takes its haul from the instance `c`. -/
structure Drained (e : Encoder σ) (atEnd : Bool) (c : σ) (o : Observed κ)
    (r : Attempt Tally × Encoder σ × Observed κ) (c' : σ) : Prop where
  answer : ∃ tally, r.1 = .ok tally
  state : r.2.1.state = if atEnd then .draining else e.state
  format : r.2.1.format = e.format
  held : r.2.1.instance? = some c'
  delivered : r.2.1.formatDelivered = (haul e.formatDelivered (backlog c)).delivered
  hauled : Hauled (haul e.formatDelivered (backlog c)) c o c' r.2.2

/-- A drain tells the instance, if it is the first one at the end, that the stream ends, and takes a haul unless the
sink breaks down over it. Only a session that is draining refuses a drain, one that is not at the end. -/
theorem drain_cases {e : Encoder σ} {c : σ} (state : e.state = .running ∨ e.state = .draining)
    (held : e.instance? = some c) (sound : Sound c) (atEnd : Bool) (o : Observed κ) (now : Nat) :
    (e.state = .draining ∧ atEnd = false ∧ e.drain atEnd o now = (e.misplaced "drain", e, o)) ∨
    ∃ c₁, Told c c₁ ∧ (atEnd = false ∨ e.state = .draining → c₁ = c) ∧
      ((∃ f, (e.drain atEnd o now).1 = .error (.fault f) ∧
          Sink.Breaks o.sink (haul e.formatDelivered (backlog c₁)).given) ∨
        ∃ c', Drained e atEnd c₁ o (e.drain atEnd o now) c') := by
  -- What a drain comes to once the instance was told, or need not be.
  have collected (e' : Encoder σ) (state' : e'.state = if atEnd then .draining else e.state)
      (format : e'.format = e.format) (delivered : e'.formatDelivered = e.formatDelivered) (c₁ : σ)
      (held' : e'.instance? = some c₁) (sound' : Sound c₁) (o' : Observed κ) (heard : o'.heard = o.heard)
      (same : o'.sink = o.sink ∨ ∃ n, o'.sink = Sink.note o.sink n)
      (h : e.drain atEnd o now = e'.collect atEnd o') :
      (∃ f, (e.drain atEnd o now).1 = .error (.fault f) ∧
          Sink.Breaks o.sink (haul e.formatDelivered (backlog c₁)).given) ∨
        ∃ c', Drained e atEnd c₁ o (e.drain atEnd o now) c' := by
    rw [h, ← delivered]
    rcases collect_cases held' sound' atEnd o' with ⟨f, fault, breaks⟩ | ⟨tally, c', o'', hauled, eq⟩
    · refine .inl ⟨f, fault, ?_⟩
      rcases same with same | ⟨n, same⟩
      · rwa [same] at breaks
      · rw [same] at breaks
        exact .note n breaks
    · refine .inr ⟨c', ⟨tally, by rw [eq]⟩, by rw [eq]; exact state', by rw [eq]; exact format, by rw [eq],
        by rw [eq, delivered], ?_⟩
      rw [eq, ← delivered]
      refine ⟨hauled.sound, hauled.backlog, hauled.core, by rw [hauled.heard, heard], ?_⟩
      have takes := hauled.takes
      rcases same with same | ⟨n, same⟩
      · rwa [same] at takes
      · rw [same] at takes
        exact .note n takes
  rcases state with state | state
  · right
    cases atEnd with
    | false =>
      refine ⟨c, .not, fun _ => rfl, collected e rfl rfl rfl c held sound o rfl (.inl rfl) ?_⟩
      simp only [drain, state]
    | true =>
      -- The first drain at the end tells the instance before it takes anything.
      have held' : ({ e with state := .draining } : Encoder σ).instance? = some c := held
      rcases signalEnd_cases held' sound o now with ⟨c₁, o', pts, told, heard, same, eq⟩
      have sound' : Sound c₁ := by
        cases told with
        | not => exact sound
        | swallowed sound' _ => exact sound'
        | echoed _ sound' _ => exact sound'
      refine ⟨c₁, told, fun h => absurd h (by simp [state]), ?_⟩
      refine collected { e with state := .draining, instance? := some c₁, lastPts := pts } rfl rfl rfl c₁ rfl sound' o'
        heard same ?_
      simp only [drain, state, eq]
  · cases atEnd with
    | false =>
      left
      refine ⟨state, rfl, ?_⟩
      simp only [drain, state]
    | true =>
      right
      refine ⟨c, .not, fun _ => rfl, collected e state rfl rfl c held sound o rfl (.inl rfl) ?_⟩
      simp only [drain, state]

end Encoder

end Camcorder
