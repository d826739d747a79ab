import Mathlib
import Camcorder.Proofs.Encoding.Metering
import Camcorder.Proofs.Encoding.Requests

/-!
# The life of a session

A `Scene` is a session with its backend, the journal and the calls made so far, and `Scene.run` makes more of them:
requests in any order, with any arguments, drains into sinks of any kind. What one call can do is listed once, as
`Scene.Outcome`, and everything that holds of a session at all times is derived from that list: the session moves
forward through its stages, has a format from the call that granted it on, and an instance from the call that opened it
to the one that closes it. `Scene.life` puts this together; there an instance that is stopped counts it, and the backend
keeps books, so that the statement says when instances are made, stopped and destroyed.
-/

namespace Camcorder

/-- The place of a stage in the order in which a session goes through them. -/
def EncoderState.rank : EncoderState → Nat
  | .unconfigured => 0
  | .configured => 1
  | .running => 2
  | .draining => 3
  | .closed => 4

/-- A sink of whatever kind. -/
structure Outlet : Type 1 where
  Kind : Type
  answers : Sink Kind
  sink : Kind

instance (o : Outlet) : Sink o.Kind := o.answers

/-- A request to a session, with all that it is made with. -/
inductive SessionRequest : Type 1 where
  | configure (r : StreamRequest)
  | launch
  | submit (picture : Bytes) (pts : Nat)
  | drain (atEnd : Bool) (o : Outlet) (now : Nat)
  | close

namespace SessionRequest

/-- The name under which a session refuses the request. -/
def name : SessionRequest → String
  | .configure _ => "configure"
  | .launch => "open"
  | .submit .. => "submit_frame"
  | .drain .. => "drain"
  | .close => "close"

/-- Whether the request is one to make in this state. -/
def Fits : SessionRequest → EncoderState → Prop
  | .configure _, state => state = .unconfigured
  | .launch, state => state = .configured
  | .submit .., state => state = .running
  | .drain atEnd .., state => state = .running ∨ (state = .draining ∧ atEnd = true)
  | .close, _ => True

end SessionRequest

/-- What a request returns that is granted. -/
inductive SessionAnswer where
  | format (f : StreamFormat)
  | opened
  | submission (s : Submission)
  | tally (t : Tally)
  | closed
deriving DecidableEq, Repr

/-- A request that was made, and what came of it. -/
structure SessionCall : Type 1 where
  request : SessionRequest
  answer : Attempt SessionAnswer

namespace SessionCall

/-- Whether the call opened the session. -/
def opens (c : SessionCall) : Bool := c.answer matches .ok .opened

/-- Only an opening opens. -/
theorem opens_eq_false {q : SessionRequest} {a : Attempt SessionAnswer} (shut : a ≠ .ok .opened) :
    opens { request := q, answer := a } = false := by
  cases a with
  | error failure => rfl
  | ok answer =>
    cases answer with
    | opened => exact absurd rfl shut
    | _ => rfl

end SessionCall

/-- A session with its surroundings, and the calls made so far. -/
structure Scene (β σ : Type) : Type 1 where
  session : Encoder σ := {}
  backend : β
  journal : Journal := []
  calls : List SessionCall := []

namespace Scene

variable {β σ : Type} [Backend β σ] [Coder σ]

/-- Makes a request. -/
def ask (s : Scene β σ) : SessionRequest → Attempt SessionAnswer × Scene β σ
  | .configure r =>
    let (a, session, journal) := s.session.configure s.backend r s.journal
    (a.map .format, { s with session, journal })
  | .launch =>
    let (a, session, backend) := s.session.launch s.backend
    (a.map fun _ => .opened, { s with session, backend })
  | .submit picture pts =>
    let (a, session) := s.session.submit picture pts
    (a.map .submission, { s with session })
  | .drain atEnd o now =>
    let (a, session, _) := s.session.drain atEnd o.sink now
    (a.map .tally, { s with session })
  | .close =>
    let (a, session, backend) := s.session.close s.backend
    (a.map fun _ => .closed, { s with session, backend })

/-- Writes a call down. -/
def log (s : Scene β σ) (request : SessionRequest) (answer : Attempt SessionAnswer) : Scene β σ :=
  { s with calls := s.calls ++ [{ request, answer }] }

/-- Makes a request and writes the call down. -/
def step (s : Scene β σ) (q : SessionRequest) : Scene β σ :=
  let (answer, next) := s.ask q
  next.log q answer

/-- Makes requests one after another. -/
def run (s : Scene β σ) (qs : List SessionRequest) : Scene β σ := qs.foldl step s

/-- How often the session was opened. -/
def opens (s : Scene β σ) : Nat := s.calls.countP SessionCall.opens

/-- The scene with metered instances, on which the backend keeps books. -/
def watched (s : Scene β σ) (books : Books) : Scene (Registry β) (Metered σ) :=
  { session := s.session.metered, backend := ⟨s.backend, books⟩, journal := s.journal, calls := s.calls }

/-- What is in the books of a session once `spoilt` instances were destroyed that did not start: the instance of a
session that was opened is stopped once, and only when the session is closed. -/
def ledger (s : Scene β σ) (spoilt : Nat) : Books where
  made := s.opens + spoilt
  destroyed := List.replicate (if s.session.state = .closed then s.opens else 0) 1 ++ List.replicate spoilt 0

/-- The refusal of a request that does not fit the state. -/
def misplaced (s : Scene β σ) (q : SessionRequest) : Attempt SessionAnswer :=
  Attempt.refuse (.invalidState (.wrongState q.name s.session.state.name))

/-! ## What a call can do -/

/-- All that can come of a request, to the scene and to the books on its instances. -/
inductive Outcome (s : Scene β σ) (books : Books) :
    SessionRequest → Attempt SessionAnswer → Scene β σ → Books → Prop where
  /-- A request that does not fit the state does nothing. -/
  | misplaced {q : SessionRequest} (unfit : ¬q.Fits s.session.state) : Outcome s books q (s.misplaced q) s books
  | notGranted {r : StreamRequest} (state : s.session.state = .unconfigured) (failure : Failure) (journal : Journal) :
    Outcome s books (.configure r) (.error failure) { s with journal } books
  | granted {r : StreamRequest} {f : StreamFormat} (state : s.session.state = .unconfigured)
    (grant : Encoder.grant (Backend.name s.backend) (Backend.layouts s.backend) r = .ok f) (journal : Journal) :
    Outcome s books (.configure r) (.ok (.format f))
      { s with session := { s.session with state := .configured, format := some f }, journal } books
  | notOpened (state : s.session.state = .configured) (failure : Failure) (backend : β) {books' : Books}
    (entered : Encoder.Entered books (.error failure) books') :
    Outcome s books .launch (.error failure) { s with backend } books'
  | opened (state : s.session.state = .configured) (c : σ) (backend : β) :
    Outcome s books .launch (.ok .opened)
      { s with session := { s.session with state := .running, instance? := some c, lastPts := 0 }, backend }
      { books with made := books.made + 1 }
  /-- A submission or a drain changes neither the format nor whether an instance is held. -/
  | used {q : SessionRequest} {a : Attempt SessionAnswer} {e : Encoder σ} (fits : q.Fits s.session.state)
    (state : s.session.state = .running ∨ s.session.state = .draining)
    (stage : e.state = s.session.state ∨ e.state = .draining) (format : e.format = s.session.format)
    (allocated : e.isAllocated = s.session.isAllocated) (plain : ∀ f, a ≠ .ok (.format f)) (shut : a ≠ .ok .opened) :
    Outcome s books q a { s with session := e } books
  | closed (a : Attempt Unit) (backend : β) :
    Outcome s books .close (a.map fun _ => .closed)
      { s with session := { s.session with state := .closed, instance? := none }, backend }
      (if s.session.isAllocated then { books with destroyed := 1 :: books.destroyed } else books)

end Scene

namespace Encoder

variable {β σ κ : Type} [Backend β σ] [Coder σ] [Sink κ]

omit [Sink κ] in
/-- A submission changes neither the state nor the format. -/
theorem submit_state (e : Encoder σ) (picture : Bytes) (pts : Nat) :
    (e.submit picture pts).2.state = e.state ∧ (e.submit picture pts).2.format = e.format := by
  unfold submit
  split
  · split
    · exact ⟨rfl, rfl⟩
    · split
      · exact ⟨rfl, rfl⟩
      · split
        · exact ⟨rfl, rfl⟩
        · split <;> exact ⟨rfl, rfl⟩
  · exact ⟨rfl, rfl⟩

theorem signalEnd_state (e : Encoder σ) (sink : κ) (now : Nat) :
    (e.signalEnd sink now).2.1.state = e.state ∧ (e.signalEnd sink now).2.1.format = e.format := by
  unfold signalEnd
  dsimp only
  split
  · exact ⟨rfl, rfl⟩
  · split <;> exact ⟨rfl, rfl⟩

/-- Collecting outputs changes neither the state nor the format. -/
theorem collect_state (e : Encoder σ) (atEnd : Bool) (sink : κ) :
    (e.collect atEnd sink).2.1.state = e.state ∧ (e.collect atEnd sink).2.1.format = e.format := by
  unfold collect
  split <;> exact ⟨rfl, rfl⟩

/-- A drain that fits the state leaves a session that runs running, or begins or goes on to end the stream. -/
theorem drain_state (e : Encoder σ) (atEnd : Bool) (sink : κ) (now : Nat)
    (fits : e.state = .running ∨ (e.state = .draining ∧ atEnd = true)) :
    (e.drain atEnd sink now).2.1.state = (if atEnd then .draining else .running) ∧
      (e.drain atEnd sink now).2.1.format = e.format := by
  rcases fits with state | ⟨state, rfl⟩
  · cases atEnd with
    | false =>
      obtain ⟨kept, format⟩ := e.collect_state false sink
      simp only [drain, state]
      exact ⟨kept.trans state, format⟩
    | true =>
      -- The stage is entered before the instance is asked for anything.
      obtain ⟨kept, format⟩ := signalEnd_state { e with state := .draining } sink now
      rcases signalled : ({ e with state := .draining } : Encoder σ).signalEnd sink now with ⟨_ | _, e', sink'⟩
      all_goals
        rw [signalled] at kept format
        simp only [drain, state, signalled]
      · exact ⟨kept, format⟩
      · obtain ⟨kept', format'⟩ := e'.collect_state true sink'
        exact ⟨kept'.trans kept, format'.trans format⟩
  · obtain ⟨kept, format⟩ := e.collect_state true sink
    simp only [drain, state]
    exact ⟨kept.trans state, format⟩

/-- A session that can be opened is opened with an instance, or left as it was. -/
theorem launch_cases (e : Encoder σ) (b : β) (state : e.state = .configured) :
    (∃ failure b', e.launch b = (.error failure, e, b')) ∨
    ∃ c b', e.launch b = (.ok (), { e with instance? := some c, lastPts := 0, state := .running }, b') := by
  unfold launch
  rw [if_pos state]
  cases e.format with
  | none => exact .inl ⟨_, _, rfl⟩
  | some f =>
    dsimp only
    rcases Backend.create b f with ⟨failure | c, b'⟩
    · exact .inl ⟨_, _, rfl⟩
    · dsimp only
      rcases Coder.start c with ⟨failure | u, c'⟩
      · exact .inl ⟨_, _, rfl⟩
      · exact .inr ⟨_, _, rfl⟩

/-- A drain that does not fit the state has no effect, not even on the sink. -/
theorem drain_misplaced (e : Encoder σ) (atEnd : Bool) (sink : κ) (now : Nat)
    (unfit : ¬(e.state = .running ∨ (e.state = .draining ∧ atEnd = true))) :
    e.drain atEnd sink now = (e.misplaced "drain", e, sink) := by
  unfold drain
  split
  · rename_i state
    exact absurd (.inl state) unfit
  · rename_i state
    exact absurd (.inl state) unfit
  · rename_i state
    exact absurd (.inr ⟨state, rfl⟩) unfit
  · rfl

end Encoder

namespace Scene

variable {β σ : Type} [Backend β σ] [Coder σ]

omit [Backend β σ] [Coder σ] in
theorem map_ne_ok {α : Type} {a : Attempt α} {g : α → SessionAnswer} {x : SessionAnswer} (ne : ∀ v, g v ≠ x) :
    a.map g ≠ .ok x := by
  cases a with
  | error failure => nofun
  | ok v => exact fun h => ne v (Except.ok.inj h)

/-- A request comes to one of the outcomes, and to the same if there are books on the instances. -/
theorem outcome (s : Scene β σ) (books : Books) (q : SessionRequest) :
    ∃ books', Outcome s books q (s.ask q).1 (s.ask q).2 books' ∧
      (s.watched books).ask q = ((s.ask q).1, (s.ask q).2.watched books') := by
  cases q with
  | configure r =>
    have same := s.session.configure_metered s.backend books r s.journal
    refine ⟨books, ?_, ?_⟩
    · unfold ask
      dsimp only
      by_cases state : s.session.state = .unconfigured
      · unfold Encoder.configure
        rw [if_pos state]
        dsimp only
        rcases granted : Encoder.grant (Backend.name s.backend) (Backend.layouts s.backend) r with failure | f
        · exact .notGranted state failure _
        · exact .granted state granted _
      · unfold Encoder.configure
        rw [if_neg state]
        exact .misplaced state
    · unfold ask watched
      dsimp only
      rw [same]
  | launch =>
    by_cases state : s.session.state = .configured
    · obtain ⟨books', entered, same⟩ := s.session.launch_metered s.backend books
      refine ⟨books', ?_, ?_⟩
      · unfold ask
        rcases s.session.launch_cases s.backend state with ⟨failure, b', launched⟩ | ⟨c, b', launched⟩
        all_goals
          rw [launched] at entered ⊢
        · exact .notOpened state failure b' entered
        · cases entered
          exact .opened state c b'
      · unfold ask watched
        dsimp only
        rw [same]
    · have plain : s.session.launch s.backend = (s.session.misplaced "open", s.session, s.backend) := if_neg state
      have same : s.session.metered.launch (⟨s.backend, books⟩ : Registry β) =
        (s.session.metered.misplaced "open", s.session.metered, ⟨s.backend, books⟩) := if_neg state
      refine ⟨books, ?_, ?_⟩
      · unfold ask
        rw [plain]
        exact .misplaced state
      · unfold ask watched
        dsimp only
        rw [same, plain]
        rfl
  | submit picture pts =>
    have same := s.session.submit_metered picture pts
    refine ⟨books, ?_, ?_⟩
    · by_cases state : s.session.state = .running
      · obtain ⟨kept, format⟩ := s.session.submit_state picture pts
        exact .used state (.inl state) (.inl kept) format (s.session.submit_isAllocated picture pts)
          (fun _ => map_ne_ok nofun) (map_ne_ok nofun)
      · have plain : s.session.submit picture pts = (s.session.misplaced "submit_frame", s.session) := if_neg state
        unfold ask
        dsimp only
        rw [plain]
        exact .misplaced state
    · unfold ask watched
      dsimp only
      rw [same]
  | drain atEnd o now =>
    have same := s.session.drain_metered atEnd o.sink now
    refine ⟨books, ?_, ?_⟩
    · by_cases fits : s.session.state = .running ∨ (s.session.state = .draining ∧ atEnd = true)
      · obtain ⟨state, format⟩ := s.session.drain_state atEnd o.sink now fits
        have stage : (s.session.drain atEnd o.sink now).2.1.state = s.session.state ∨
            (s.session.drain atEnd o.sink now).2.1.state = .draining := by
          rw [state]
          rcases fits with running | ⟨_, rfl⟩
          · cases atEnd with
            | false => exact .inl running.symm
            | true => exact .inr rfl
          · exact .inr rfl
        exact .used fits (fits.imp_right And.left) stage format (s.session.drain_isAllocated atEnd o.sink now)
          (fun _ => map_ne_ok nofun) (map_ne_ok nofun)
      · unfold ask
        dsimp only
        rw [s.session.drain_misplaced atEnd o.sink now fits]
        exact .misplaced fits
    · unfold ask watched
      dsimp only
      rw [same]
  | close =>
    have same := s.session.close_metered s.backend books
    have closed : (s.session.close s.backend).2.1 = { s.session with state := .closed, instance? := none } := by
      unfold Encoder.close
      cases s.session.instance? <;> rfl
    refine ⟨if s.session.isAllocated then { books with destroyed := 1 :: books.destroyed } else books, ?_, ?_⟩
    · unfold ask
      dsimp only
      rw [closed]
      exact .closed _ _
    · unfold ask watched
      dsimp only
      rw [same]

/-! ## What holds at all times -/

/-- What a session is granted by a backend with these layouts. -/
structure Granted (supported : List Layout) (r : StreamRequest) (f : StreamFormat) : Prop where
  width : f.width = r.width ∧ f.width ≠ 0 ∧ f.width % 2 = 0
  height : f.height = r.height ∧ f.height ≠ 0 ∧ f.height % 2 = 0
  listed : f.layout ∈ supported
  asked : ∀ l, r.layout = some l → f.layout = l

omit [Backend β σ] [Coder σ] in
/-- A format is granted in a layout that is supported, and as it was asked for. -/
theorem granted_of_grant {name : String} {supported : List Layout} {r : StreamRequest} {f : StreamFormat}
    (h : Encoder.grant name supported r = .ok f) : Granted supported r f := by
  unfold Encoder.grant at h
  split at h
  · cases h
  · rename_i nonzero
    split at h
    · cases h
    · rename_i even
      split at h
      · cases h
      · split at h
        · cases h
        · rename_i layout chosen
          cases h
          rw [not_or] at nonzero even
          refine ⟨⟨rfl, nonzero.1, of_not_not even.1⟩, ⟨rfl, nonzero.2, of_not_not even.2⟩, ?_, ?_⟩
          · unfold Encoder.chooseLayout at chosen
            split at chosen
            · split at chosen
              · cases chosen
                assumption
              · cases chosen
            · have found := List.find?_some chosen
              exact of_decide_eq_true found
          · intro l asked
            unfold Encoder.chooseLayout at chosen
            rw [asked] at chosen
            dsimp only at chosen
            split at chosen
            · exact (Option.some.inj chosen).symm
            · cases chosen

/-- What holds of a session whose backend was `b` at first, after any calls. -/
structure Sound (b : β) (s : Scene β σ) : Prop where
  allocated_iff : s.session.isAllocated = true ↔ s.session.state = .running ∨ s.session.state = .draining
  format_iff : ∀ f, s.session.format = some f ↔ ∃ r, { request := .configure r, answer := .ok (.format f) } ∈ s.calls
  granted : ∀ r f, { request := .configure r, answer := .ok (.format f) } ∈ s.calls →
    Granted (Backend.layouts b) r f
  pristine : s.session.state = .unconfigured → s.backend = b ∧ s.session.format = none
  furnished : s.session.state ≠ .unconfigured → s.session.state ≠ .closed → s.session.format.isSome = true
  unopened : s.session.state = .unconfigured ∨ s.session.state = .configured → s.opens = 0
  opened : s.session.isAllocated = true → s.opens = 1
  once : s.opens ≤ 1

omit [Backend β σ] [Coder σ] in
theorem opens_log (s : Scene β σ) (q : SessionRequest) (a : Attempt SessionAnswer) :
    (s.log q a).opens = s.opens + if SessionCall.opens { request := q, answer := a } then 1 else 0 := by
  unfold opens log
  rw [List.countP_append, List.countP_singleton]

omit [Backend β σ] [Coder σ] in
/-- A call that opens nothing does not count. -/
theorem opens_log_of_ne (s : Scene β σ) {q : SessionRequest} {a : Attempt SessionAnswer} (shut : a ≠ .ok .opened) :
    (s.log q a).opens = s.opens := by
  rw [opens_log, SessionCall.opens_eq_false shut]
  rfl

omit [Coder σ] in
theorem sound_init (b : β) (j : Journal) : Sound b ({ backend := b, journal := j } : Scene β σ) where
  allocated_iff := by simp [Encoder.isAllocated]
  format_iff := by simp
  granted := by simp
  pristine _ := ⟨rfl, rfl⟩
  furnished state := absurd rfl state
  unopened _ := rfl
  opened allocated := by cases allocated
  once := Nat.zero_le 1

omit [Backend β σ] [Coder σ] in
/-- The formats that were granted, once another call was made. -/
theorem mem_log_iff {s : Scene β σ} {q : SessionRequest} {a : Attempt SessionAnswer} {r : StreamRequest}
    {f : StreamFormat} :
    { request := .configure r, answer := .ok (.format f) } ∈ (s.log q a).calls ↔
      { request := .configure r, answer := .ok (.format f) } ∈ s.calls ∨ q = .configure r ∧ a = .ok (.format f) := by
  unfold log
  rw [List.mem_append, List.mem_singleton, SessionCall.mk.injEq, eq_comm, @eq_comm _ a]

section Steps

variable {b : β} {s s' : Scene β σ} {q : SessionRequest} {a : Attempt SessionAnswer}

omit [Coder σ] in
/-- A call that settles no format and opens nothing leaves things as they are, but for the stage it moves on to. -/
theorem Sound.kept (h : Sound b s) (plain : ∀ f, a ≠ .ok (.format f)) (shut : a ≠ .ok .opened)
    (calls : s'.calls = s.calls) (format : s'.session.format = s.session.format)
    (allocated_iff : s'.session.isAllocated = true ↔ s'.session.state = .running ∨ s'.session.state = .draining)
    (held : s'.session.isAllocated = true → s.session.isAllocated = true)
    (stage : s'.session.state = s.session.state ∨
      (s.session.state = .running ∨ s.session.state = .draining) ∧ s'.session.state = .draining ∨
      s'.session.state = .closed)
    (backend : s.session.state = .unconfigured → s'.session.state ≠ .closed → s'.backend = s.backend) :
    Sound b (s'.log q a) := by
  have same (r : StreamRequest) (f : StreamFormat) :
      { request := .configure r, answer := .ok (.format f) } ∈ (s'.log q a).calls ↔
        { request := .configure r, answer := .ok (.format f) } ∈ s.calls := by
    rw [mem_log_iff, calls, or_iff_left fun granted => plain f granted.2]
  have opens : (s'.log q a).opens = s.opens := by
    rw [opens_log_of_ne s' shut]
    unfold Scene.opens
    rw [calls]
  refine ⟨allocated_iff, ?_, ?_, ?_, ?_, ?_, ?_, ?_⟩
  · intro f
    show s'.session.format = some f ↔ _
    simp only [format, h.format_iff, same]
  · intro r f granted
    exact h.granted r f ((same r f).mp granted)
  · intro state
    rcases stage with same | ⟨_, draining⟩ | closed
    · have before : s.session.state = .unconfigured := same.symm.trans state
      have living : s'.session.state ≠ .closed := fun closed => absurd (closed.symm.trans state) nofun
      obtain ⟨first, none⟩ := h.pristine before
      exact ⟨(backend before living).trans first, format.trans none⟩
    · exact absurd (draining.symm.trans state) nofun
    · exact absurd (closed.symm.trans state) nofun
  · intro configured living
    show s'.session.format.isSome = true
    rw [format]
    rcases stage with same | ⟨running | draining, _⟩ | closed
    · exact h.furnished (same ▸ configured) (same ▸ living)
    · exact h.furnished (by rw [running]; nofun) (by rw [running]; nofun)
    · exact h.furnished (by rw [draining]; nofun) (by rw [draining]; nofun)
    · exact absurd closed living
  · intro early
    rw [opens]
    have early' : s'.session.state = .unconfigured ∨ s'.session.state = .configured := early
    rcases stage with same | ⟨_, draining⟩ | closed
    · exact h.unopened (same ▸ early')
    · rw [draining] at early'
      rcases early' with early' | early' <;> cases early'
    · rw [closed] at early'
      rcases early' with early' | early' <;> cases early'
  · intro allocated
    rw [opens]
    exact h.opened (held allocated)
  · rw [opens]
    exact h.once

omit [Coder σ] in
/-- An instance is held in the stages in which it is used. -/
theorem Sound.not_allocated (h : Sound b s) (early : s.session.state = .unconfigured ∨ s.session.state = .configured) :
    s.session.isAllocated = false := by
  rw [Bool.eq_false_iff]
  intro allocated
  rcases h.allocated_iff.mp allocated with state | state <;> rw [state] at early <;>
    rcases early with early | early <;> cases early

omit [Coder σ] in
/-- A session that is granted a format has it from now on. -/
theorem Sound.configured (h : Sound b s) (state : s.session.state = .unconfigured) {r : StreamRequest} {f : StreamFormat}
    (granted : Granted (Backend.layouts s.backend) r f) (calls : s'.calls = s.calls)
    (session : s'.session = { s.session with state := .configured, format := some f }) :
    Sound b (s'.log (.configure r) (.ok (.format f))) := by
  have unallocated : s'.session.isAllocated = false := by
    rw [session]
    exact h.not_allocated (.inl state)
  have state' : s'.session.state = .configured := by rw [session]
  have format' : s'.session.format = some f := by rw [session]
  obtain ⟨first, none⟩ := h.pristine state
  -- No format was settled before.
  have only (r' : StreamRequest) (f' : StreamFormat) :
      { request := .configure r', answer := .ok (.format f') } ∈ (s'.log (.configure r) (.ok (.format f))).calls ↔
        r = r' ∧ f = f' := by
    have new : { request := .configure r', answer := .ok (.format f') } ∉ s.calls := by
      intro settled
      have format := (h.format_iff f').mpr ⟨r', settled⟩
      rw [none] at format
      cases format
    rw [mem_log_iff, calls, or_iff_right new, SessionRequest.configure.injEq, Except.ok.injEq, SessionAnswer.format.injEq]
  have opens : (s'.log (.configure r) (.ok (.format f))).opens = 0 := by
    rw [opens_log_of_ne _ fun h => by cases h]
    unfold Scene.opens
    rw [calls]
    exact h.unopened (.inl state)
  refine ⟨?_, ?_, ?_, ?_, ?_, fun _ => opens, ?_, opens.le.trans (Nat.zero_le 1)⟩
  · show s'.session.isAllocated = true ↔ s'.session.state = .running ∨ s'.session.state = .draining
    rw [unallocated, state']
    simp
  · intro f'
    show s'.session.format = some f' ↔ _
    simp only [only, format', Option.some.injEq, exists_eq_left']
  · intro r' f' settled
    obtain ⟨rfl, rfl⟩ := (only r' f').mp settled
    exact first ▸ granted
  · intro unconfigured
    exact absurd (state'.symm.trans unconfigured) nofun
  · intro _ _
    show s'.session.format.isSome = true
    rw [format']
    rfl
  · intro allocated
    exact absurd (unallocated.symm.trans allocated) nofun

omit [Coder σ] in
/-- A session that is opened holds the instance that it was opened with. -/
theorem Sound.launched (h : Sound b s) (state : s.session.state = .configured) {c : σ} (calls : s'.calls = s.calls)
    (session : s'.session = { s.session with state := .running, instance? := some c, lastPts := 0 }) :
    Sound b (s'.log .launch (.ok .opened)) := by
  have state' : s'.session.state = .running := by rw [session]
  have allocated : s'.session.isAllocated = true := by
    rw [session]
    rfl
  have format : s'.session.format = s.session.format := by rw [session]
  have same (r : StreamRequest) (f : StreamFormat) :
      { request := .configure r, answer := .ok (.format f) } ∈ (s'.log .launch (.ok .opened)).calls ↔
        { request := .configure r, answer := .ok (.format f) } ∈ s.calls := by
    rw [mem_log_iff, calls]
    exact or_iff_left nofun
  have opens : (s'.log .launch (.ok .opened)).opens = 1 := by
    rw [opens_log]
    unfold Scene.opens
    rw [calls]
    exact congrArg (· + 1) (h.unopened (.inr state))
  refine ⟨⟨fun _ => .inl state', fun _ => allocated⟩, ?_, ?_, ?_, ?_, ?_, fun _ => opens, opens.le⟩
  · intro f
    show s'.session.format = some f ↔ _
    simp only [same, format, h.format_iff]
  · intro r f settled
    exact h.granted r f ((same r f).mp settled)
  · intro unconfigured
    exact absurd (state'.symm.trans unconfigured) nofun
  · intro _ _
    show s'.session.format.isSome = true
    rw [format]
    exact h.furnished (by rw [state]; nofun) (by rw [state]; nofun)
  · intro early
    rcases early with early | early <;> exact absurd (state'.symm.trans early) nofun

omit [Backend β σ] [Coder σ] in
/-- A call that opens nothing is not entered in the ledger. -/
theorem ledger_log (s : Scene β σ) {q : SessionRequest} {a : Attempt SessionAnswer} (shut : a ≠ .ok .opened)
    (spoilt : Nat) :
    (s.log q a).ledger spoilt = s.ledger spoilt := by
  unfold ledger
  rw [opens_log_of_ne s shut]
  rfl

omit [Backend β σ] [Coder σ] in
/-- While the session lives, only the instances that were spoilt are destroyed. -/
theorem ledger_of_living (living : s.session.state ≠ .closed) (spoilt : Nat) :
    s.ledger spoilt = { made := s.opens + spoilt, destroyed := List.replicate spoilt 0 } := by
  unfold ledger
  rw [if_neg living]
  rfl

omit [Backend β σ] [Coder σ] in
/-- A closed session has destroyed what it opened, after one stop each. -/
theorem ledger_of_closed (closed : s.session.state = .closed) (spoilt : Nat) :
    s.ledger spoilt =
      { made := s.opens + spoilt, destroyed := List.replicate s.opens 1 ++ List.replicate spoilt 0 } := by
  unfold ledger
  rw [if_pos closed]

omit [Coder σ] in
/-- Closing a session stops the instance of a session that was opened, the first time. -/
theorem Sound.ledger_closed (h : Sound b s) (opens : s'.opens = s.opens) (closed : s'.session.state = .closed)
    (spoilt : Nat) :
    (if s.session.isAllocated then { s.ledger spoilt with destroyed := 1 :: (s.ledger spoilt).destroyed }
      else s.ledger spoilt) = s'.ledger spoilt := by
  rw [ledger_of_closed closed, opens]
  cases allocated : s.session.isAllocated with
  | true =>
    have living : s.session.state ≠ .closed := by
      rcases h.allocated_iff.mp allocated with state | state <;> rw [state] <;> nofun
    rw [if_pos rfl, ledger_of_living living, h.opened allocated]
    rfl
  | false =>
    rw [if_neg nofun]
    by_cases before : s.session.state = .closed
    · exact ledger_of_closed before spoilt
    · -- A session that holds no instance and was not closed was not opened.
      have early : s.session.state = .unconfigured ∨ s.session.state = .configured := by
        have idle := h.allocated_iff
        rw [allocated] at idle
        cases state : s.session.state with
        | unconfigured => exact .inl rfl
        | configured => exact .inr rfl
        | running => exact absurd (idle.mpr (.inl state)) nofun
        | draining => exact absurd (idle.mpr (.inr state)) nofun
        | closed => exact absurd state before
      rw [ledger_of_living before, h.unopened early]
      rfl

omit [Coder σ] in
/-- Whatever a call comes to, the session stays sound, and its books are kept. -/
theorem Sound.step (h : Sound b s) {spoilt : Nat} {books' : Books} (o : Outcome s (s.ledger spoilt) q a s' books') :
    Sound b (s'.log q a) ∧ ∃ spoilt', books' = (s'.log q a).ledger spoilt' := by
  cases o with
  | misplaced unfit =>
    have shut : s.misplaced q ≠ .ok .opened := nofun
    exact ⟨h.kept nofun shut rfl rfl h.allocated_iff id (.inl rfl) fun _ _ => rfl, spoilt,
      (ledger_log s shut spoilt).symm⟩
  | notGranted state failure journal =>
    have shut : (.error failure : Attempt SessionAnswer) ≠ .ok .opened := nofun
    exact ⟨h.kept nofun shut rfl rfl h.allocated_iff id (.inl rfl) fun _ _ => rfl, spoilt,
      (ledger_log { s with journal } shut spoilt).symm⟩
  | @granted r f state grant journal =>
    have shut : (.ok (.format f) : Attempt SessionAnswer) ≠ .ok .opened := nofun
    have living : s.session.state ≠ .closed := by
      rw [state]
      nofun
    refine ⟨h.configured state (granted_of_grant grant) rfl rfl, spoilt, ?_⟩
    rw [ledger_log _ shut, ledger_of_living living, ledger_of_living]
    · rfl
    · nofun
  | notOpened state failure backend entered =>
    have shut : (.error failure : Attempt SessionAnswer) ≠ .ok .opened := nofun
    have early : s.session.state ≠ .unconfigured := by
      rw [state]
      nofun
    have living : s.session.state ≠ .closed := by
      rw [state]
      nofun
    refine ⟨h.kept nofun shut rfl rfl h.allocated_iff id (.inl rfl) fun before _ => absurd before early, ?_⟩
    -- An instance that was made but did not start is one more that was spoilt.
    cases entered with
    | unmade => exact ⟨spoilt, (ledger_log { s with backend } shut spoilt).symm⟩
    | spoilt =>
      refine ⟨spoilt + 1, ?_⟩
      rw [ledger_log _ shut, ledger_of_living living, ledger_of_living]
      · rfl
      · exact living
  | opened state c backend =>
    have living : s.session.state ≠ .closed := by
      rw [state]
      nofun
    refine ⟨h.launched state rfl rfl, spoilt, ?_⟩
    rw [ledger_of_living living, ledger_of_living, opens_log]
    · exact congrArg (Books.mk · _) (Nat.add_right_comm s.opens spoilt 1)
    · nofun
  | used fits state stage format allocated plain shut =>
    rename_i e
    have active : e.state = .running ∨ e.state = .draining := by
      rcases stage with same | draining
      · rwa [same]
      · exact .inr draining
    have living : s.session.state ≠ .closed := by
      rcases state with state | state <;> rw [state] <;> nofun
    have living' : e.state ≠ .closed := by
      rcases active with state | state <;> rw [state] <;> nofun
    have held : e.isAllocated = true := allocated.trans (h.allocated_iff.mpr state)
    refine ⟨h.kept plain shut rfl format ⟨fun _ => active, fun _ => held⟩ (fun _ => h.allocated_iff.mpr state)
      (stage.imp_right fun draining => .inl ⟨state, draining⟩) fun _ _ => rfl, spoilt, ?_⟩
    rw [ledger_log _ shut, ledger_of_living living, ledger_of_living]
    · rfl
    · exact living'
  | closed a backend =>
    have plain (f : StreamFormat) : a.map (fun _ => SessionAnswer.closed) ≠ .ok (.format f) := map_ne_ok nofun
    have shut : a.map (fun _ => SessionAnswer.closed) ≠ .ok .opened := map_ne_ok nofun
    refine ⟨h.kept plain shut rfl rfl ⟨nofun, ?_⟩ nofun (.inr (.inr rfl)) fun _ open_ => absurd rfl open_, spoilt, ?_⟩
    · rintro (running | draining)
      · cases running
      · cases draining
    · rw [ledger_log _ shut]
      refine h.ledger_closed ?_ ?_ spoilt <;> rfl

end Steps

/-! ## A whole life -/

/-- What a further call does to the stage that a session is in. -/
structure Next (s : Scene β σ) (q : SessionRequest) : Prop where
  forward : s.session.state.rank ≤ (s.step q).session.state.rank
  closed : s.session.state = .closed → (s.step q).session.state = .closed
  misplaced : ¬q.Fits s.session.state → s.step q = s.log q (s.misplaced q)

/-- A further call never leads a session back, leaves a closed one closed, and has no effect where it is misplaced. -/
theorem next (s : Scene β σ) (q : SessionRequest) : Next s q := by
  obtain ⟨books', o, _⟩ := s.outcome {} q
  rcases asked : s.ask q with ⟨a, s'⟩
  have stepped : s.step q = s'.log q a := by
    unfold step
    rw [asked]
  rw [asked] at o
  dsimp only at o
  have forward : s.session.state.rank ≤ s'.session.state.rank := by
    cases o with
    | misplaced => exact le_refl _
    | notGranted => exact le_refl _
    | granted state =>
      rw [state]
      exact Nat.zero_le 1
    | notOpened => exact le_refl _
    | opened state =>
      rw [state]
      exact Nat.le_succ 1
    | used _ state stage =>
      rcases stage with same | draining
      · exact (congrArg EncoderState.rank same).ge
      · show s.session.state.rank ≤ EncoderState.rank _
        rw [draining]
        rcases state with running | draining
        · rw [running]
          decide
        · rw [draining]
    | closed =>
      show s.session.state.rank ≤ 4
      cases s.session.state <;> decide
  refine ⟨?_, ?_, ?_⟩
  · rw [stepped]
    exact forward
  · intro closed
    rw [stepped]
    rw [closed] at forward
    show s'.session.state = .closed
    -- The last stage is the only one that is not before it.
    cases last : s'.session.state with
    | closed => rfl
    | _ =>
      rw [last] at forward
      exact absurd forward (by decide)
  · intro unfit
    rw [stepped]
    cases o with
    | misplaced => rfl
    | notGranted state => exact absurd state unfit
    | granted state => exact absurd state unfit
    | notOpened state => exact absurd state unfit
    | opened state => exact absurd state unfit
    | used fits => exact absurd fits unfit
    | closed => exact absurd trivial unfit

theorem run_concat (s : Scene β σ) (qs : List SessionRequest) (q : SessionRequest) :
    s.run (qs ++ [q]) = (s.run qs).step q := List.foldl_concat ..

/-- A session that is given up stops its instance, if it was opened and not closed, so that in the end each instance
was destroyed, the one of a session that was opened after it was stopped once. -/
theorem Sound.discarded {b : β} {s : Scene β σ} (h : Sound b s) (spoilt : Nat) (j : Journal) :
    ((s.watched (s.ledger spoilt)).session.discard (s.watched (s.ledger spoilt)).backend j).1.books =
      { made := s.opens + spoilt, destroyed := List.replicate s.opens 1 ++ List.replicate spoilt 0 } := by
  have given : ((s.watched (s.ledger spoilt)).session.discard (s.watched (s.ledger spoilt)).backend j).1.books =
      if s.session.isAllocated then { s.ledger spoilt with destroyed := 1 :: (s.ledger spoilt).destroyed }
        else s.ledger spoilt := by
    rw [Encoder.discard_eq_close]
    exact congrArg (·.2.2.books) (s.session.close_metered s.backend (s.ledger spoilt))
  let gone : Scene β σ := { s with session := { s.session with state := .closed } }
  have closed : gone.session.state = .closed := rfl
  rw [given, h.ledger_closed (show gone.opens = s.opens from rfl) closed, ledger_of_closed closed]
  rfl

/-- A session is sound after any calls. Metered instances and books on them make no difference to it. -/
theorem sound_run (b : β) (j : Journal) (qs : List SessionRequest) :
    Sound b (({ backend := b, journal := j } : Scene β σ).run qs) ∧ ∃ spoilt,
      ({ backend := ⟨b, {}⟩, journal := j } : Scene (Registry β) (Metered σ)).run qs =
        (({ backend := b, journal := j } : Scene β σ).run qs).watched
          ((({ backend := b, journal := j } : Scene β σ).run qs).ledger spoilt) := by
  -- By induction on the calls; the books are kept beside the session, which does not look at them.
  induction qs using List.reverseRecOn with
  | nil => exact ⟨sound_init b j, 0, rfl⟩
  | append_singleton qs q ih =>
    obtain ⟨sound, spoilt, same⟩ := ih
    obtain ⟨books', o, asked⟩ := outcome (({ backend := b, journal := j } : Scene β σ).run qs) _ q
    obtain ⟨sound', spoilt', rfl⟩ := sound.step o
    rw [run_concat, run_concat, same]
    refine ⟨sound', spoilt', ?_⟩
    unfold Scene.step
    rw [asked]
    rfl

/-- Whatever calls are made on a session, over whatever backend:
* an instance is held in the stages `running` and `draining` only, a format from the call that granted it on, and the
  session is opened at most once (`Sound`);
* the next call moves the session forward or leaves it in its stage, and does nothing at all if it does not fit the
  stage (`Next`), not even to the sink of a drain;
* with metered instances and books on them the calls come to the same, and the instance that is held was not stopped
  yet (`watched`). The books show that each instance was destroyed but the one that is held, and that the only stop was
  the one of the instance of a session that was opened, when the session was closed (`ledger`) or given up. -/
theorem life (b : β) (j : Journal) (qs : List SessionRequest) :
    let s := ({ backend := b, journal := j } : Scene β σ).run qs
    Sound b s ∧ (∀ q, Next s q) ∧
    (∀ atEnd o now, ¬(SessionRequest.drain atEnd o now).Fits s.session.state →
      (s.session.drain atEnd o.sink now).2.2 = o.sink) ∧
    ∃ spoilt,
      ({ backend := ⟨b, {}⟩, journal := j } : Scene (Registry β) (Metered σ)).run qs = s.watched (s.ledger spoilt) ∧
      ∀ j', ((s.watched (s.ledger spoilt)).session.discard (s.watched (s.ledger spoilt)).backend j').1.books =
        { made := s.opens + spoilt, destroyed := List.replicate s.opens 1 ++ List.replicate spoilt 0 } := by
  intro s
  obtain ⟨sound, spoilt, same⟩ := sound_run (σ := σ) b j qs
  refine ⟨sound, s.next, ?_, spoilt, same, sound.discarded spoilt⟩
  intro atEnd o now unfit
  rw [s.session.drain_misplaced atEnd o.sink now unfit]

end Scene

end Camcorder
