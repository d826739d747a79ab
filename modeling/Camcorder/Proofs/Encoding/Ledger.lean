import Mathlib
import Camcorder.Proofs.Encoding.Requests

/-!
# Sessions that keep a ledger

A `Ledger` says for an orderly instance what its sink is to be given for the pictures submitted so far.
`Ledger.Keeps` is the invariant of a session: what the sink was given, followed by what it is still due, is what
the ledger says. Submissions preserve it (`Ledger.keeps_submit`), and so do drains unless the sink breaks down
(`Ledger.Keeps.drained`); `Ledger.Holds.run` is the same for whole runs into a sink that always answers.
-/

namespace Camcorder

/-- A picture that was submitted to a session, and the answer. -/
structure Submitted where
  picture : Bytes
  pts : Nat
  answer : Attempt Submission

/-- Whether a session turned the picture away before its instance saw it. -/
def Submitted.isTurnedAway (s : Submitted) : Bool :=
  match s.answer with
  | .error (.error (.encoding (.wrongLength ..))) | .error (.error (.invalidState (.wrongState ..))) => true
  | _ => false

/-- The picture and the time stamp, if the picture was queued. -/
def Submitted.queued? (s : Submitted) : Option (Bytes × Nat) :=
  match s.answer with
  | .ok (.queued pts) => some (s.picture, pts)
  | _ => none

/-- The pictures that were queued, with the time stamps they were queued with. -/
def queued (h : List Submitted) : List (Bytes × Nat) := h.filterMap Submitted.queued?

/-- A picture that was queued comes after the others. -/
theorem queued_concat (h : List Submitted) {s : Submitted} {p : Bytes × Nat} (hs : s.queued? = some p) :
    queued (h ++ [s]) = queued h ++ [p] := by
  simp [queued, hs]

/-- Any other submission leaves the queued pictures as they are. -/
theorem queued_concat_of_none (h : List Submitted) {s : Submitted} (hs : s.queued? = none) :
    queued (h ++ [s]) = queued h := by
  simp [queued, hs]

theorem queued_concat_of_turnedAway (h : List Submitted) {s : Submitted} (away : s.isTurnedAway = true) :
    queued (h ++ [s]) = queued h := by
  apply queued_concat_of_none
  unfold Submitted.isTurnedAway at away
  unfold Submitted.queued?
  split
  · rename_i answer
    rw [answer] at away
    cases away
  · rfl

/-- What the sink of an instance is to be given for the pictures that were submitted. -/
structure Ledger (σ : Type) [Coder σ] [Orderly σ] where
  /-- The length of a picture. -/
  length : Nat
  script : List Submitted → List Delivery
  /-- Whether the format was announced. -/
  announced : List Submitted → Bool
  /-- Whether the format may be announced more than once. -/
  repeats : Bool
  /-- What is known of the instance as long as it takes pictures. -/
  Ready : List Submitted → σ → Prop
  /-- How the instance may answer. -/
  Answers : Attempt Submission → Prop
  ready_of_core : ∀ {h : List Submitted} {c c' : σ}, Ready h c → Orderly.core c' = Orderly.core c → Ready h c'
  turned_away : ∀ (h : List Submitted) {s : Submitted}, s.isTurnedAway = true →
    script (h ++ [s]) = script h ∧ announced (h ++ [s]) = announced h ∧ ∀ c, Ready h c → Ready (h ++ [s]) c
  /-- What an instance makes of a picture waits at the end of its line. -/
  fed : ∀ {h : List Submitted} {c : σ} {picture : Bytes} (pts : Nat), Ready h c → Orderly.Sound c →
    picture.size = length →
    let r := Encoder.feed c picture pts
    let h' := h ++ [{ picture, pts, answer := r.1 }]
    Answers r.1 ∧ Ready h' r.2 ∧ Orderly.Sound r.2 ∧ ∃ new, Orderly.backlog r.2 = Orderly.backlog c ++ new ∧
      (∀ d ∈ new, d.endsStream = false) ∧ script h' = script h ++ Delivery.due (announced h) new ∧
      announced h' = (announced h || new.any Delivery.isFormat) ∧
      (repeats = false → Delivery.formats new + (announced h).toNat ≤ 1)

namespace Ledger

open Delivery Orderly Encoder

variable {σ κ : Type} [Coder σ] [Orderly σ] [Sink κ]

/-- How a session that takes pictures, or one that is draining, looks between two requests. -/
inductive Stage (l : Ledger σ) (h : List Submitted) (e : Encoder σ) (c : σ) : Prop where
  | running (state : e.state = .running) (ready : l.Ready h c) (goesOn : ∀ d ∈ backlog c, d.endsStream = false)
  | draining (state : e.state = .draining) (endsLast : EndsLast (backlog c))

/-- A session with the instance `c` whose sink heard what it is to be given, except for what it is still due. -/
structure Keeps (l : Ledger σ) (h : List Submitted) (e : Encoder σ) (heard : List Delivery) (c : σ) : Prop where
  held : e.instance? = some c
  format : ∃ f, e.format = some f ∧ f.inputLength? = some l.length
  sound : Sound c
  owed : heard ++ due e.formatDelivered (backlog c) = l.script h
  announced : (e.formatDelivered || (backlog c).any isFormat) = l.announced h
  once : l.repeats = false → formats (backlog c) + e.formatDelivered.toNat ≤ 1
  seen : ∀ s ∈ h, s.isTurnedAway = false → s.picture.size = l.length ∧ l.Answers s.answer
  stage : l.Stage h e c

variable {l : Ledger σ} {h : List Submitted} {e : Encoder σ} {heard : List Delivery} {c : σ}

/-- What is heard is the beginning of the script. -/
theorem Keeps.isPrefix (k : l.Keeps h e heard c) : heard <+: l.script h := ⟨_, k.owed⟩

/-- An encoder that keeps the ledger is at work. -/
theorem Keeps.underway (k : l.Keeps h e heard c) : e.state = .running ∨ e.state = .draining := by
  cases k.stage with
  | running state => exact .inl state
  | draining state => exact .inr state

theorem Keeps.endsLast (k : l.Keeps h e heard c) : EndsLast (backlog c) := by
  cases k.stage with
  | running _ _ goesOn => exact endsLast_of_forall goesOn
  | draining _ endsLast => exact endsLast

/-! ## Submissions -/

/-- A picture that is turned away leaves no trace. -/
theorem Keeps.turnAway (k : l.Keeps h e heard c) {s : Submitted} (away : s.isTurnedAway = true) :
    l.Keeps (h ++ [s]) e heard c := by
  rcases l.turned_away h away with ⟨script, announced, ready⟩
  refine ⟨k.held, k.format, k.sound, by rw [script, k.owed], by rw [announced, k.announced], k.once, ?_, ?_⟩
  · intro s' hs seen
    rcases List.mem_append.mp hs with old | new
    · exact k.seen s' old seen
    · cases List.mem_singleton.mp new
      rw [away] at seen
      cases seen
  cases k.stage with
  | running state ready' goesOn => exact .running state (ready c ready') goesOn
  | draining state endsLast => exact .draining state endsLast

/-- A submission is kept, however it is answered. -/
theorem keeps_submit (k : l.Keeps h e heard c) (picture : Bytes) (pts : Nat) :
    ∃ c', l.Keeps (h ++ [{ picture, pts, answer := (e.submit picture pts).1 }]) (e.submit picture pts).2 heard c' := by
  rcases k.format with ⟨f, format, length⟩
  cases k.stage with
  | running state ready goesOn =>
    rcases submit_running state k.held format length picture pts with ⟨fits, n, eq⟩ | ⟨_, eq⟩
    · -- The instance saw the picture. What it made of it comes after all that is owed.
      rw [eq]
      rcases l.fed pts ready k.sound fits with ⟨answers, ready', sound', new, backlog', goesOn', script, announced, once⟩
      refine ⟨_, rfl, ⟨f, format, length⟩, sound', ?_, ?_, ?_, ?_, .running state ready' ?_⟩
      · rw [script, backlog', due_append, ← k.announced, ← k.owed, List.append_assoc]
      · rw [announced, ← k.announced, backlog', List.any_append, Bool.or_assoc]
      · intro single
        have before := k.once single
        have now := once single
        have sum : formats (backlog c ++ new) = formats (backlog c) + formats new := List.countP_append
        rw [backlog', sum]
        -- If the format was announced before, it is not now; if not, neither the line nor the sink knows it.
        by_cases known : l.announced h = true
        · rw [known, Bool.toNat_true] at now
          dsimp only
          omega
        · rw [Bool.not_eq_true, ← k.announced, Bool.or_eq_false_iff] at known
          have none : formats (backlog c) = 0 := by
            rw [formats, List.countP_eq_zero]
            exact List.any_eq_false.mp known.2
          rw [known.1, none]
          simp
          omega
      · intro s hs seen
        rcases List.mem_append.mp hs with old | new
        · exact k.seen s old seen
        · cases List.mem_singleton.mp new
          exact ⟨fits, answers⟩
      · intro d hd
        rw [backlog'] at hd
        rcases List.mem_append.mp hd with old | fresh
        · exact goesOn d old
        · exact goesOn' d fresh
    · -- A picture of another length never reached the instance.
      rw [eq]
      exact ⟨c, k.turnAway rfl⟩
  | draining state _ =>
    rw [submit_draining state]
    exact ⟨c, k.turnAway rfl⟩

/-! ## Drains -/

/-- An instance that was told that the stream ends owes what it owed before. -/
theorem Keeps.told (k : l.Keeps h e heard c) {c₁ : σ} (told : Told c c₁) :
    Sound c₁ ∧ heard ++ due e.formatDelivered (backlog c₁) = l.script h ∧
      (e.formatDelivered || (backlog c₁).any isFormat) = l.announced h ∧
      formats (backlog c₁) = formats (backlog c) := by
  cases told with
  | not => exact ⟨k.sound, k.owed, k.announced, rfl⟩
  | swallowed sound same =>
    rw [same]
    exact ⟨sound, k.owed, k.announced, rfl⟩
  | echoed pts sound more =>
    rw [more]
    refine ⟨sound, ?_, ?_, formats_mark _ pts⟩
    · rw [due_append, due_mark, List.append_nil, k.owed]
    · rw [List.any_append, ← k.announced]
      simp [mark, isFormat]

/-- The end of the stream comes last, also if the instance was told of it only now. -/
theorem Keeps.toldLast (k : l.Keeps h e heard c) {c₁ : σ} (told : Told c c₁) (once : e.state = .draining → c₁ = c) :
    EndsLast (backlog c₁) := by
  cases k.stage with
  | draining state endsLast =>
    rw [once state]
    exact endsLast
  | running _ _ goesOn =>
    cases told with
    | not => exact endsLast_of_forall goesOn
    | swallowed _ same =>
      rw [same]
      exact endsLast_of_forall goesOn
    | echoed pts _ more =>
      rw [more]
      exact endsLast_concat goesOn _

/-- A drain that takes its haul keeps the ledger. -/
theorem Keeps.drained {o o' : Observed κ} {e' : Encoder σ} {atEnd : Bool} {c₁ c' : σ} {r : Attempt Tally}
    (k : l.Keeps h e o.heard c) (told : Told c c₁) (once : atEnd = false ∨ e.state = .draining → c₁ = c)
    (d : Drained e atEnd c₁ o (r, e', o') c') : l.Keeps h e' o'.heard c' := by
  rcases k.told told with ⟨sound, owed, announced, same⟩
  have last := k.toldLast told (fun state => once (.inr state))
  rcases d with ⟨_, state', format', held', delivered', hauled⟩
  dsimp only at state' format' held' delivered' hauled
  refine ⟨held', by rw [format']; exact k.format, hauled.sound, ?_, ?_, ?_, k.seen, ?_⟩
  · rw [hauled.heard, hauled.backlog, delivered', List.append_assoc, given_append_due, owed]
  · rw [hauled.backlog, delivered', announced_haul, announced]
  · intro single
    have before := k.once single
    rw [← same] at before
    rw [hauled.backlog, delivered']
    exact (formats_haul_le _ _).trans before
  · have left : EndsLast (backlog c') := by
      rw [hauled.backlog]
      exact last.of_suffix (left_suffix _ _)
    cases atEnd with
    | true => exact .draining state' left
    | false =>
      have same := once (.inl rfl)
      subst same
      cases k.stage with
      | draining state _ => exact .draining (state'.trans state) left
      | running state ready goesOn =>
        refine .running (state'.trans state) (l.ready_of_core ready hauled.core) ?_
        intro x hx
        rw [hauled.backlog] at hx
        exact goesOn x ((left_suffix _ _).subset hx)

end Ledger

/-! ## Runs -/

/-- What may be asked of a session that was opened. The clock reads `now`. -/
inductive Request where
  | submit (picture : Bytes) (pts : Nat)
  | drain (atEnd : Bool) (now : Nat)

/-- Whether it is a drain at the end. -/
def Request.isEnd : Request → Bool
  | .submit .. => false
  | .drain atEnd _ => atEnd

/-- A session and its sink, and the pictures that were submitted so far. -/
structure Trial (σ κ : Type) where
  encoder : Encoder σ
  sink : Observed κ
  submissions : List Submitted := []

namespace Trial

variable {σ κ : Type} [Coder σ] [Sink κ]

def step (t : Trial σ κ) : Request → Trial σ κ
  | .submit picture pts =>
    let (answer, encoder) := t.encoder.submit picture pts
    { t with encoder, submissions := t.submissions ++ [{ picture, pts, answer }] }
  | .drain atEnd now =>
    let (_, encoder, sink) := t.encoder.drain atEnd t.sink now
    { t with encoder, sink }

/-- Makes the requests one after the other, whatever the answers. -/
def run (t : Trial σ κ) (requests : List Request) : Trial σ κ := requests.foldl step t

/-- A drain that is refused leaves everything as it was. -/
theorem step_of_refused {t : Trial σ κ} {atEnd : Bool} {now : Nat} {r : Attempt Tally}
    (h : t.encoder.drain atEnd t.sink now = (r, t.encoder, t.sink)) : t.step (.drain atEnd now) = t := by
  simp only [step, h]

end Trial

namespace Ledger

open Delivery Orderly Encoder

variable {σ κ : Type} [Coder σ] [Orderly σ] [Sink κ] [Answering κ] {l : Ledger σ} {t : Trial σ κ} {c : σ}

/-- The session of a trial keeps the ledger with the instance `c`. -/
def Holds (l : Ledger σ) (t : Trial σ κ) (c : σ) : Prop := l.Keeps t.submissions t.encoder t.sink.heard c

/-- After a drain at the end nothing is left, or fewer formats than before. -/
theorem Holds.drain_end (k : l.Holds t c) (now : Nat) :
    ∃ c', l.Holds (t.step (.drain true now)) c' ∧ (t.step (.drain true now)).encoder.state = .draining ∧
      (backlog c' = [] ∨ formats (backlog c') < formats (backlog c)) ∧
      (l.repeats = false → backlog c' = []) := by
  rcases drain_cases k.underway k.held k.sound true t.sink now with
    ⟨_, never, _⟩ | ⟨c₁, told, once, ⟨_, _, breaks⟩ | ⟨c', drained⟩⟩
  · cases never
  · exact absurd breaks (Sink.not_breaks _ _)
  · have last := k.toldLast told (fun state => once (.inr state))
    have same := (k.told told).2.2.2
    refine ⟨c', k.drained told once drained, drained.state, ?_, ?_⟩
    · rw [drained.hauled.backlog, ← same]
      exact left_eq_nil_or_formats_lt _ last
    · intro single
      rw [drained.hauled.backlog]
      exact left_eq_nil last (by rw [same]; exact k.once single)

/-- Every request leaves the ledger in order. -/
theorem Holds.step (k : l.Holds t c) (r : Request) : ∃ c', l.Holds (t.step r) c' := by
  cases r with
  | submit picture pts => exact keeps_submit k picture pts
  | drain atEnd now =>
    rcases drain_cases k.underway k.held k.sound atEnd t.sink now with
      ⟨_, _, refused⟩ | ⟨c₁, told, once, ⟨_, _, breaks⟩ | ⟨c', drained⟩⟩
    · rw [Trial.step_of_refused refused]
      exact ⟨c, k⟩
    · exact absurd breaks (Sink.not_breaks _ _)
    · exact ⟨c', k.drained told once drained⟩

/-- Every run of requests leaves the ledger in order. -/
theorem Holds.run (k : l.Holds t c) (requests : List Request) : ∃ c', l.Holds (t.run requests) c' := by
  induction requests generalizing t c with
  | nil => exact ⟨c, k⟩
  | cons r requests ih =>
    rcases k.step r with ⟨c', k'⟩
    exact ih k'

/-- A session that is draining, and drains often enough to come, give the sink everything. -/
theorem Holds.run_draining (k : l.Holds t c) (state : t.encoder.state = .draining) (requests : List Request)
    (enough : backlog c = [] ∨ formats (backlog c) < requests.countP Request.isEnd) :
    (t.run requests).sink.heard = l.script (t.run requests).submissions := by
  -- By induction on the requests. Nothing is added any more, and each drain at the end takes an announcement away.
  induction requests generalizing t c with
  | nil =>
    have none : backlog c = [] := by simpa using enough
    have owed := k.owed
    rwa [none, due, List.append_nil] at owed
  | cons r requests ih =>
    cases r with
    | submit picture pts =>
      have same : (t.step (.submit picture pts)).encoder = t.encoder := by
        simp only [Trial.step, submit_draining state]
      have k' : l.Holds (t.step (.submit picture pts)) c := by
        simp only [Holds, Trial.step, submit_draining state]
        exact k.turnAway rfl
      exact ih k' (by rw [same, state]) (by simpa [Request.isEnd] using enough)
    | drain atEnd now =>
      cases atEnd with
      | false =>
        have refused : t.encoder.drain false t.sink now = (t.encoder.misplaced "drain", t.encoder, t.sink) := by
          simp only [drain, state]
        have same : t.step (.drain false now) = t := Trial.step_of_refused refused
        unfold Trial.run
        rw [List.foldl_cons, same]
        exact ih k state (by simpa [Request.isEnd] using enough)
      | true =>
        rcases k.drain_end now with ⟨c', k', state', fewer, _⟩
        refine ih k' state' ?_
        have more : (Request.drain true now :: requests).countP Request.isEnd = requests.countP Request.isEnd + 1 :=
          List.countP_cons_of_pos rfl
        rw [more] at enough
        rcases enough with none | enough
        · left
          rcases fewer with none' | fewer
          · exact none'
          · simp [none, formats] at fewer
        · rcases fewer with none' | fewer
          · exact .inl none'
          · exact .inr (by omega)

end Ledger

end Camcorder
