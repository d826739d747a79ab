import Mathlib
import Camcorder.Encoding.Avc
import Camcorder.Encoding.Loopback
import Camcorder.Proofs.Encoding.Likeness

/-!
# How often a drain polls

A `Logged` instance writes down the answers that it gives to polls, so the polls of a drain can be counted
(`Encoder.polls`). Between two outputs a drain puts up with a number of empty polls that is fixed, and so the outputs
to come bound all of its polls. They do whatever the sink answers and however outputs and empty polls take turns
(`Encoder.drain_polls_le`).
-/

namespace Camcorder

/-! ## Instances that log -/

/-- An instance, and the answers to the polls so far. -/
structure Logged (σ : Type) where
  coder : σ
  answers : List Output := []

namespace Logged

variable {σ : Type}

/-- An instance that was not polled yet. -/
def fresh (coder : σ) : Logged σ := { coder }

theorem eq_fresh {l : Logged σ} (h : l.answers = []) : l = .fresh l.coder := by
  cases l
  exact congrArg (Logged.mk _) h

variable [Coder σ]

instance : Coder (Logged σ) where
  start l :=
    let (r, coder) := Coder.start l.coder
    (r, { l with coder })
  claim l wait :=
    let (slot, coder) := Coder.claim l.coder wait
    (slot, { l with coder })
  room? l := Coder.room? l.coder
  fill l slot picture := { l with coder := Coder.fill l.coder slot picture }
  queue l slot len pts flags :=
    let (r, coder) := Coder.queue l.coder slot len pts flags
    (r, { l with coder })
  poll l wait :=
    let (answer, coder) := Coder.poll l.coder wait
    (answer, { coder, answers := l.answers ++ [answer] })
  slot? l := Coder.slot? l.coder
  parameters? l := Coder.parameters? l.coder
  release l slot := { l with coder := Coder.release l.coder slot }
  stop l :=
    let (r, coder) := Coder.stop l.coder
    (r, { l with coder })
  left l := Coder.left l.coder
  left_poll_lt l := Coder.left_poll_lt l.coder
  left_poll_le l := Coder.left_poll_le l.coder
  left_release_le l := Coder.left_release_le l.coder

/-- An instance that logs answers like the instance itself. -/
theorem alike : Coder.Alike fun (s : σ) (l : Logged σ) => l.coder = s where
  claim h _ := by cases h; exact ⟨rfl, rfl⟩
  room? h _ := by cases h; rfl
  fill h _ _ := by cases h; rfl
  queue h _ _ _ _ := by cases h; exact ⟨rfl, rfl⟩
  poll h _ := by cases h; exact ⟨rfl, rfl⟩
  slot? h _ := by cases h; rfl
  parameters? h := by cases h; rfl
  release h _ := by cases h; rfl

end Logged

/-! ## What a pass hears -/

/-- The outputs among the answers to polls. -/
def outputs (l : List Output) : Nat := l.countP (· ≠ .nothing)

/-- An answer after which a pass goes on that has had `k` empty polls in a row and gives up when there are as many as
`limit`, with the empty polls in a row that there are then. -/
inductive GoesOn (limit k : Nat) : Output → (emptyPolls : Nat) → Prop where
  | nothing (few : k + 1 < limit) : GoesOn limit k .nothing (k + 1)
  | output {answer : Output} (h : answer ≠ .nothing) : GoesOn limit k answer 0

section

variable {σ : Type} [Coder σ]

/-- The answers from an instance until a pass is over that has had `k` empty polls in a row. Between two polls the
instance may get slots back, and no output comes of that. -/
inductive Heard (limit : Nat) : (k : Nat) → σ → List Output → Prop where
  | last (k : Nat) (s : σ) (wait : Nat) : Heard limit k s [(Coder.poll s wait).1]
  | more {k k' : Nat} {s s' : σ} {wait : Nat} {l : List Output} (goesOn : GoesOn limit k (Coder.poll s wait).1 k')
      (left : Coder.left s' ≤ Coder.left (Coder.poll s wait).2) (rest : Heard limit k' s' l) :
      Heard limit k s ((Coder.poll s wait).1 :: l)

namespace Heard

variable {limit k : Nat} {s : σ} {l : List Output}

/-- What a poll answers is among the outputs to come. -/
theorem left_poll (s : σ) (wait : Nat) :
    Coder.left (Coder.poll s wait).2 + outputs [(Coder.poll s wait).1] ≤ Coder.left s := by
  by_cases nothing : (Coder.poll s wait).1 = .nothing
  · rw [nothing]
    exact Coder.left_poll_le s wait
  · have one : outputs [(Coder.poll s wait).1] ≤ 1 := List.countP_le_length
    have lt := Coder.left_poll_lt s wait nothing
    omega

/-- No more outputs are heard than the coder had left. -/
theorem outputs_le (h : Heard limit k s l) : outputs l ≤ Coder.left s := by
  induction h with
  | last k s wait => exact (Nat.le_add_left _ _).trans (left_poll s wait)
  | @more k k' s s' wait l goesOn left rest ih =>
    have spent := left_poll s wait
    have split : outputs ([(Coder.poll s wait).1] ++ l) = outputs [(Coder.poll s wait).1] + outputs l :=
      List.countP_append
    rw [List.singleton_append] at split
    omega

/-- Every output allows for a full round of empty polls after it, and there is one round to begin with. -/
theorem length_le (h : Heard limit k s l) (round : k < limit) : l.length + k ≤ limit * (outputs l + 1) := by
  -- By induction on the polls. An empty one is counted in its round, and an output begins another round.
  induction h with
  | last k s wait =>
    have full : limit ≤ limit * (outputs [(Coder.poll s wait).1] + 1) :=
      Nat.le_mul_of_pos_right limit (Nat.succ_pos _)
    rw [List.length_singleton]
    omega
  | @more k k' s s' wait l goesOn left rest ih =>
    rw [List.length_cons]
    generalize (Coder.poll s wait).1 = answer at goesOn ⊢
    cases goesOn with
    | nothing few =>
      have := ih few
      rw [show outputs (.nothing :: l) = outputs l from rfl]
      omega
    | output h =>
      have := ih (by omega)
      rw [show outputs (answer :: l) = outputs l + 1 from List.countP_cons_of_pos (by simpa using h), Nat.mul_succ]
      omega

/-- An instance that has an answer ready whenever one is to come puts all the empty polls at the end. -/
theorem length_le_of_prompt (prompt : ∀ (s : σ) (wait : Nat), (Coder.poll s wait).1 = .nothing → Coder.left s = 0)
    (h : Heard limit k s l) (round : k < limit) (spent : 0 < k → Coder.left s = 0) :
    l.length + k ≤ Coder.left s + limit := by
  induction h with
  | last k s wait =>
    rw [List.length_singleton]
    omega
  | @more k k' s s' wait l goesOn left rest ih =>
    rw [List.length_cons]
    generalize polled : (Coder.poll s wait).1 = answer at goesOn
    cases goesOn with
    | nothing few =>
      -- Nothing is to come any more, so all the polls that follow are empty.
      have none := prompt s wait polled
      have le := Coder.left_poll_le s wait
      have := ih few (by omega)
      omega
    | output h =>
      have lt := Coder.left_poll_lt s wait (polled ▸ h)
      have := ih (by omega) (by omega)
      omega

end Heard

end

namespace Pass

variable {σ κ : Type} [Coder σ] [Sink κ]

/-- How many empty polls in a row end a pass. -/
def patience (atEnd : Bool) : Nat := if atEnd then maxEmptyPolls else 1

theorem patience_pos (atEnd : Bool) : 0 < patience atEnd := by
  cases atEnd <;> decide

/-- How long a pass waits for an answer. -/
def wait (atEnd : Bool) : Nat := if atEnd then endWait else 0

/-- An instance that was polled, and may have got a slot back since. -/
inductive Polled (s : σ) : σ → Prop where
  | kept : Polled s s
  | released (slot : Nat) : Polled s (Coder.release s slot)

/-- Polling leaves no more than there was. -/
theorem Polled.left_le {s s' : σ} (h : Polled s s') : Coder.left s' ≤ Coder.left s := by
  cases h with
  | kept => exact Nat.le_refl _
  | released slot => exact Coder.left_release_le s slot

theorem Polled.answers_eq {l l' : Logged σ} (h : Polled l l') : l'.answers = l.answers := by
  cases h <;> rfl

/-- Taking a sample polls no further. -/
theorem polled_takeSample (p : Pass σ κ) (slot : Nat) (info : SampleInfo) :
    Polled p.source (p.takeSample slot info).pass.source := by
  have kept := (p.source_of_deliver slot info).1
  unfold takeSample
  rcases delivered : p.deliver slot info with ⟨failure | u, p'⟩
  · rw [delivered] at kept
    exact kept ▸ .kept
  · rw [delivered] at kept
    rw [← show p'.source = p.source from kept]
    dsimp only
    split
    · exact .released slot
    · exact .released slot

/-- A turn polls once. -/
theorem polled_turn (p : Pass σ κ) (atEnd : Bool) :
    Polled (Coder.poll p.source (wait atEnd)).2 (p.turn atEnd).pass.source := by
  unfold turn wait
  rcases Coder.poll p.source (if atEnd then endWait else 0) with ⟨answer, s⟩
  cases answer with
  | nothing =>
    dsimp only
    rw [source_of_takeNothing]
    exact .kept
  | format =>
    dsimp only
    rw [source_of_takeFormat']
    exact .kept
  | sample slot info => exact polled_takeSample { p with source := s, emptyPolls := 0 } slot info

/-- A drain goes on after an output, and after an empty poll as long as its patience lasts. -/
theorem goesOn_of_again {p p' : Pass σ κ} {atEnd : Bool} (h : p.turn atEnd = .again p') :
    GoesOn (patience atEnd) p.emptyPolls (Coder.poll p.source (wait atEnd)).1 p'.emptyPolls := by
  unfold turn at h
  unfold wait
  rcases polled : Coder.poll p.source (if atEnd then endWait else 0) with ⟨answer, s⟩
  rw [polled] at h
  cases answer with
  | nothing =>
    simp only [takeNothing] at h
    cases atEnd with
    | false => cases h
    | true =>
      simp only [if_true] at h
      split at h
      · cases h
      · cases h
        exact .nothing (by simp only [patience, if_true]; omega)
  | format =>
    rw [(source_of_takeFormat h).2]
    exact .output (by simp)
  | sample slot info =>
    rw [(source_of_takeSample h).2]
    exact .output (by simp)

/-- What a pass adds to the log of its instance. -/
theorem run_heard (p : Pass (Logged σ) κ) (atEnd : Bool) :
    ∃ l, (p.run atEnd).2.source.answers = p.source.answers ++ l ∧
      Heard (patience atEnd) p.emptyPolls p.source.coder l := by
  -- By induction on the turns, each of which adds one answer.
  fun_induction run p atEnd with
  | case1 p r p' done =>
    have polled := p.polled_turn atEnd
    rw [done] at polled
    exact ⟨_, polled.answers_eq, .last _ _ (wait atEnd)⟩
  | case2 p p' again ih =>
    have polled := p.polled_turn atEnd
    rw [again] at polled
    obtain ⟨l, log, heard⟩ := ih
    have log' : p'.source.answers = p.source.answers ++ [(Coder.poll p.source.coder (wait atEnd)).1] :=
      polled.answers_eq
    refine ⟨(Coder.poll p.source.coder (wait atEnd)).1 :: l, ?_, .more (goesOn_of_again again) polled.left_le heard⟩
    rw [log, log', List.append_assoc]
    rfl

end Pass

namespace Encoder

variable {σ κ : Type}

/-- A number of the instance, nought if there is none. -/
def ofInstance (f : σ → Nat) (e : Encoder σ) : Nat := (e.instance?.map f).getD 0

/-- The session with an instance that logs, its log still empty. -/
def logged (e : Encoder σ) : Encoder (Logged σ) := e.upon (e.instance?.map .fresh)

/-- The session with the instance alone, without its log. -/
def unlogged (e : Encoder (Logged σ)) : Encoder σ := e.upon (e.instance?.map Logged.coder)

variable [Coder σ] [Sink κ]

/-- The answers to the polls of a drain, in their order. -/
def polls (e : Encoder σ) (atEnd : Bool) (sink : κ) (now : Nat) : List Output :=
  ((e.logged.drain atEnd sink now).2.1.instance?.map Logged.answers).getD []

/-- The session from which a drain begins to poll: the marker that ends the stream has been tried, if it has to be. -/
def tried (e : Encoder σ) (atEnd : Bool) (sink : κ) (now : Nat) : Encoder σ :=
  if e.state = .running ∧ atEnd then ({ e with state := .draining }.signalEnd sink now).2.1 else e

/-- What claiming and queueing leave alone, the marker leaves alone. -/
theorem map_signalEnd {α : Type} {f : σ → α} (claim : ∀ s wait, f (Coder.claim s wait).2 = f s)
    (queue : ∀ s slot len pts flags, f (Coder.queue s slot len pts flags).2 = f s) (e : Encoder σ) (sink : κ)
    (now : Nat) : (e.signalEnd sink now).2.1.instance?.map f = e.instance?.map f := by
  have held : (e.stamp now).2.instance? = e.instance? := rfl
  unfold signalEnd
  dsimp only
  rw [held]
  cases h : e.instance? with
  | none => exact congrArg (Option.map f) h
  | some s =>
    have kept := claim s inputWait
    dsimp only
    rcases claimed : Coder.claim s inputWait with ⟨_ | slot, t⟩ <;> rw [claimed] at kept
    · exact congrArg some kept
    · exact congrArg some ((queue _ _ _ _ _).trans kept)

theorem map_tried {α : Type} {f : σ → α} (claim : ∀ s wait, f (Coder.claim s wait).2 = f s)
    (queue : ∀ s slot len pts flags, f (Coder.queue s slot len pts flags).2 = f s) (e : Encoder σ) (atEnd : Bool)
    (sink : κ) (now : Nat) : (e.tried atEnd sink now).instance?.map f = e.instance?.map f := by
  unfold tried
  split
  · exact map_signalEnd claim queue { e with state := .draining } sink now
  · rfl

/-- The answers that a drain hears, one after the other. -/
theorem collect_heard {e : Encoder (Logged σ)} {l : Logged σ} (held : e.instance? = some l) (atEnd : Bool) (sink : κ) :
    ∃ l', (e.collect atEnd sink).2.1.instance? = some l' ∧ ∃ new, l'.answers = l.answers ++ new ∧
      Heard (Pass.patience atEnd) 0 l.coder new := by
  obtain ⟨new, log, heard⟩ := Pass.run_heard { source := l, sink, delivered := e.formatDelivered } atEnd
  unfold collect
  rw [held]
  exact ⟨_, rfl, new, log, heard⟩

/-- A drain that is not refused before it polls takes what the instance has from then on. -/
theorem drain_of_tried (e : Encoder σ) (atEnd : Bool) (sink : κ) (now : Nat) :
    (e.drain atEnd sink now).2.1.instance? = (e.tried atEnd sink now).instance? ∨
      ∃ sink', e.drain atEnd sink now = (e.tried atEnd sink now).collect atEnd sink' := by
  unfold drain tried
  split
  · rename_i running
    rw [if_pos ⟨running, rfl⟩]
    rcases ({ e with state := .draining } : Encoder σ).signalEnd sink now with ⟨failure | u, e', sink'⟩
    · exact .inl rfl
    · exact .inr ⟨sink', rfl⟩
  · rw [if_neg (by simp)]
    exact .inr ⟨sink, rfl⟩
  · rename_i draining
    rw [if_neg (by simp [draining])]
    exact .inr ⟨sink, rfl⟩
  · rename_i other _ _
    rw [if_neg (by rintro ⟨running, rfl⟩; exact other running rfl)]
    exact .inl rfl

/-- A log does not change what is tried. -/
theorem tried_logged (e : Encoder σ) (atEnd : Bool) (sink : κ) (now : Nat) :
    Option.Rel (fun s l => l = .fresh s) (e.tried atEnd sink now).instance?
      (e.logged.tried atEnd sink now).instance? := by
  -- Nothing is polled for the marker, so there is nothing in the log yet.
  have empty : ∀ l ∈ (e.logged.tried atEnd sink now).instance?, l.answers = [] := by
    intro l hl
    have kept := map_tried (f := Logged.answers) (fun _ _ => rfl) (fun _ _ _ _ _ => rfl) e.logged atEnd sink now
    rw [Option.mem_def.1 hl] at kept
    obtain ⟨_, fresh, answers⟩ := Option.map_eq_some_iff.1 kept.symm
    obtain ⟨s, -, rfl⟩ := Option.map_eq_some_iff.1 fresh
    exact answers.symm
  have same : Option.Rel (fun s l => l.coder = s) (e.tried atEnd sink now).instance?
      (e.logged.tried atEnd sink now).instance? := by
    have held := Coder.rel_map (f := Logged.fresh) (R := fun s l => l.coder = s) (fun _ => rfl) e.instance?
    have state : e.logged.state = e.state := rfl
    unfold tried
    rw [state]
    split
    · obtain ⟨i, next, told⟩ := signalEnd_upon Logged.alike (e := { e with state := .draining }) held sink now
      exact told ▸ next
    · exact held
  generalize (e.tried atEnd sink now).instance? = i at same
  generalize (e.logged.tried atEnd sink now).instance? = i' at same empty
  cases same with
  | none => exact .none
  | @some s l h => exact .some (h ▸ Logged.eq_fresh (empty l rfl))

/-- The polls of a drain, if it comes to poll, are what a pass hears from the instance after the marker was tried. -/
theorem polls_heard (e : Encoder σ) (atEnd : Bool) (sink : κ) (now : Nat) :
    e.polls atEnd sink now = [] ∨ ∃ s, (e.tried atEnd sink now).instance? = some s ∧
      Heard (Pass.patience atEnd) 0 s (e.polls atEnd sink now) := by
  have begun := e.tried_logged atEnd sink now
  unfold polls
  generalize (e.tried atEnd sink now).instance? = i at begun
  rcases e.logged.drain_of_tried atEnd sink now with kept | ⟨sink', collected⟩
  · rw [kept]
    generalize (e.logged.tried atEnd sink now).instance? = i' at begun
    cases begun with
    | none => exact .inl rfl
    | some log => exact .inl (congrArg Logged.answers log)
  · rw [collected]
    generalize held : (e.logged.tried atEnd sink now).instance? = i' at begun
    cases begun with
    | none =>
      left
      unfold collect
      rw [held]
      exact congrArg (fun i => (Option.map Logged.answers i).getD []) held
    | @some s _ log =>
      obtain ⟨l', last, new, answers, heard⟩ := collect_heard held atEnd sink'
      rw [log] at answers heard
      rw [last]
      exact .inr ⟨s, rfl, show Heard _ 0 s l'.answers from answers ▸ heard⟩

/-- A drain does with an instance that logs what it does with the instance alone. -/
theorem drain_logged (e : Encoder σ) (atEnd : Bool) (sink : κ) (now : Nat) :
    e.drain atEnd sink now = ((e.logged.drain atEnd sink now).1, (e.logged.drain atEnd sink now).2.1.unlogged,
      (e.logged.drain atEnd sink now).2.2) :=
  drain_upon_map (f := Logged.fresh) (fun _ => rfl) Logged.alike e atEnd sink now

/-- The outputs that an instance has to come once the marker was tried bound the polls of a drain. -/
theorem polls_length_le (e : Encoder σ) (atEnd : Bool) (sink : κ) (now : Nat) :
    (e.polls atEnd sink now).length ≤
      Pass.patience atEnd * ((e.tried atEnd sink now).ofInstance Coder.left + 1) := by
  rcases e.polls_heard atEnd sink now with none | ⟨s, held, heard⟩
  · rw [none]
    exact Nat.zero_le _
  · unfold ofInstance
    rw [held]
    have bound := heard.length_le (Pass.patience_pos atEnd)
    exact bound.trans (Nat.mul_le_mul_left _ (Nat.succ_le_succ heard.outputs_le))

/-- Where an output is never held back, the empty polls all come at the end. -/
theorem polls_length_le_of_prompt
    (prompt : ∀ (s : σ) (wait : Nat), (Coder.poll s wait).1 = .nothing → Coder.left s = 0) (e : Encoder σ)
    (atEnd : Bool) (sink : κ) (now : Nat) :
    (e.polls atEnd sink now).length ≤ (e.tried atEnd sink now).ofInstance Coder.left + Pass.patience atEnd := by
  rcases e.polls_heard atEnd sink now with none | ⟨s, held, heard⟩
  · rw [none]
    exact Nat.zero_le _
  · unfold ofInstance
    rw [held]
    exact heard.length_le_of_prompt prompt (Pass.patience_pos atEnd) (by omega)

end Encoder

/-! ## Instances whose answers are foretold -/

/-- An instance that answers polls from a sequence, in which outputs and empty polls come in any order, but only so
many outputs. In everything else it does as another instance. -/
structure Foretold (τ : Type) where
  rest : τ
  answers : Nat → Output
  few : {i | answers i ≠ .nothing}.Finite
  polled : Nat := 0

namespace Foretold

variable {τ : Type}

/-- How many outputs the polls that are still to come are answered with. -/
noncomputable def outputsAhead (s : Foretold τ) : Nat := {i | s.polled ≤ i ∧ s.answers i ≠ .nothing}.ncard

/-- The instance after a poll has been answered. -/
def next (s : Foretold τ) (rest : τ) : Foretold τ := { s with rest, polled := s.polled + 1 }

theorem finite_ahead (s : Foretold τ) : {i | s.polled ≤ i ∧ s.answers i ≠ .nothing}.Finite :=
  s.few.subset fun _ h => h.2

theorem ahead_next_subset (s : Foretold τ) (rest : τ) :
    {i | (s.next rest).polled ≤ i ∧ (s.next rest).answers i ≠ .nothing} ⊆
      {i | s.polled ≤ i ∧ s.answers i ≠ .nothing} :=
  fun _ h => ⟨Nat.le_of_succ_le h.1, h.2⟩

theorem outputsAhead_next_le (s : Foretold τ) (rest : τ) : (s.next rest).outputsAhead ≤ s.outputsAhead :=
  Set.ncard_le_ncard (s.ahead_next_subset rest) s.finite_ahead

/-- An output that is taken is no longer ahead. -/
theorem outputsAhead_next_lt (s : Foretold τ) (rest : τ) (h : s.answers s.polled ≠ .nothing) :
    (s.next rest).outputsAhead < s.outputsAhead := by
  refine Set.ncard_lt_ncard ⟨s.ahead_next_subset rest, fun back => ?_⟩ s.finite_ahead
  have again : s.polled + 1 ≤ s.polled := (back ⟨Nat.le_refl _, h⟩).1
  omega

noncomputable instance [Coder τ] : Coder (Foretold τ) where
  start s :=
    let (r, rest) := Coder.start s.rest
    (r, { s with rest })
  claim s wait :=
    let (slot, rest) := Coder.claim s.rest wait
    (slot, { s with rest })
  room? s := Coder.room? s.rest
  fill s slot picture := { s with rest := Coder.fill s.rest slot picture }
  queue s slot len pts flags :=
    let (r, rest) := Coder.queue s.rest slot len pts flags
    (r, { s with rest })
  poll s wait := (s.answers s.polled, s.next (Coder.poll s.rest wait).2)
  slot? s := Coder.slot? s.rest
  parameters? s := Coder.parameters? s.rest
  release s slot := { s with rest := Coder.release s.rest slot }
  stop s :=
    let (r, rest) := Coder.stop s.rest
    (r, { s with rest })
  left := outputsAhead
  left_poll_lt s _ := s.outputsAhead_next_lt _
  left_poll_le s _ := s.outputsAhead_next_le _
  left_release_le _ _ := Nat.le_refl _

end Foretold

/-- The loopback encoder has nothing left when it says so. -/
theorem Loopback.Instance.prompt (s : Loopback.Instance) (wait : Nat) (h : (Coder.poll s wait).1 = .nothing) :
    Coder.left s = 0 := by
  replace h : s.poll.1 = .nothing := h
  unfold Loopback.Instance.poll at h
  split at h
  · rename_i empty
    exact congrArg List.length empty
  · cases h
  · cases h

/-- The AVC encoder has nothing left when it says so. -/
theorem Avc.Instance.prompt {ε : Type} [Compressor ε] (s : Avc.Instance ε) (wait : Nat)
    (h : (Coder.poll s wait).1 = .nothing) : Coder.left s = 0 := by
  replace h : s.poll.1 = .nothing := h
  unfold Avc.Instance.poll at h
  split at h
  · rename_i empty
    exact congrArg List.length empty
  · cases h
  · cases h

namespace Encoder

/-- A drain comes to an end whatever the state of the session and whatever the sink answers. From an instance that
answers with `n` more outputs, in any order with empty polls, it takes at most `n + 1` polls, and at most
`10 * (n + 1)` where the end of the stream is waited for; from an instance of either backend at most `10` more than
there are events waiting once the marker was tried, whether or not the marker found a slot and is ever echoed. -/
theorem drain_polls_le {τ ε κ : Type} [Coder τ] [Compressor ε] [Sink κ] (sink : κ) (now : Nat) :
    (∀ {σ : Type} [Coder σ] (e : Encoder σ) (atEnd : Bool),
      e.drain atEnd sink now = ((e.logged.drain atEnd sink now).1, (e.logged.drain atEnd sink now).2.1.unlogged,
        (e.logged.drain atEnd sink now).2.2)) ∧
    (∀ e : Encoder (Foretold τ),
      (e.polls false sink now).length ≤ e.ofInstance Foretold.outputsAhead + 1 ∧
      (e.polls true sink now).length ≤ 10 * (e.ofInstance Foretold.outputsAhead + 1)) ∧
    (∀ e : Encoder Loopback.Instance,
      (e.polls true sink now).length ≤ (e.tried true sink now).ofInstance (·.pending.length) + 10) ∧
    ∀ e : Encoder (Avc.Instance ε),
      (e.polls true sink now).length ≤ (e.tried true sink now).ofInstance (·.pending.length) + 10 := by
  refine ⟨fun e atEnd => e.drain_logged atEnd sink now, fun e => ?_, fun e => ?_, fun e => ?_⟩
  · -- The marker leaves the outputs to come as they are.
    have ahead (atEnd : Bool) : (e.tried atEnd sink now).ofInstance Coder.left =
        e.ofInstance Foretold.outputsAhead :=
      congrArg (·.getD 0) (map_tried (fun _ _ => rfl) (fun _ _ _ _ _ => rfl) e atEnd sink now)
    have waiting := e.polls_length_le true sink now
    have passing := e.polls_length_le false sink now
    rw [ahead] at waiting passing
    exact ⟨by simpa [Pass.patience] using passing, waiting⟩
  · exact e.polls_length_le_of_prompt Loopback.Instance.prompt true sink now
  · exact e.polls_length_le_of_prompt Avc.Instance.prompt true sink now

end Encoder

end Camcorder
