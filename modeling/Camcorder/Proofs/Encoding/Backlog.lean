import Mathlib
import Camcorder.Proofs.Encoding.Delivery

/-!
# What one drain takes

An instance whose outputs wait in a line is `Orderly`; its `backlog` is that line. `haul` says which part of a
backlog one drain passes on and what it leaves, and `due` what the sink is still to be given in all.
`Pass.run_cases` is the main statement: a drain of an orderly instance takes its haul, unless the sink breaks down.
-/

namespace Camcorder

/-- Whether the sample holds a picture, and not only parameters or nothing. -/
def Sample.holdsPicture (s : Sample) : Bool := !(s.info.flags.codecConfig || s.info.size == 0)

namespace Delivery

def isFormat : Delivery → Bool
  | .format _ => true
  | .sample _ => false

/-- Whether it is the sample that ends the stream. -/
def endsStream : Delivery → Bool
  | .format _ => false
  | .sample s => s.info.flags.endOfStream

/-- What a sink is given of a sample. -/
def ofSample (s : Sample) : List Delivery := if s.holdsPicture then [.sample s] else []

/-- A sample that holds a picture is delivered as it is. -/
theorem ofSample_of_picture {s : Sample} (config : s.info.flags.codecConfig = false) (size : s.info.size ≠ 0) :
    ofSample s = [.sample s] := by
  have holds : s.holdsPicture = true := by simp [Sample.holdsPicture, config, size]
  unfold ofSample
  rw [if_pos holds]

/-- The sample that ends a stream. -/
def mark (pts : Nat) : Delivery :=
  .sample { data := #[], info := { size := 0, pts, flags := { endOfStream := true } } }

/-- How often the format is announced. -/
def formats (l : List Delivery) : Nat := l.countP isFormat

@[simp] theorem formats_mark (l : List Delivery) (pts : Nat) : formats (l ++ [mark pts]) = formats l := by
  simp [formats, mark, isFormat]

/-- The end of the stream comes last, if it comes at all. -/
def EndsLast (l : List Delivery) : Prop :=
  ∀ before d after, l = before ++ d :: after → d.endsStream = true → after = []

/-- What is left of a list that ends last ends last. -/
theorem EndsLast.of_suffix {l m : List Delivery} (h : EndsLast l) (hs : m <:+ l) : EndsLast m := by
  rcases hs with ⟨front, rfl⟩
  intro before d after hm
  exact h (front ++ before) d after (by rw [hm, List.append_assoc])

theorem endsLast_concat {l : List Delivery} (h : ∀ d ∈ l, d.endsStream = false) (d : Delivery) :
    EndsLast (l ++ [d]) := by
  intro before e after hl he
  rcases List.eq_nil_or_concat after with rfl | ⟨after, last, rfl⟩
  · rfl
  · -- What does not come last would have to be in `l`, where nothing ends the stream.
    exfalso
    have hmem : e ∈ l := by
      rw [List.concat_eq_append, ← List.cons_append, ← List.append_assoc] at hl
      rw [(List.append_inj' hl rfl).1]
      simp
    rw [h e hmem] at he
    cases he

/-- A list in which nothing ends the stream ends last. -/
theorem endsLast_of_forall {l : List Delivery} (h : ∀ d ∈ l, d.endsStream = false) : EndsLast l := by
  intro before d after hl he
  rw [h d (by simp [hl])] at he
  cases he

/-! ## What is due -/

/-- What a sink is still to be given of a backlog: the pictures, and the parameters if it does not have them. -/
def due : (delivered : Bool) → List Delivery → List Delivery
  | _, [] => []
  | true, .format _ :: l => due true l
  | false, .format q :: l => .format q :: due true l
  | d, .sample s :: l => ofSample s ++ due d l

/-- What is due of two lists: after a format in the first, that of the second is not due. -/
theorem due_append (d : Bool) (l m : List Delivery) :
    due d (l ++ m) = due d l ++ due (d || l.any isFormat) m := by
  induction l generalizing d with
  | nil => simp [due]
  | cons x l ih =>
    cases x with
    | format q => cases d <;> simp [due, ih, isFormat]
    | sample s => simp [due, ih, isFormat]

@[simp] theorem due_mark (d : Bool) (pts : Nat) : due d [mark pts] = [] := by
  simp [due, mark, ofSample, Sample.holdsPicture]

/-! ## What one drain takes of it -/

/-- The outcome of one drain. -/
structure Haul where
  given : List Delivery := []
  left : List Delivery := []
  /-- Whether the sink has the parameters now. -/
  delivered : Bool

/-- A haul that begins with other deliveries. -/
def Haul.after (front : List Delivery) (t : Haul) : Haul := { t with given := front ++ t.given }

/-- What one drain takes of a backlog: all of it, unless it meets a second announcement of the format or the end
of the stream. -/
def haul : (delivered : Bool) → List Delivery → Haul
  | d, [] => { delivered := d }
  | true, .format _ :: l => { left := l, delivered := true }
  | false, .format q :: l => (haul true l).after [.format q]
  | d, .sample s :: l =>
    if s.info.flags.endOfStream then { given := ofSample s, left := l, delivered := d }
    else (haul d l).after (ofSample s)

/-- What a haul gives, and what is due of the rest, is what was due of all. -/
theorem given_append_due (d : Bool) (l : List Delivery) :
    (haul d l).given ++ due (haul d l).delivered (haul d l).left = due d l := by
  induction l generalizing d with
  | nil => rfl
  | cons x l ih =>
    cases x with
    | format q =>
      cases d with
      | true => rfl
      | false => simpa [haul, due, Haul.after] using ih true
    | sample s =>
      unfold haul
      split
      · rfl
      · simpa [due, Haul.after] using ih d

/-- A haul leaves an end of the list. -/
theorem left_suffix (d : Bool) (l : List Delivery) : (haul d l).left <:+ l := by
  induction l generalizing d with
  | nil => exact List.suffix_rfl
  | cons x l ih =>
    cases x with
    | format q =>
      cases d with
      | true => exact List.suffix_cons _ _
      | false => exact (ih true).trans (List.suffix_cons _ _)
    | sample s =>
      unfold haul
      split
      · exact List.suffix_cons _ _
      · exact (ih d).trans (List.suffix_cons _ _)

/-- A drain that does not take all of a backlog takes an announcement of the format away. -/
theorem left_eq_nil_or_formats_lt (d : Bool) {l : List Delivery} (h : EndsLast l) :
    (haul d l).left = [] ∨ formats (haul d l).left < formats l := by
  induction l generalizing d with
  | nil => exact .inl rfl
  | cons x l ih =>
    have tail : EndsLast l := h.of_suffix (List.suffix_cons _ _)
    cases x with
    | format q =>
      have more : formats (.format q :: l) = formats l + 1 := List.countP_cons_of_pos rfl
      cases d with
      | true =>
        -- The drain ends here, and takes the announcement with it.
        right
        rw [more]
        exact Nat.lt_succ_self _
      | false =>
        rcases ih true tail with none | fewer
        · exact .inl none
        · exact .inr (fewer.trans (by omega))
    | sample s =>
      have same : formats (.sample s :: l) = formats l := List.countP_cons_of_neg nofun
      unfold haul
      split
      · -- The stream ends here, and nothing comes after its end.
        left
        exact h [] (.sample s) l rfl ‹_›
      · rw [same]
        exact ih d tail

/-- A drain keeps in mind whether the format was announced. -/
theorem announced_haul (d : Bool) (l : List Delivery) :
    ((haul d l).delivered || (haul d l).left.any isFormat) = (d || l.any isFormat) := by
  induction l generalizing d with
  | nil => rfl
  | cons x l ih =>
    cases x with
    | format q =>
      cases d with
      | true => rfl
      | false => simpa [haul, Haul.after, isFormat] using ih true
    | sample s =>
      unfold haul
      split
      · simp [isFormat]
      · simpa [Haul.after, isFormat] using ih d

/-- A drain adds no announcements of the format. -/
theorem formats_haul_le (d : Bool) (l : List Delivery) :
    formats (haul d l).left + (haul d l).delivered.toNat ≤ formats l + d.toNat := by
  induction l generalizing d with
  | nil => exact Nat.le_refl _
  | cons x l ih =>
    cases x with
    | format q =>
      have more : formats (.format q :: l) = formats l + 1 := List.countP_cons_of_pos rfl
      rw [more]
      cases d with
      | true => exact Nat.add_le_add_right (Nat.le_succ _) _
      | false => exact ih true
    | sample s =>
      have same : formats (.sample s :: l) = formats l := List.countP_cons_of_neg nofun
      rw [same]
      unfold haul
      split
      · exact Nat.le_refl _
      · exact ih d

/-- A drain takes all of a backlog if the format is announced only once. -/
theorem left_eq_nil {d : Bool} {l : List Delivery} (h : EndsLast l) (once : formats l + d.toNat ≤ 1) :
    (haul d l).left = [] := by
  induction l generalizing d with
  | nil => rfl
  | cons x l ih =>
    have tail : EndsLast l := h.of_suffix (List.suffix_cons _ _)
    cases x with
    | format q =>
      have more : formats (.format q :: l) = formats l + 1 := List.countP_cons_of_pos rfl
      cases d with
      | true =>
        exfalso
        rw [more, Bool.toNat_true] at once
        omega
      | false =>
        rw [more] at once
        exact ih tail once
    | sample s =>
      have same : formats (.sample s :: l) = formats l := List.countP_cons_of_neg nofun
      rw [same] at once
      unfold haul
      split
      · exact h [] (.sample s) l rfl ‹_›
      · exact ih tail once

end Delivery

/-! ## Sinks and what they take -/

namespace Sink

variable {κ : Type} [Sink κ]

/-- Gives a sink one thing. -/
def give (k : κ) : Delivery → Attempt Unit × κ
  | .format q => Sink.register k q
  | .sample s => Sink.accept k s

/-- `Takes k l k'`: given the deliveries `l`, the sink `k` answers each of them and becomes `k'`. Notices may come
in between. -/
inductive Takes : κ → List Delivery → κ → Prop where
  | nil (k : κ) : Takes k [] k
  | give {k k' : κ} {d : Delivery} {l : List Delivery} (answered : ∀ f, (give k d).1 ≠ .error (.fault f))
      (rest : Takes (give k d).2 l k') : Takes k (d :: l) k'
  | note {k k' : κ} {l : List Delivery} (n : Notice) (rest : Takes (Sink.note k n) l k') : Takes k l k'

/-- Given the deliveries, the sink breaks down at one of them. -/
inductive Breaks : κ → List Delivery → Prop where
  | here {k : κ} {d : Delivery} {l : List Delivery} {f : Fault} (broken : (give k d).1 = .error (.fault f)) :
      Breaks k (d :: l)
  | later {k : κ} {d : Delivery} {l : List Delivery} (rest : Breaks (give k d).2 l) : Breaks k (d :: l)
  | note {k : κ} {l : List Delivery} (n : Notice) (rest : Breaks (Sink.note k n) l) : Breaks k l

/-- A sink that takes one list and then another takes both. -/
theorem Takes.append {k k' k'' : κ} {l m : List Delivery} (h : Takes k l k') (h' : Takes k' m k'') :
    Takes k (l ++ m) k'' := by
  induction h with
  | nil k => exact h'
  | give answered _ ih => exact .give answered (ih h')
  | note n _ ih => exact .note n (ih h')

/-- A sink may break down over what comes later. -/
theorem Breaks.after {k k' : κ} {l m : List Delivery} (h : Takes k l k') (h' : Breaks k' m) :
    Breaks k (l ++ m) := by
  induction h with
  | nil k => exact h'
  | give _ _ ih => exact .later (ih h')
  | note n _ ih => exact .note n (ih h')

theorem Breaks.append {k : κ} {l : List Delivery} (h : Breaks k l) (m : List Delivery) : Breaks k (l ++ m) := by
  induction h with
  | here broken => exact .here broken
  | later _ ih => exact .later ih
  | note n _ ih => exact .note n ih

/-- A sink that always answers does not break down. -/
theorem not_breaks [Answering κ] (k : κ) (l : List Delivery) : ¬ Breaks k l := by
  intro h
  induction h with
  | @here k d l f broken =>
    cases d with
    | format q => exact Answering.register_ne k q f broken
    | sample s => exact Answering.accept_ne k s f broken
  | later _ ih => exact ih
  | note _ _ ih => exact ih

end Sink

/-! ## Orderly instances -/

/-- Instances whose outputs wait in a line: a poll takes the first of them, and what a slot holds stays there until
it is released. -/
class Orderly (σ : Type) [Coder σ] where
  /-- What holds between two requests of a session. -/
  Sound : σ → Prop
  /-- The outputs that wait. -/
  backlog : σ → List Delivery
  /-- The part of an instance that taking outputs does not touch. -/
  core : σ → σ
  poll_nil : ∀ {s : σ} (wait : Nat), backlog s = [] → Coder.poll s wait = (.nothing, s)
  poll_format : ∀ {s : σ} {q : CodecParameters} {l : List Delivery} (wait : Nat), Sound s →
    backlog s = .format q :: l →
    ∃ s', Coder.poll s wait = (.format, s') ∧ Coder.parameters? s' = some q ∧
      Sound s' ∧ backlog s' = l ∧ core s' = core s
  poll_sample : ∀ {s : σ} {x : Sample} {l : List Delivery} (wait : Nat), Sound s → backlog s = .sample x :: l →
    ∃ s' slot, Coder.poll s wait = (.sample slot x.info, s') ∧ Coder.slot? s' slot = some x.data ∧
      Sound (Coder.release s' slot) ∧ backlog (Coder.release s' slot) = l ∧ core (Coder.release s' slot) = core s
  claim_none : ∀ {s s' : σ} (wait : Nat), Coder.claim s wait = (none, s') → s' = s
  /-- The marker that ends the stream is echoed after all that waits, or swallowed. -/
  queue_end : ∀ {s s' : σ} {slot : Nat} (wait pts : Nat), Sound s → Coder.claim s wait = (some slot, s') →
    ∃ s'', Coder.queue s' slot 0 pts { endOfStream := true } = (.ok (), s'') ∧ Sound s'' ∧
      (backlog s'' = backlog s ∨ backlog s'' = backlog s ++ [.mark pts])

namespace Pass

open Delivery Orderly

variable {σ κ : Type} [Coder σ] [Orderly σ] [Sink κ]

/-- What a drain that began with the pass `p` comes to if it takes the haul `t`. -/
structure Took (p : Pass σ (Observed κ)) (t : Haul) (r : Attempt Unit × Pass σ (Observed κ)) : Prop where
  answer : r.1 = .ok ()
  sound : Sound r.2.source
  backlog : backlog r.2.source = t.left
  core : core r.2.source = core p.source
  heard : r.2.sink.heard = p.sink.heard ++ t.given
  delivered : r.2.delivered = t.delivered
  takes : Sink.Takes p.sink.sink t.given r.2.sink.sink

/-- With no backlog a turn takes nothing. -/
theorem turn_of_nil (p : Pass σ (Observed κ)) (atEnd : Bool) (h : Orderly.backlog p.source = []) :
    p.turn atEnd = p.takeNothing atEnd := by
  unfold turn
  rw [poll_nil _ h]

/-- Empty polls change nothing but what is noted and counted. -/
theorem run_of_nil (p : Pass σ (Observed κ)) (atEnd : Bool) (hs : Sound p.source)
    (h : Orderly.backlog p.source = []) : p.Took { delivered := p.delivered } (p.run atEnd) := by
  -- By induction on the turns: all of them are empty polls, at the end several in a row.
  fun_induction run p atEnd with
  | case1 p r p' turn =>
    rw [turn_of_nil p atEnd h] at turn
    simp only [takeNothing] at turn
    split at turn
    · split at turn
      · cases turn
        exact ⟨rfl, hs, h, rfl, (List.append_nil _).symm, rfl, .note _ (.nil _)⟩
      · cases turn
    · cases turn
      exact ⟨rfl, hs, h, rfl, (List.append_nil _).symm, rfl, .nil _⟩
  | case2 p p' turn ih =>
    rw [turn_of_nil p atEnd h] at turn
    simp only [takeNothing] at turn
    split at turn
    · split at turn
      · cases turn
      · cases turn
        have t := ih hs h
        exact ⟨t.answer, t.sound, t.backlog, t.core, t.heard, t.delivered, t.takes⟩
    · cases turn

omit [Orderly σ] in
/-- A sample that was polled is offered if it holds a picture; its slot is not touched yet. -/
theorem deliver_cases (p : Pass σ (Observed κ)) {slot : Nat} {x : Sample}
    (hx : Coder.slot? p.source slot = some x.data) :
    (∃ f, (p.deliver slot x.info).1 = .error (.fault f) ∧ Sink.Breaks p.sink.sink (ofSample x)) ∨
    (∃ o t, p.deliver slot x.info = (.ok (), { p with sink := o, tally := t }) ∧
      o.heard = p.sink.heard ++ ofSample x ∧ Sink.Takes p.sink.sink (ofSample x) o.sink) := by
  by_cases hp : x.info.flags.codecConfig || x.info.size == 0
  · have none : ofSample x = [] := by simp only [ofSample, Sample.holdsPicture, hp]; rfl
    refine .inr ⟨p.sink, p.skip.tally, ?_, by rw [none, List.append_nil], by rw [none]; exact .nil _⟩
    simp only [deliver, hp, if_true]
    rfl
  · have one : ofSample x = [.sample x] := by simp only [ofSample, Sample.holdsPicture, hp]; rfl
    have offered : p.deliver slot x.info = p.offer x := by
      simp only [deliver, hp, hx]
      rfl
    rw [offered, one]
    simp only [offer, Sink.accept]
    have given : Sink.give p.sink.sink (.sample x) = Sink.accept p.sink.sink x := rfl
    rcases h : Sink.accept p.sink.sink x with ⟨r, k⟩
    rw [h] at given
    rcases r with (e | f) | u
    · right
      have takes : Sink.Takes p.sink.sink [.sample x] (Sink.note k (.sampleRejected x.info.pts e)) :=
        .give (by simp [given]) (by rw [given]; exact .note _ (.nil _))
      have takes' : Sink.Takes p.sink.sink [.sample x] k :=
        .give (by simp [given]) (by rw [given]; exact .nil _)
      cases e <;> first | exact ⟨_, _, rfl, rfl, takes⟩ | exact ⟨_, _, rfl, rfl, takes'⟩
    · exact .inl ⟨f, rfl, .here (by rw [given])⟩
    · exact .inr ⟨_, _, rfl, rfl, .give (by simp [given]) (by rw [given]; exact .nil _)⟩

theorem Took.after {p p' : Pass σ (Observed κ)} {front : List Delivery} {t : Haul}
    {r : Attempt Unit × Pass σ (Observed κ)} (h : p'.Took t r)
    (core : Orderly.core p'.source = Orderly.core p.source) (heard : p'.sink.heard = p.sink.heard ++ front)
    (takes : Sink.Takes p.sink.sink front p'.sink.sink) : p.Took (t.after front) r :=
  ⟨h.answer, h.sound, h.backlog, h.core.trans core, by rw [h.heard, heard, List.append_assoc]; rfl, h.delivered,
    takes.append h.takes⟩

/-- A drain of an orderly instance takes its haul, unless the sink breaks down over it. -/
theorem run_cases (p : Pass σ (Observed κ)) (atEnd : Bool) (hs : Sound p.source) :
    (∃ f, (p.run atEnd).1 = .error (.fault f) ∧
      Sink.Breaks p.sink.sink (haul p.delivered (Orderly.backlog p.source)).given) ∨
    p.Took (haul p.delivered (Orderly.backlog p.source)) (p.run atEnd) := by
  -- By induction on the line: a turn takes what comes first, and the rest is another drain.
  induction hl : Orderly.backlog p.source generalizing p with
  | nil => exact .inr (run_of_nil p atEnd hs hl)
  | cons d l ih =>
    cases d with
    | format q =>
      rcases poll_format (if atEnd then endWait else 0) hs hl with ⟨s, poll, params, hs', hl', core⟩
      cases hd : p.delivered with
      | true =>
        -- The format was announced before: the drain ends here.
        have turn : p.turn atEnd = .done (.ok ())
            { p with source := s, emptyPolls := 0, sink := Sink.note p.sink .formatRepeated } := by
          simp only [turn, poll, takeFormat, hd, if_true]
        rw [run_of_done turn]
        exact .inr ⟨rfl, hs', hl', core, (List.append_nil _).symm, hd, .note _ (.nil _)⟩
      | false =>
        -- The sink hears of the format. If it refuses, the drain goes on all the same.
        have turn : p.turn atEnd = { p with source := s, emptyPolls := 0 }.takeFormat := by
          simp only [turn, poll]
        have given : Sink.give p.sink.sink (.format q) = Sink.register p.sink.sink q := rfl
        simp only [takeFormat, hd, params, Sink.register] at turn
        rcases hr : Sink.register p.sink.sink q with ⟨r, k⟩
        rw [hr] at given turn
        have further (k' : κ) (tally : Tally) (takes : Sink.Takes p.sink.sink [.format q] k') :
            let p' : Pass σ (Observed κ) :=
              { source := s, sink := { sink := k', heard := p.sink.heard ++ [.format q] }, delivered := true, tally }
            (∃ f, (p'.run atEnd).1 = .error (.fault f) ∧
              Sink.Breaks p.sink.sink ((haul true l).after [.format q]).given) ∨
            p.Took ((haul true l).after [.format q]) (p'.run atEnd) := by
          intro p'
          rcases ih p' hs' hl' with ⟨f, fault, breaks⟩ | took
          · exact .inl ⟨f, fault, .after takes breaks⟩
          · exact .inr (took.after core rfl takes)
        rcases r with (e | f) | u
        · rw [run_of_again turn]
          exact further _ _ (.give (by simp [given]) (by rw [given]; exact .note _ (.nil _)))
        · rw [run_of_done turn]
          exact .inl ⟨f, rfl, .here (by rw [given])⟩
        · rw [run_of_again turn]
          exact further _ _ (.give (by simp [given]) (by rw [given]; exact .nil _))
    | sample x =>
      rcases poll_sample (if atEnd then endWait else 0) hs hl with ⟨s, slot, poll, held, hs', hl', core⟩
      have turn : p.turn atEnd = { p with source := s, emptyPolls := 0 }.takeSample slot x.info := by
        simp only [turn, poll]
      simp only [takeSample] at turn
      rcases deliver_cases { p with source := s, emptyPolls := 0 } held with
        ⟨f, fault, breaks⟩ | ⟨o, t, delivered, heard, takes⟩
      · -- The sink broke down over this sample.
        rcases hd : { p with source := s, emptyPolls := 0 }.deliver slot x.info with ⟨r, p'⟩
        rw [hd] at fault turn
        simp only at fault
        subst fault
        rw [run_of_done turn]
        refine .inl ⟨f, rfl, ?_⟩
        unfold haul
        split
        · exact breaks
        · exact breaks.append _
      · rw [delivered] at turn
        simp only at turn
        unfold haul
        split at turn
        · rename_i ends
          rw [run_of_done turn, if_pos ends]
          exact .inr ⟨rfl, hs', hl', core, heard, rfl, takes⟩
        · rename_i ends
          rw [run_of_again turn, if_neg ends]
          let p' : Pass σ (Observed κ) :=
            { source := Coder.release s slot, sink := o, delivered := p.delivered, tally := t, emptyPolls := 0 }
          rcases ih p' hs' hl' with ⟨f, fault, breaks⟩ | took
          · exact .inl ⟨f, fault, .after takes breaks⟩
          · exact .inr (took.after core heard takes)

end Pass

end Camcorder
