import Mathlib
import Camcorder.Proofs.Encoding.Requests

/-!
# Sessions that are running

A session that is running stays so, with its format and an instance, however often it is given pictures and drained,
as long as the stream is not ended. So it has no occasion to refuse a request because of its state: what goes wrong with
a picture of the right length is the fault of the instance (`Encoder.Ready.submit_fails`), and a drain
is never refused (`Encoder.Ready.drain_fits`).
-/

namespace Camcorder

/-! ## How a drain ends -/

namespace Pass

variable {σ κ : Type} [Coder σ] [Sink κ]

/-- A drain ends well, misses the parameters of the stream, or breaks down. -/
inductive Ends : Attempt Unit → Prop where
  | well : Ends (.ok ())
  | withoutParameters : Ends (Attempt.refuse (.encoding .formatWithoutParameters))
  | broken (f : Fault) : Ends (Attempt.halt f)

omit [Coder σ] in
/-- Whatever the sink refuses, the drain goes on. -/
theorem offer_ends (p : Pass σ κ) (sample : Sample) : Ends (p.offer sample).1 := by
  unfold offer
  dsimp only
  split
  · exact .well
  · exact .well
  · exact .well
  · exact .broken _

theorem deliver_ends (p : Pass σ κ) (slot : Nat) (info : SampleInfo) : Ends (p.deliver slot info).1 := by
  unfold deliver
  split
  · exact .well
  · split
    · exact p.offer_ends _
    · exact .well

/-- A turn that ends a drain ends it with an answer that a drain can have. -/
theorem turn_ends {p p' : Pass σ κ} {atEnd : Bool} {r : Attempt Unit} (done : p.turn atEnd = .done r p') : Ends r := by
  unfold turn at done
  split at done
  · unfold takeNothing at done
    split at done
    · dsimp only at done
      split at done
      · cases done
        exact .well
      · cases done
    · cases done
      exact .well
  · unfold takeFormat at done
    split at done
    · cases done
      exact .well
    · split at done
      · cases done
        exact .withoutParameters
      · dsimp only at done
        split at done
        · cases done
        · cases done
        · cases done
          exact .broken _
  · rename_i slot info source _
    have delivered := ({ p with source, emptyPolls := 0 } : Pass σ κ).deliver_ends slot info
    unfold takeSample at done
    split at done
    · rename_i failed
      cases done
      rw [failed] at delivered
      exact delivered
    · dsimp only at done
      split at done
      · cases done
        exact .well
      · cases done

/-- A drain ends with such an answer. -/
theorem run_ends (p : Pass σ κ) (atEnd : Bool) : Ends (p.run atEnd).1 := by
  -- By induction on the turns: the last one says how the drain ends.
  fun_induction run p atEnd with
  | case1 p r p' done => exact turn_ends done
  | case2 p p' again ih => exact ih

end Pass

namespace Encoder

variable {σ : Type} {e : Encoder σ} {f : StreamFormat} {len : Nat}

/-! ## Staying ready -/

/-- The session is running, in the format `f`, with an instance. -/
structure Ready (f : StreamFormat) (e : Encoder σ) : Prop where
  state : e.state = .running
  format : e.format = some f
  allocated : e.isAllocated = true

theorem Ready.stamp (h : Ready f e) (now : Nat) : Ready f (e.stamp now).2 := ⟨h.state, h.format, h.allocated⟩

variable [Coder σ]

/-- An encoder is ready after a submission, however that is answered. -/
theorem Ready.submit (h : Ready f e) (picture : Bytes) (pts : Nat) : Ready f (e.submit picture pts).2 := by
  have allocated := (e.submit_isAllocated picture pts).trans h.allocated
  have kept : (e.submit picture pts).2.state = e.state ∧ (e.submit picture pts).2.format = e.format := by
    unfold Encoder.submit
    split
    · split
      · exact ⟨rfl, rfl⟩
      · split
        · exact ⟨rfl, rfl⟩
        · split
          · exact ⟨rfl, rfl⟩
          · split
            · exact ⟨rfl, rfl⟩
            · exact ⟨rfl, rfl⟩
    · exact ⟨rfl, rfl⟩
  exact ⟨kept.1.trans h.state, kept.2.trans h.format, allocated⟩

variable {κ : Type} [Sink κ]

/-- A session that is running drains its instance. -/
theorem Ready.drain_eq (h : Ready f e) (sink : κ) (now : Nat) : e.drain false sink now = e.collect false sink := by
  unfold Encoder.drain
  rw [h.state]

/-- An encoder is ready after a drain that is not the last one. -/
theorem Ready.drain (h : Ready f e) (sink : κ) (now : Nat) : Ready f (e.drain false sink now).2.1 := by
  have allocated := (e.drain_isAllocated false sink now).trans h.allocated
  have kept : (e.collect false sink).2.1.state = e.state ∧ (e.collect false sink).2.1.format = e.format := by
    unfold collect
    split
    · exact ⟨rfl, rfl⟩
    · exact ⟨rfl, rfl⟩
  rw [h.drain_eq sink now] at allocated ⊢
  exact ⟨kept.1.trans h.state, kept.2.trans h.format, allocated⟩

/-- A session that is running never refuses a drain because of its state. -/
theorem Ready.drain_fits (h : Ready f e) (sink : κ) (now : Nat) (cause : StateCause) :
    (e.drain false sink now).1 ≠ Attempt.refuse (.invalidState cause) := by
  obtain ⟨coder, held⟩ := Option.isSome_iff_exists.mp h.allocated
  have ended := ({ source := coder, sink, delivered := e.formatDelivered } : Pass σ κ).run_ends false
  have answer : (e.drain false sink now).1 =
      (({ source := coder, sink, delivered := e.formatDelivered } : Pass σ κ).run false).1.map fun _ =>
        (({ source := coder, sink, delivered := e.formatDelivered } : Pass σ κ).run false).2.tally := by
    rw [h.drain_eq sink now]
    unfold collect
    rw [held]
  rw [answer]
  generalize (({ source := coder, sink, delivered := e.formatDelivered } : Pass σ κ).run false) = r at ended ⊢
  obtain ⟨r, p⟩ := r
  cases ended with
  | well => nofun
  | withoutParameters => nofun
  | broken f => nofun

/-! ## What an instance refuses -/

omit [Sink κ] in
/-- How an instance fails a picture: the slot that it hands out has no buffer, or one that is too short, or it does not
take the slot back. -/
inductive Fails (coder : σ) (picture : Bytes) (pts : Nat) : Failure → Prop where
  | withoutBuffer {slot : Nat} {coder' : σ} (claimed : Coder.claim coder inputWait = (some slot, coder'))
      (missing : Coder.room? coder' slot = none) : Fails coder picture pts (.error (.encoding (.slotWithoutBuffer slot)))
  | tooShort {slot room : Nat} {coder' : σ} (claimed : Coder.claim coder inputWait = (some slot, coder'))
      (buffer : Coder.room? coder' slot = some room) (short : room < picture.size) :
      Fails coder picture pts (.error (.encoding (.slotTooShort slot room picture.size)))
  | notQueued {slot room : Nat} {coder' coder'' : σ} {failure : Failure}
      (claimed : Coder.claim coder inputWait = (some slot, coder')) (buffer : Coder.room? coder' slot = some room)
      (refused : Coder.queue (Coder.fill coder' slot picture) slot picture.size pts .none = (.error failure, coder'')) :
      Fails coder picture pts failure

/-- A picture is refused only in one of these ways. -/
theorem feed_fails {coder : σ} {picture : Bytes} {pts : Nat} {failure : Failure}
    (failed : (feed coder picture pts).1 = .error failure) : Fails coder picture pts failure := by
  unfold feed at failed
  rcases claimed : Coder.claim coder inputWait with ⟨_ | slot, coder'⟩
  · rw [claimed] at failed
    cases failed
  · rw [claimed] at failed
    dsimp only at failed
    cases buffer : Coder.room? coder' slot with
    | none =>
      rw [buffer] at failed
      cases failed
      exact .withoutBuffer claimed buffer
    | some room =>
      rw [buffer] at failed
      dsimp only at failed
      by_cases short : room < picture.size
      · rw [if_pos short] at failed
        cases failed
        exact .tooShort claimed buffer short
      · rw [if_neg short] at failed
        rcases refused : Coder.queue (Coder.fill coder' slot picture) slot picture.size pts .none with ⟨_ | _, coder''⟩
        · rw [refused] at failed
          cases failed
          exact .notQueued claimed buffer refused
        · rw [refused] at failed
          cases failed

/-- What goes wrong with a picture of the right length is the fault of the instance. -/
theorem Ready.submit_fails (h : Ready f e) (length : f.inputLength? = some len) {picture : Bytes}
    (size : picture.size = len) {pts : Nat} {failure : Failure} (failed : (e.submit picture pts).1 = .error failure) :
    ∃ coder, e.instance? = some coder ∧ Fails coder picture pts failure := by
  obtain ⟨coder, held⟩ := Option.isSome_iff_exists.mp h.allocated
  rcases submit_running h.state held h.format length picture pts with ⟨_, _, submitted⟩ | ⟨differs, _⟩
  · rw [submitted] at failed
    exact ⟨coder, held, feed_fails failed⟩
  · exact absurd size differs

end Encoder

end Camcorder
