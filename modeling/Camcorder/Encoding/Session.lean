import Camcorder.Encoding.Coder

/-!
# Encoder sessions

An `Encoder` leads one encoder instance through its life: it is configured, opened, fed with pictures, drained and
closed. Its state only moves forward, and a request that does not fit the state is refused without effect.

A drain is a sequence of turns, one for each poll. `Pass.turn` says what happens in one of them, and
`Pass.weight_lt_of_turn` why there is a last one.
-/

namespace Camcorder

/-- The stages of an encoder session. -/
inductive EncoderState where
  | unconfigured
  | configured
  | running
  | draining
  | closed
deriving DecidableEq, Repr

namespace EncoderState

def all : List EncoderState := [.unconfigured, .configured, .running, .draining, .closed]

def name : EncoderState → String
  | .unconfigured => "unconfigured"
  | .configured => "configured"
  | .running => "running"
  | .draining => "draining"
  | .closed => "closed"

end EncoderState

/-- What became of a submitted picture. -/
inductive Submission where
  | queued (pts : Nat)
  /-- No input slot was free in time. -/
  | dropped
deriving DecidableEq, Repr

/-- What happened in a drain. -/
structure Tally where
  /-- Samples that the sink accepted. -/
  forwarded : Nat := 0
  /-- Samples that the sink refused. -/
  rejected : Nat := 0
  /-- Samples that hold parameters or nothing, or cannot be read. -/
  skipped : Nat := 0
  formatEvents : Nat := 0
  /-- Whether the sample that ends the stream was seen. -/
  endOfStream : Bool := false
deriving DecidableEq, Repr

/-- An encoder session around an instance of type `σ`. -/
structure Encoder (σ : Type) where
  state : EncoderState := .unconfigured
  format : Option StreamFormat := none
  instance? : Option σ := none
  /-- The time stamp given last. -/
  lastPts : Nat := 0
  /-- Whether the sink was told the parameters of the stream. -/
  formatDelivered : Bool := false
  framesQueued : Nat := 0

/-! ## Drains -/

/-- A drain under way. -/
structure Pass (σ κ : Type) where
  source : σ
  sink : κ
  delivered : Bool
  tally : Tally := {}
  /-- Polls in a row that came back with nothing. -/
  emptyPolls : Nat := 0

namespace Pass

variable {σ κ : Type} [Coder σ] [Sink κ]

/-- Milliseconds to wait for each output at the end of a stream. -/
def endWait : Nat := 10

/-- Empty polls in a row after which the end of the stream is no longer waited for. -/
def maxEmptyPolls : Nat := 10

/-- How a turn ends. -/
inductive Turn (σ κ : Type) where
  | again (p : Pass σ κ)
  | done (r : Attempt Unit) (p : Pass σ κ)

/-- The stream has been given its parameters. A second time ends the drain; the first time the sink is told, and
its refusal is noted. -/
def takeFormat (p : Pass σ κ) : Turn σ κ :=
  if p.delivered then .done (.ok ()) { p with sink := Sink.note p.sink .formatRepeated }
  else match Coder.parameters? p.source with
    | none => .done (Attempt.refuse (.encoding .formatWithoutParameters)) p
    | some parameters =>
      let p := { p with
        delivered := true
        tally := { p.tally with formatEvents := p.tally.formatEvents + 1 } }
      match Sink.register p.sink parameters with
      | (.ok (), sink) => .again { p with sink }
      | (.error (.error e), sink) => .again { p with sink := Sink.note sink (.formatRejected e) }
      | (.error (.fault f), sink) => .done (Attempt.halt f) { p with sink }

/-- Offers a sample to the sink and counts its answer. -/
def offer (p : Pass σ κ) (sample : Sample) : Attempt Unit × Pass σ κ :=
  let rejected := { p.tally with rejected := p.tally.rejected + 1 }
  match Sink.accept p.sink sample with
  | (.ok (), sink) => (.ok (), { p with sink, tally := { p.tally with forwarded := p.tally.forwarded + 1 } })
  | (.error (.error .muxerNotReady), sink) => (.ok (), { p with sink, tally := rejected })
  | (.error (.error e), sink) =>
    (.ok (), { p with sink := Sink.note sink (.sampleRejected sample.info.pts e), tally := rejected })
  | (.error (.fault f), sink) => (Attempt.halt f, { p with sink })

/-- Counts a sample that is not offered. -/
def skip (p : Pass σ κ) : Pass σ κ :=
  { p with tally := { p.tally with skipped := p.tally.skipped + 1 } }

/-- Deals with a sample: it is offered to the sink unless it holds no picture, and its slot is released. -/
def deliver (p : Pass σ κ) (slot : Nat) (info : SampleInfo) : Attempt Unit × Pass σ κ :=
  if info.flags.codecConfig || info.size == 0 then (.ok (), p.skip)
  else match Coder.slot? p.source slot with
    | some data => p.offer { data, info }
    | none => (.ok (), { p with sink := Sink.note p.sink (.outputWithoutBuffer slot) }.skip)

/-- Delivers a sample and releases its slot; the drain ends with the sample that ends the stream. -/
def takeSample (p : Pass σ κ) (slot : Nat) (info : SampleInfo) : Turn σ κ :=
  match p.deliver slot info with
  | (.error e, p) => .done (.error e) p
  | (.ok (), p) =>
    let p := { p with source := Coder.release p.source slot }
    if info.flags.endOfStream then .done (.ok ()) { p with tally := { p.tally with endOfStream := true } }
    else .again p

/-- An empty poll. It ends the drain, unless the end of the stream is waited for and may still come. -/
def takeNothing (p : Pass σ κ) (atEnd : Bool) : Turn σ κ :=
  if atEnd then
    let p := { p with emptyPolls := p.emptyPolls + 1 }
    if maxEmptyPolls ≤ p.emptyPolls then .done (.ok ()) { p with sink := Sink.note p.sink (.endNotSeen p.emptyPolls) }
    else .again p
  else .done (.ok ()) p

/-- Polls once and deals with the answer. -/
def turn (p : Pass σ κ) (atEnd : Bool) : Turn σ κ :=
  match Coder.poll p.source (if atEnd then endWait else 0) with
  | (.nothing, source) => { p with source }.takeNothing atEnd
  | (.format, source) => { p with source, emptyPolls := 0 }.takeFormat
  | (.sample slot info, source) => { p with source, emptyPolls := 0 }.takeSample slot info

/-- What is left of a drain: the outputs to come, each of which allows for as many empty polls as are waited for. -/
def weight (p : Pass σ κ) : Nat := (maxEmptyPolls + 1) * Coder.left p.source + (maxEmptyPolls - p.emptyPolls)

omit [Coder σ] in
theorem source_of_offer (p : Pass σ κ) (sample : Sample) :
    (p.offer sample).2.source = p.source ∧ (p.offer sample).2.emptyPolls = p.emptyPolls := by
  simp only [offer]
  split <;> simp

theorem source_of_deliver (p : Pass σ κ) (slot : Nat) (info : SampleInfo) :
    (p.deliver slot info).2.source = p.source ∧ (p.deliver slot info).2.emptyPolls = p.emptyPolls := by
  simp only [deliver]
  split
  · simp [skip]
  · split
    · exact source_of_offer p _
    · simp [skip]

theorem source_of_takeFormat {p p' : Pass σ κ} (h : p.takeFormat = .again p') :
    p'.source = p.source ∧ p'.emptyPolls = p.emptyPolls := by
  simp only [takeFormat] at h
  split at h
  · cases h
  · split at h
    · cases h
    · split at h <;> cases h <;> simp

theorem source_of_takeSample {p p' : Pass σ κ} {slot : Nat} {info : SampleInfo}
    (h : p.takeSample slot info = .again p') :
    p'.source = Coder.release p.source slot ∧ p'.emptyPolls = p.emptyPolls := by
  have kept := source_of_deliver p slot info
  simp only [takeSample] at h
  split at h
  · cases h
  · rename_i hd
    rw [hd] at kept
    split at h
    · cases h
    · cases h
      exact ⟨congrArg (Coder.release · slot) kept.1, kept.2⟩

/-- A turn that is not the last one leaves less to be done. -/
theorem weight_lt_of_turn {p p' : Pass σ κ} {atEnd : Bool} (h : p.turn atEnd = .again p') :
    p'.weight < p.weight := by
  have le := Coder.left_poll_le p.source (if atEnd then endWait else 0)
  have lt := Coder.left_poll_lt p.source (if atEnd then endWait else 0)
  simp only [turn] at h
  split at h <;> rename_i hp <;> simp only [hp] at le lt
  · simp only [takeNothing] at h
    split at h
    · split at h <;> cases h
      simp only [weight, maxEmptyPolls] at *
      omega
    · cases h
  · have kept := source_of_takeFormat h
    have lt := lt (by simp)
    simp only [weight, maxEmptyPolls, kept.1, kept.2] at *
    omega
  · rename_i slot info _
    have kept := source_of_takeSample h
    have lt := lt (by simp)
    have released := Coder.left_release_le (σ := σ) ‹σ› slot
    simp only [weight, maxEmptyPolls, kept.1, kept.2] at *
    omega

/-- Takes turns to the last one. -/
def run (p : Pass σ κ) (atEnd : Bool) : Attempt Unit × Pass σ κ :=
  match _ : p.turn atEnd with
  | .done r p => (r, p)
  | .again p' => run p' atEnd
termination_by p.weight
decreasing_by exact weight_lt_of_turn (by assumption)

theorem run_of_done {p p' : Pass σ κ} {atEnd : Bool} {r : Attempt Unit} (h : p.turn atEnd = .done r p') :
    p.run atEnd = (r, p') := by
  rw [run]
  split <;> simp_all

theorem run_of_again {p p' : Pass σ κ} {atEnd : Bool} (h : p.turn atEnd = .again p') :
    p.run atEnd = p'.run atEnd := by
  rw [run]
  split <;> simp_all

end Pass

namespace Encoder

variable {σ : Type}

/-- Milliseconds to wait for a free input slot. -/
def inputWait : Nat := 5

/-- Whether an instance is allocated. -/
def isAllocated (e : Encoder σ) : Bool := e.instance?.isSome

/-- The layout that pictures must have. -/
def layout (e : Encoder σ) : Option Layout := e.format.map (·.layout)

/-- The refusal of a request that does not fit the state. -/
def misplaced {α : Type} (e : Encoder σ) (request : String) : Attempt α :=
  Attempt.refuse (.invalidState (.wrongState request e.state.name))

/-! ## Configuration -/

/-- The layout to use, of those that are supported: the one asked for, or else the first by preference. -/
def chooseLayout (supported : List Layout) : Option Layout → Option Layout
  | some wanted => if wanted ∈ supported then some wanted else none
  | none => Layout.preference.find? (· ∈ supported)

/-- The format in which a request is granted by a backend with this name and these layouts. -/
def grant (backend : String) (supported : List Layout) (r : StreamRequest) : Attempt StreamFormat :=
  if r.width = 0 ∨ r.height = 0 then Attempt.refuse (.configuration (.zeroDimension r.width r.height))
  else if r.width % 2 ≠ 0 ∨ r.height % 2 ≠ 0 then
    Attempt.refuse (.configuration (.oddDimension r.width r.height))
  else if r.bitrate = 0 ∨ r.frameRate = 0 then Attempt.refuse (.configuration .rateNotPositive)
  else match chooseLayout supported r.layout with
    | none => Attempt.refuse (.configuration (.noLayout backend supported))
    | some layout => .ok {
        width := r.width
        height := r.height
        bitrate := r.bitrate
        frameRate := r.frameRate
        keyFrameSeconds := max r.keyFrameSeconds 1
        layout
        level := Level.ofGeometry { width := r.width, height := r.height } }

/-- What the journal says of a request: that the layout asked for is not accepted, if the request fails for no
earlier reason. -/
def grantNotices (backend : String) (supported : List Layout) (r : StreamRequest) : Journal :=
  match grant backend supported r, r.layout with
  | .error (.error (.configuration (.noLayout ..))), some wanted => [.layoutNotAccepted backend wanted]
  | _, _ => []

variable {β : Type} [Backend β σ]

/-- Settles the format of the session. -/
def configure (e : Encoder σ) (backend : β) (r : StreamRequest) (j : Journal) :
    Attempt StreamFormat × Encoder σ × Journal :=
  if e.state = .unconfigured then
    let name := Backend.name backend
    let supported := Backend.layouts backend
    let j := j ++ grantNotices name supported r
    match grant name supported r with
    | .ok format => (.ok format, { e with state := .configured, format := some format }, j)
    | .error failure => (.error failure, e, j)
  else (e.misplaced "configure", e, j)

variable [Coder σ]

/-- Allocates and starts an instance. One that does not start is destroyed. -/
def launch (e : Encoder σ) (backend : β) : Attempt Unit × Encoder σ × β :=
  if e.state = .configured then
    match e.format with
    | none => (Attempt.refuse (.invalidState .noFormat), e, backend)
    | some format =>
      match Backend.create backend format with
      | (.error failure, backend) => (.error failure, e, backend)
      | (.ok coder, backend) =>
        match Coder.start coder with
        | (.error failure, coder) => (.error failure, e, Backend.destroy backend coder)
        | (.ok (), coder) =>
          (.ok (), { e with instance? := some coder, lastPts := 0, state := .running }, backend)
  else (e.misplaced "open", e, backend)

/-! ## Pictures -/

omit [Coder σ] in
/-- The time stamp for the reading `now` of the clock, in microseconds since the session was opened. Time stamps
never decrease, and the clock stands still while no instance is allocated. -/
def stamp (e : Encoder σ) (now : Nat) : Nat × Encoder σ :=
  let pts := if e.isAllocated then max e.lastPts now else e.lastPts
  (pts, { e with lastPts := pts })

/-- Copies a picture into an input slot of an instance and queues it. -/
def feed (coder : σ) (picture : Bytes) (pts : Nat) : Attempt Submission × σ :=
  match Coder.claim coder inputWait with
  | (none, coder) => (.ok .dropped, coder)
  | (some slot, coder) =>
    match Coder.room? coder slot with
    | none => (Attempt.refuse (.encoding (.slotWithoutBuffer slot)), coder)
    | some room =>
      if room < picture.size then
        (Attempt.refuse (.encoding (.slotTooShort slot room picture.size)), coder)
      else
        match Coder.queue (Coder.fill coder slot picture) slot picture.size pts .none with
        | (.ok (), coder) => (.ok (.queued pts), coder)
        | (.error failure, coder) => (.error failure, coder)

/-- Submits a picture for encoding. If no input slot is free in time, the picture is dropped. -/
def submit (e : Encoder σ) (picture : Bytes) (pts : Nat) : Attempt Submission × Encoder σ :=
  if e.state = .running then
    match Attempt.ofOption .overflow ((e.format.map StreamFormat.inputLength?).getD (some 0)) with
    | .error failure => (.error failure, e)
    | .ok expected =>
      if picture.size ≠ expected then
        (Attempt.refuse (.encoding (.wrongLength picture.size expected)), e)
      else match e.instance? with
        | none => (Attempt.refuse (.invalidState .notAllocated), e)
        | some coder =>
          match feed coder picture pts with
          | (.ok (.queued pts), coder) =>
            (.ok (.queued pts), { e with instance? := some coder, framesQueued := e.framesQueued + 1 })
          | (r, coder) => (r, { e with instance? := some coder })
  else (e.misplaced "submit_frame", e)

/-! ## Draining and closing -/

variable {κ : Type} [Sink κ]

/-- Queues the marker that ends the stream, if a slot for it is free in time. -/
def signalEnd (e : Encoder σ) (sink : κ) (now : Nat) : Attempt Unit × Encoder σ × κ :=
  let (pts, e) := e.stamp now
  match e.instance? with
  | none => (Attempt.refuse (.invalidState .notAllocated), e, sink)
  | some coder =>
    match Coder.claim coder inputWait with
    | (none, coder) => (.ok (), { e with instance? := some coder }, Sink.note sink .noSlotForEnd)
    | (some slot, coder) =>
      let (r, coder) := Coder.queue coder slot 0 pts { endOfStream := true }
      (r, { e with instance? := some coder }, sink)

/-- Takes what outputs there are, or all up to the end of the stream, and passes them to the sink. -/
def collect (e : Encoder σ) (atEnd : Bool) (sink : κ) : Attempt Tally × Encoder σ × κ :=
  match e.instance? with
  | none => (Attempt.refuse (.invalidState .notAllocated), e, sink)
  | some coder =>
    let start : Pass σ κ := { source := coder, sink, delivered := e.formatDelivered }
    let (r, p) := start.run atEnd
    (r.map fun _ => p.tally, { e with instance? := some p.source, formatDelivered := p.delivered }, p.sink)

/-- Passes outputs to the sink: those that are ready, or with `atEnd` all of them, the stream being ended first.
The clock reads `now`. -/
def drain (e : Encoder σ) (atEnd : Bool) (sink : κ) (now : Nat) : Attempt Tally × Encoder σ × κ :=
  match e.state, atEnd with
  | .running, true =>
    match { e with state := .draining }.signalEnd sink now with
    | (.error failure, e, sink) => (.error failure, e, sink)
    | (.ok (), e, sink) => e.collect true sink
  | .running, false => e.collect false sink
  | .draining, true => e.collect true sink
  | _, _ => (e.misplaced "drain", e, sink)

/-- Stops and destroys the instance, if there is one. -/
def close (e : Encoder σ) (backend : β) : Attempt Unit × Encoder σ × β :=
  let closed := { e with state := .closed, instance? := none }
  match e.instance? with
  | none => (.ok (), closed, backend)
  | some coder =>
    let (r, coder) := Coder.stop coder
    (r, closed, Backend.destroy backend coder)

/-- Gives the session up: an instance that is still allocated is stopped and destroyed. -/
def discard (e : Encoder σ) (backend : β) (j : Journal) : β × Journal :=
  match e.close backend with
  | (.error (.error cause), _, backend) => (backend, j.note (.discardFailed cause))
  | (_, _, backend) => (backend, j)

end Encoder

end Camcorder
