import Mathlib
import Camcorder.Proofs.Picture.Contents

/-!
# Converters forget

A converter writes the pictures of all frames into one arena. As each picture is written anew from end to end, what a
converter makes of a frame depends on that frame alone: `Converter.convert_forgets` for one frame,
`Converter.answers_forget` for whole runs.
-/

namespace Camcorder

namespace Converter

variable {c c' : Converter}

/-- What a converter makes of a frame, its picture being written into the given buffer. -/
def pictureIn (c : Converter) (buffer raw : Bytes) (f : FrameFormat) : Attempt Bytes :=
  match f.acceptsLength raw.size c.geometry with
  | .error failure => .error failure
  | .ok false => Attempt.refuse (.frameUnrecognized raw.size)
  | .ok true =>
    match c.source raw f with
    | .error failure => .error failure
    | .ok none => .ok raw
    | .ok (some source) => Attempt.ofOption .outOfBounds (fill c.geometry c.layout source buffer)

/-- A conversion makes its picture in a buffer of the right size, whatever was in that before. -/
theorem convert_eq_pictureIn (sound : c.Sound) (raw : Bytes) (f : FrameFormat) :
    ∃ buffer, buffer.size = c.geometry.pixels * 3 / 2 ∧
      ∀ j, (c.convert raw f j).1.map Converted.bytes = c.pictureIn buffer raw f := by
  have fresh : (Bytes.fill (c.geometry.pixels * 3 / 2) 0).size = c.geometry.pixels * 3 / 2 := Array.size_replicate
  have len420 := (c.geometry.lengths_of_fits sound.fits).1
  refine ⟨c.arena.getD (Bytes.fill (c.geometry.pixels * 3 / 2) 0), ?_, ?_⟩
  · cases held : c.arena with
    | some arena => exact sound.arena arena held
    | none => exact fresh
  · intro j
    unfold convert pictureIn
    rcases f.acceptsLength raw.size c.geometry with failure | _ | _
    · rfl
    · rfl
    · rcases c.source raw f with failure | _ | source
      · rfl
      · rfl
      · -- The picture goes to the arena, or to a buffer of its own if there is none.
        cases c.arena with
        | some arena =>
          dsimp only [Option.getD]
          cases fill c.geometry c.layout source arena <;> rfl
        | none =>
          dsimp only [Option.getD]
          rw [len420]
          dsimp only [Attempt.ofOption]
          cases fill c.geometry c.layout source (Bytes.fill (c.geometry.pixels * 3 / 2) 0) <;> rfl

/-- The picture does not depend on what was in the buffer. -/
theorem pictureIn_forgets (fits : c.geometry.pixels * 3 < wordLimit) {buffer buffer' : Bytes}
    (size : buffer.size = c.geometry.pixels * 3 / 2) (size' : buffer'.size = c.geometry.pixels * 3 / 2) (raw : Bytes)
    (f : FrameFormat) : c.pictureIn buffer raw f = c.pictureIn buffer' raw f := by
  unfold pictureIn
  rcases accepted : f.acceptsLength raw.size c.geometry with failure | _ | _
  · rfl
  · rfl
  · rcases source_cases fits accepted with ⟨cause, refused⟩ | ⟨whole, _⟩ | ⟨source, found, enough⟩
    · rw [refused]
      rfl
    · rw [whole]
    · rw [found]
      dsimp only
      rw [fill_forgets c.layout enough size size']

theorem Kept.source (same : Kept c c') (raw : Bytes) (f : FrameFormat) : c'.source raw f = c.source raw f := by
  obtain ⟨geometry, layout, decode, _⟩ := same
  cases c
  cases c'
  subst geometry layout decode
  cases f with
  | compressed =>
    unfold source
    dsimp only
    split <;> rfl
  | _ => rfl

/-- What a converter makes of a frame does not depend on what its arena holds, nor on whether there is one. -/
theorem convert_forgets (sound : c.Sound) (same : Kept c c') (raw : Bytes) (f : FrameFormat) (j j' : Journal) :
    (c'.convert raw f j').1.map Converted.bytes = (c.convert raw f j).1.map Converted.bytes := by
  obtain ⟨buffer, size, answer⟩ := convert_eq_pictureIn sound raw f
  obtain ⟨buffer', size', answer'⟩ := convert_eq_pictureIn same.sound raw f
  rw [same.geometry] at size'
  have alike : c'.pictureIn buffer' raw f = c.pictureIn buffer' raw f := by
    unfold pictureIn
    rw [same.source, same.geometry, same.layout]
  rw [answer, answer', alike]
  exact pictureIn_forgets sound.fits size' size raw f

/-- What a converter answers for the frames, one after the other. -/
def answers (c : Converter) (j : Journal) : List (FrameFormat × Bytes) → List (Attempt Bytes)
  | [] => []
  | (f, raw) :: frames =>
    let (answer, c, j) := c.convert raw f j
    answer.map Converted.bytes :: c.answers j frames

/-- Whatever a converter makes of a frame, it is of the same kind afterwards. -/
theorem kept_convert (sound : c.Sound) (raw : Bytes) (f : FrameFormat) (j : Journal) :
    Kept c (c.convert raw f j).2.1 := by
  rcases sound.convert raw f with ⟨e, refused⟩ | ⟨frame, c', kept, _, converted⟩
  · rw [refused]
    exact ⟨rfl, rfl, rfl, sound⟩
  · obtain ⟨j', converted⟩ := converted j
    rw [converted]
    exact kept

/-- The answers to frames are those that each of them would have had alone. -/
theorem answers_eq_map (sound : c.Sound) (same : Kept c c') (j : Journal) (frames : List (FrameFormat × Bytes)) :
    c'.answers j frames = frames.map fun (f, raw) => (c.convert raw f []).1.map Converted.bytes := by
  -- By induction on the frames; each leaves a converter of the same kind.
  induction frames generalizing c' j with
  | nil => rfl
  | cons frame frames ih =>
    obtain ⟨f, raw⟩ := frame
    have step := kept_convert same.sound raw f j
    have after : Kept c (c'.convert raw f j).2.1 :=
      ⟨step.geometry.trans same.geometry, step.layout.trans same.layout, step.decode.trans same.decode, step.sound⟩
    have first : c'.answers j ((f, raw) :: frames) = (c'.convert raw f j).1.map Converted.bytes ::
      (c'.convert raw f j).2.1.answers (c'.convert raw f j).2.2 frames := rfl
    rw [first, ih after, convert_forgets sound same raw f [] j]
    rfl

/-- **A converter forgets.** A converter that was created, whether it holds an arena or not, gives each of the frames
that come one after the other the answer of a converter without an arena that was made for this frame alone: the same
picture of the right length, or the same refusal. -/
theorem answers_forget {g : Geometry} {layout : Layout} {j j' : Journal} {memory : Memory} {c : Converter}
    (created : create g layout j memory = (.ok c, j'))
    (decode : (g : Geometry) → Bytes → Except DecodeCause (ColourPicture g)) (frames : List (FrameFormat × Bytes))
    (j₁ j₂ : Journal) :
    let fresh := { withoutArena g layout with decode }
    let answers := ({ c with decode } : Converter).answers j₁ frames
    answers = fresh.answers j₂ frames ∧
      answers = frames.map (fun (f, raw) => (fresh.convert raw f []).1.map Converted.bytes) ∧
      ∀ a ∈ answers, (∃ picture, a = .ok picture ∧ picture.size = g.pixels * 3 / 2) ∨ ∃ e, a = Attempt.refuse e := by
  intro fresh answers
  obtain ⟨sound, rfl, rfl⟩ := create_sound created
  have alone : fresh.Sound := ⟨sound.fits, nofun⟩
  have kept : Kept fresh { c with decode } := ⟨rfl, rfl, rfl, sound.fits, sound.arena⟩
  have each := answers_eq_map alone kept j₁ frames
  refine ⟨?_, each, ?_⟩
  · rw [answers_eq_map alone ⟨rfl, rfl, rfl, alone⟩ j₂ frames]
    exact each
  · intro a ha
    rw [show answers = _ from each] at ha
    obtain ⟨⟨f, raw⟩, _, rfl⟩ := List.mem_map.mp ha
    rcases alone.convert raw f with ⟨e, refused⟩ | ⟨frame, c', _, size, converted⟩
    · right
      refine ⟨e, ?_⟩
      dsimp only
      rw [refused]
      rfl
    · left
      obtain ⟨j', converted⟩ := converted []
      refine ⟨frame.bytes, ?_, size⟩
      dsimp only
      rw [converted]
      rfl

/-- Frames of 3 × 3 pixels, so that a row, a column and a byte of padding are left over: a bright one, one that is cut
short, one that cannot be decoded, and a dark one. -/
theorem answers_forget_odd :
    let g : Geometry := { width := 3, height := 3 }
    let decode : (g : Geometry) → Bytes → Except DecodeCause (ColourPicture g) := fun _ _ => .error .noImage
    let c : Converter := { geometry := g, layout := .planar, arena := some (Bytes.fill 13 0) }
    let frames : List (FrameFormat × Bytes) := [(.packed422, Bytes.fill 18 200), (.packed422, Bytes.fill 17 7),
      (.compressed, FrameFormat.startOfImage), (.planar422, Bytes.fill 18 9)]
    create g .planar [] = (.ok c, []) ∧
      ({ c with decode } : Converter).answers [] frames =
        ({ withoutArena g .planar with decode } : Converter).answers [] frames :=
  have created : create { width := 3, height := 3 } .planar [] =
    (.ok { geometry := { width := 3, height := 3 }, layout := .planar, arena := some (Bytes.fill 13 0) }, []) := rfl
  ⟨created, (answers_forget created _ _ [] []).1⟩

end Converter

end Camcorder
