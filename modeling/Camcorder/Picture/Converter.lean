import Camcorder.Jpeg.Image
import Camcorder.Notice
import Camcorder.Picture.Planes

/-!
# Converting frames to encoder input

A `Converter` turns the frames of one recording into 4:2:0 pictures of one layout. It writes them into an arena
that is allocated once; where that was not possible, into a new buffer each time. Every byte of a picture is
written anew, so what an earlier frame left in the arena never shows.

Whether there is memory for an arena is not for a converter to say: a `Memory` is part of what it is given.
-/

namespace Camcorder

/-- Which sizes, in bytes, an arena can be had of. -/
abbrev Memory := Nat → Bool

/-- Memory for every arena of up to a tebibyte. -/
def Memory.ample : Memory := fun size => size ≤ 0x10000000000

/-- Where the bytes of a converted frame are. -/
inductive Holder where
  /-- In the frame itself, which needed no conversion. -/
  | input
  | arena
  /-- In a buffer of their own. -/
  | fresh
deriving DecidableEq, Repr

/-- A converted frame. -/
structure Converted where
  holder : Holder
  bytes : Bytes
deriving DecidableEq, Repr

/-- Turns frames into 4:2:0 pictures. -/
structure Converter where
  geometry : Geometry
  layout : Layout
  /-- The buffer that all pictures share, if there is one. -/
  arena : Option Bytes
  /-- Whether the journal already says that there is no arena. -/
  noted : Bool := false
  /-- How compressed frames are decoded. -/
  decode : (g : Geometry) → Bytes → Except DecodeCause (ColourPicture g) := Jpeg.decode

namespace Converter

/-- A buffer for the pictures of `g`, or `none` if there is no memory for it. -/
def allocate (g : Geometry) (memory : Memory := .ample) : Attempt (Option Bytes) := do
  let len ← Attempt.ofOption .overflow g.len420?
  return if memory len then some (Bytes.fill len 0) else none

/-- A converter with an arena if there is memory for it. -/
def create (g : Geometry) (layout : Layout) (j : Journal) (memory : Memory := .ample) : Attempt Converter × Journal :=
  match allocate g memory with
  | .error e => (.error e, j)
  | .ok (some arena) => (.ok { geometry := g, layout, arena := some arena }, j)
  | .ok none => (.ok { geometry := g, layout, arena := none }, j.note .arenaNotAllocated)

/-- A converter that uses a new buffer for each frame. -/
def withoutArena (g : Geometry) (layout : Layout) : Converter := { geometry := g, layout, arena := none }

/-- Whether there is an arena. -/
def hasArena (c : Converter) : Bool := c.arena.isSome

/-- Where the samples of a frame are taken from. -/
inductive Source where
  | semiPlanar420 (data : Bytes)
  | packed422 (data : Bytes)
  | planar422 (data : Bytes)
  | rgb (data : Bytes)

/-- Fills `out` with the picture of `source`; `none` if an access falls outside a buffer. -/
def fill (g : Geometry) (layout : Layout) (source : Source) (out : Bytes) : Option Bytes :=
  let map : PlaneMap := { width := g.width, height := g.height, layout }
  match source with
  | .semiPlanar420 data => PlaneMap.ofSemiPlanar420 g.width g.height data out
  | .packed422 data => map.ofPacked422 data out
  | .planar422 data => map.ofPlanar422 data out
  | .rgb data => map.ofRgb data out

/-- What has to be done with a frame of format `f`: nothing, or to take its samples from a source. -/
def source (c : Converter) (raw : Bytes) (f : FrameFormat) : Attempt (Option Source) :=
  match f with
  | .semiPlanar420 => .ok (if c.layout = .semiPlanar then none else some (.semiPlanar420 raw))
  | .packed422 => .ok (some (.packed422 raw))
  | .planar422 => .ok (some (.planar422 raw))
  | .compressed =>
    match c.decode c.geometry raw with
    | .ok picture => .ok (some (.rgb picture.samples))
    | .error cause => Attempt.refuse (.decode cause)

/-- The frame `raw`, which is of format `f`, as a picture of the layout. A frame whose length is not one of its
format is refused before anything else is done; after that only decoding can be refused. -/
def convert (c : Converter) (raw : Bytes) (f : FrameFormat) (j : Journal) :
    Attempt Converted × Converter × Journal :=
  match f.acceptsLength raw.size c.geometry with
  | .error e => (.error e, c, j)
  | .ok false => (Attempt.refuse (.frameUnrecognized raw.size), c, j)
  | .ok true =>
    match c.source raw f with
    | .error e => (.error e, c, j)
    | .ok none => (.ok { holder := .input, bytes := raw }, c, j)
    | .ok (some source) =>
      match c.arena with
      | some arena =>
        match fill c.geometry c.layout source arena with
        | some bytes => (.ok { holder := .arena, bytes }, { c with arena := some bytes }, j)
        | none => (Attempt.halt .outOfBounds, c, j)
      | none =>
        let j := if c.noted then j else j.note .arenaMissing
        let c := { c with noted := true }
        match Attempt.ofOption .overflow c.geometry.len420? with
        | .error e => (.error e, c, j)
        | .ok len =>
          match fill c.geometry c.layout source (Bytes.fill len 0) with
          | some bytes => (.ok { holder := .fresh, bytes }, c, j)
          | none => (Attempt.halt .outOfBounds, c, j)

end Converter

end Camcorder
