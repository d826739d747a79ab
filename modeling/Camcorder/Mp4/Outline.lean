import Camcorder.Mp4.Document

/-!
# Reading MP4 files

`Outline.of` finds out what a player would see: the boxes of a file and, if there is a movie, its track, its
samples and its metadata.
-/

namespace Camcorder.Mp4

/-- A box that was read. -/
structure Box where
  kind : Bytes
  body : Bytes
deriving DecidableEq, Repr

namespace Box

/-- The boxes from position `i` on, as far as they are complete. -/
def readFrom (data : Bytes) (i : Nat) : List Box :=
  match Bytes.readBE32? data i with
  | none => []
  | some size =>
    if _ : 8 ≤ size ∧ i + size ≤ data.size then
      { kind := data.extract (i + 4) (i + 8), body := data.extract (i + 8) (i + size) } :: readFrom data (i + size)
    else []
termination_by data.size - i

/-- The boxes that a body consists of. -/
def all (data : Bytes) : List Box := readFrom data 0

/-- The body of the first box of a kind. -/
def find? (data : Bytes) (k : Bytes) : Option Bytes := ((all data).find? (·.kind == k)).map (·.body)

/-- The body of the box that is found by going down through boxes of these kinds. -/
def down? (data : Bytes) : List String → Option Bytes
  | [] => some data
  | name :: rest => do down? (← find? data (Mp4.kind name)) rest

end Box

/-- The rows of a table, each of `fields` numbers, after `skip` bytes. -/
def rows (data : Bytes) (skip fields : Nat) : List (List Nat) :=
  let count := (Bytes.readBE32? data skip).getD 0
  (List.range (min count data.size)).map fun row =>
    (List.range fields).map fun field => (Bytes.readBE32? data (skip + 4 + 4 * (row * fields + field))).getD 0

/-- What a file says of its movie. -/
structure MovieOutline where
  tracks : Nat
  width : Nat
  height : Nat
  sizes : List Nat
  /-- The numbers of the key samples, counted from 1. -/
  keys : List Nat
  timescale : Nat
  /-- How often each duration occurs in a row. -/
  durations : List (Nat × Nat)
  decoderConfig : Bytes
  /-- The bytes of all samples. -/
  media : Bytes
  title : Option String
  dated : Bool
deriving DecidableEq, Repr

namespace MovieOutline

/-- The text of a line of metadata. -/
def metadata? (items : Bytes) (name : String) : Option String := do
  let data ← Box.find? (← Box.find? items (metadataKind name)) (Mp4.kind "data")
  Bytes.toText? (data.extract 8 data.size)

/-- Reads the movie of a file. -/
def of (file movie : Bytes) : MovieOutline :=
  let track := (Box.find? movie (Mp4.kind "trak")).getD #[]
  let header := (Box.find? track (Mp4.kind "tkhd")).getD #[]
  let tables := (Box.down? track ["mdia", "minf", "stbl"]).getD #[]
  let body (name : String) := (Box.find? tables (Mp4.kind name)).getD #[]
  let sizes := (rows (body "stsz") 8 1).flatten
  let first := ((rows (body "stco") 4 1).flatten.head?).getD 0
  let entry := (Box.find? ((body "stsd").extract 8 (body "stsd").size) (Mp4.kind "avc1")).getD #[]
  let metadata := (Box.down? movie ["udta", "meta"]).getD #[]
  let items := (Box.find? (metadata.extract 4 metadata.size) (Mp4.kind "ilst")).getD #[]
  { tracks := (Box.all movie).countP (·.kind == Mp4.kind "trak")
    width := (Bytes.readBE16? header (header.size - 8)).getD 0
    height := (Bytes.readBE16? header (header.size - 4)).getD 0
    sizes
    keys := (rows (body "stss") 4 1).flatten
    timescale := ((Box.down? track ["mdia", "mdhd"]).bind (Bytes.readBE32? · 12)).getD 0
    durations := (rows (body "stts") 4 2).map fun r => (r.getD 0 0, r.getD 1 0)
    decoderConfig := (Box.find? (entry.extract 78 entry.size) (Mp4.kind "avcC")).getD #[]
    media := file.extract first (first + total sizes)
    title := metadata? items "nam"
    dated := (Box.find? items (metadataKind "day")).isSome }

end MovieOutline

/-- What a file consists of. -/
structure Outline where
  /-- The kinds of its boxes, in order. -/
  kinds : List Bytes
  movie : Option MovieOutline
deriving DecidableEq, Repr

/-- Reads a file. -/
def Outline.of (file : Bytes) : Outline where
  kinds := (Box.all file).map (·.kind)
  movie := (Box.find? file (Mp4.kind "moov")).map (MovieOutline.of file)

end Camcorder.Mp4
