import Camcorder.Mp4.Track

/-!
# Writing MP4 files

An MP4 file is a sequence of boxes; a box is its length, a four-byte kind and a body, which may be boxes again.
This file has three: its brands, the movie, which is the index, and the media data, which is all samples one after
the other.
-/

namespace Camcorder.Mp4

/-- A box of the given kind. -/
def box (kind : Bytes) (body : Bytes) : Bytes := Bytes.be32 (body.size + 8) ++ kind ++ body

/-- The kind with this name. -/
def kind (name : String) : Bytes := Bytes.ofText name

/-- A kind of metadata: its name comes after a byte of its own. -/
def metadataKind (name : String) : Bytes := #[0xA9] ++ Bytes.ofText name

/-- A box with a version of zero and three bytes of flags. -/
def fullBox (k : Bytes) (flags : Nat) (body : Bytes) : Bytes := box k (Bytes.be32 flags ++ body)

/-- A table: the number of its rows, then the rows. -/
def table (rows : List Bytes) : Bytes := rows.foldl (· ++ ·) (Bytes.be32 rows.length)

/-- A value and how often it occurs in a row, for each row of equal values. -/
def runs : List Nat → List (Nat × Nat)
  | [] => []
  | a :: rest =>
    match runs rest with
    | (n, b) :: more => if a = b then (n + 1, b) :: more else (1, a) :: (n, b) :: more
    | [] => [(1, a)]

/-- A finished movie. -/
structure Movie where
  settings : TrackSettings
  track : Track

namespace Movie

/-- The transformation that leaves a picture as it is. -/
def unityMatrix : Bytes :=
  Bytes.be32 0x10000 ++ Bytes.fill 12 0 ++ Bytes.be32 0x10000 ++ Bytes.fill 12 0 ++ Bytes.be32 0x40000000

def brands : Bytes :=
  box (kind "ftyp") (kind "isom" ++ Bytes.be32 0x200 ++ kind "isom" ++ kind "iso2" ++ kind "avc1" ++ kind "mp41")

/-- All samples, one after the other. -/
def media (m : Movie) : Bytes := m.track.entries.foldl (fun out e => out ++ e.data) #[]

/-- The profile, its constraints and the level, as the sequence parameter set names them. -/
def profileBytes (sps : Bytes) : Bytes := if 4 ≤ sps.size then sps.extract 1 4 else #[0x42, 0x00, 0x1E]

/-- What a decoder must know before the first sample. -/
def decoderConfig (sets : ParameterSets) : Bytes :=
  #[1] ++ profileBytes sets.sps ++ #[0xFF, 0xE1] ++ Bytes.be16 sets.sps.size ++ sets.sps ++
    #[1] ++ Bytes.be16 sets.pps.size ++ sets.pps

/-- The entry that describes the samples. -/
def description (m : Movie) : Bytes :=
  let g := m.settings.geometry
  let config := match m.track.sets with
    | some sets => box (kind "avcC") (decoderConfig sets)
    | none => #[]
  box (kind "avc1") (Bytes.fill 6 0 ++ Bytes.be16 1 ++ Bytes.fill 16 0 ++ Bytes.be16 g.width ++ Bytes.be16 g.height ++
    Bytes.be32 0x480000 ++ Bytes.be32 0x480000 ++ Bytes.fill 4 0 ++ Bytes.be16 1 ++ Bytes.fill 32 0 ++
    Bytes.be16 24 ++ Bytes.be16 0xFFFF ++ config)

/-- The numbers of the samples at which decoding can begin, counted from 1. -/
def keyNumbers (m : Movie) : List Nat :=
  (m.track.entries.toList.zipIdx 1).filterMap fun (e, i) => if e.key then some i else none

/-- The tables that say when and where each sample is; the samples begin at `offset` in the file. -/
def sampleTables (m : Movie) (offset : Nat) : Bytes :=
  let sizes := m.track.entries.toList.map fun e => e.data.size
  fullBox (kind "stsd") 0 (table [m.description]) ++
  fullBox (kind "stts") 0 (table ((runs m.track.durations).map fun (n, d) => Bytes.be32 n ++ Bytes.be32 d)) ++
  fullBox (kind "stss") 0 (table (m.keyNumbers.map Bytes.be32)) ++
  fullBox (kind "stsc") 0 (table [Bytes.be32 1 ++ Bytes.be32 sizes.length ++ Bytes.be32 1]) ++
  fullBox (kind "stsz") 0 (Bytes.be32 0 ++ table (sizes.map Bytes.be32)) ++
  fullBox (kind "stco") 0 (table [Bytes.be32 offset])

/-- What the box of a handler says: which kind of media it deals with. -/
def handler (name : String) : Bytes :=
  fullBox (kind "hdlr") 0 (Bytes.fill 4 0 ++ kind name ++ Bytes.fill 12 0 ++ #[0])

/-- The track as the movie describes it. -/
def trackBox (m : Movie) (offset : Nat) : Bytes :=
  let g := m.settings.geometry
  let duration := total m.track.durations
  let header := fullBox (kind "tkhd") 3 (Bytes.fill 8 0 ++ Bytes.be32 1 ++ Bytes.fill 4 0 ++ Bytes.be32 duration ++
    Bytes.fill 16 0 ++ unityMatrix ++ Bytes.be32 (g.width * 0x10000) ++ Bytes.be32 (g.height * 0x10000))
  let mediaHeader := fullBox (kind "mdhd") 0 (Bytes.fill 8 0 ++ Bytes.be32 timescale ++ Bytes.be32 duration ++
    Bytes.be16 0x55C4 ++ Bytes.be16 0)
  let reference := fullBox (kind "dref") 0 (table [fullBox (kind "url ") 1 #[]])
  box (kind "trak") (header ++ box (kind "mdia") (mediaHeader ++ handler "vide" ++ box (kind "minf") (
    fullBox (kind "vmhd") 1 (Bytes.fill 8 0) ++ box (kind "dinf") reference ++
    box (kind "stbl") (m.sampleTables offset))))

/-- A line of metadata in UTF-8. -/
def metadata (name text : String) : Bytes :=
  box (metadataKind name) (box (kind "data") (Bytes.be32 1 ++ Bytes.be32 0 ++ Bytes.ofText text))

/-- The title and the date. -/
def userData (m : Movie) : Bytes :=
  let title := match m.settings.title with
    | some t => metadata "nam" t
    | none => #[]
  box (kind "udta") (fullBox (kind "meta") 0 (handler "mdir" ++
    box (kind "ilst") (title ++ metadata "day" m.settings.date)))

/-- The index, for samples that begin at `offset` in the file. -/
def index (m : Movie) (offset : Nat) : Bytes :=
  let header := fullBox (kind "mvhd") 0 (Bytes.fill 8 0 ++ Bytes.be32 timescale ++
    Bytes.be32 (total m.track.durations) ++ Bytes.be32 0x10000 ++ Bytes.be16 0x100 ++ Bytes.fill 10 0 ++ unityMatrix ++
    Bytes.fill 24 0 ++ Bytes.be32 2)
  box (kind "moov") (header ++ m.trackBox offset ++ m.userData)

/-- The bytes of the file. With a fast start the index comes before the samples; its size does not depend on where
they begin. -/
def document (m : Movie) : Bytes :=
  let media := box (kind "mdat") m.media
  if m.settings.fastStart then
    brands ++ m.index (brands.size + (m.index 0).size + 8) ++ media
  else brands ++ media ++ m.index (brands.size + 8)

instance : Container Movie where
  build settings := .ok { settings, track := {} }
  write m seconds data key :=
    match m.track.add seconds data key with
    | .ok track => (.ok (), { m with track })
    | .error refusal => (.error refusal.message, m)
  finish m := .ok { content := m.document, duration := m.track.seconds }

end Movie

end Camcorder.Mp4
