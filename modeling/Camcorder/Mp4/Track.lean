import Camcorder.AnnexB
import Camcorder.Decimal.Text
import Camcorder.Mp4.Container

/-!
# Tracks

A `Track` is the sequence of samples of an MP4 file. Time is counted in ticks, 90000 of which make a second. A
sample is accepted if it holds something, begins later than the one before, in seconds as well as in ticks, and,
if it is the first, is a key picture that carries the parameter sets.
-/

namespace Camcorder.Mp4

/-- The ticks of a second. -/
def timescale : Nat := 90000

/-- The whole number nearest to `x`, a half being rounded away from zero. -/
def roundNat (x : Float) : Nat :=
  let whole := x.toUInt64.toNat
  if x - Float.ofNat whole ≥ 0.5 then whole + 1 else whole

/-- The tick nearest to a time in seconds. -/
def tickOf (seconds : Float) : Nat := roundNat (seconds * Float.ofNat timescale)

/-- A sample as it is stored. -/
structure Entry where
  tick : Nat
  key : Bool
  /-- The NAL units, each after its length. -/
  data : Bytes
deriving DecidableEq, Repr

/-- A sequence and a picture parameter set. -/
structure ParameterSets where
  sps : Bytes
  pps : Bytes
deriving DecidableEq, Repr

/-- The samples accepted so far. -/
structure Track where
  entries : Array Entry := #[]
  /-- The time of the last sample. -/
  lastSeconds : Float := 0.0
  sets : Option ParameterSets := none

/-- Why a sample is refused. Samples are numbered by those accepted before. -/
inductive Refusal where
  | empty (index : Nat)
  | notLater (index : Nat) (seconds previous : Float)
  | tooFarApart
  | firstNotKey
  | firstWithoutSets

namespace Refusal

def message : Refusal → String
  | .empty index => s!"video frame {index} is empty: video samples must contain NAL units"
  | .notLater index seconds previous =>
    let now := Decimal.fixed 3 seconds
    let before := Decimal.fixed 3 previous
    s!"video frame {index} has PTS {now}s which is not greater than previous PTS {before}s: " ++
      "video timestamps must strictly increase. For B-frames, use write_video_with_dts()"
  | .tooFarApart => "IO error: duration overflow"
  | .firstNotKey =>
    "first video frame must be a keyframe (IDR): set is_keyframe=true and ensure the frame contains an IDR NAL unit"
  | .firstWithoutSets =>
    "first video frame must contain SPS and PPS NAL units: prepend SPS (NAL type 7) and PPS (NAL type 8) " ++
      "to the first keyframe"

end Refusal

namespace Track

/-- A sample as it is stored: each NAL unit after its length. -/
def stored (data : Bytes) : Bytes :=
  (AnnexB.payloads data).foldl (fun out u => out ++ Bytes.be32 u.size ++ u) #[]

/-- The parameter sets in a sample. -/
def setsOf? (data : Bytes) : Option ParameterSets := do
  let find (type : Nat) := (AnnexB.payloads data).find? fun u => (u[0]?).map AnnexB.unitType == some type
  return { sps := ← find AnnexB.spsType, pps := ← find AnnexB.ppsType }

/-- Adds a sample to a track. -/
def add (t : Track) (seconds : Float) (data : Bytes) (key : Bool) : Except Refusal Track :=
  let index := t.entries.size
  let tick := tickOf seconds
  let entry : Entry := { tick, key, data := stored data }
  if data.isEmpty then .error (.empty index)
  else match t.entries.back? with
    | some last =>
      if seconds ≤ t.lastSeconds then .error (.notLater index seconds t.lastSeconds)
      else if tick ≤ last.tick then .error (.notLater index 0.0 t.lastSeconds)
      else if halfWordLimit ≤ tick - last.tick then .error .tooFarApart
      else .ok { t with entries := t.entries.push entry, lastSeconds := seconds }
    | none =>
      if !key then .error .firstNotKey
      else match setsOf? data with
        | none => .error .firstWithoutSets
        | some sets => .ok { entries := #[entry], lastSeconds := seconds, sets := some sets }

/-- The ticks from each number to the next. -/
def gaps : List Nat → List Nat
  | a :: b :: rest => (b - a) :: gaps (b :: rest)
  | _ => []

/-- The gap before the last sample, zero for a single one. -/
def lastGap (t : Track) : Nat := (gaps (t.entries.toList.map (·.tick))).getLast?.getD 0

/-- How long each sample is shown: until the next one, and the last one as long as the one before. A single sample
is shown for a tick. -/
def durations (t : Track) : List Nat :=
  match gaps (t.entries.toList.map (·.tick)) with
  | [] => t.entries.toList.map fun _ => 1
  | g :: gs => (g :: gs) ++ [(g :: gs).getLast (List.cons_ne_nil g gs)]

/-- The length of the track in seconds: up to the end of the last sample. -/
def seconds (t : Track) : Float :=
  let last := (t.entries.back?.map (·.tick)).getD 0
  Float.ofNat (last + t.lastGap) / Float.ofNat timescale

end Track

end Camcorder.Mp4
