import Mathlib
import Camcorder.Encoding.Compressor

/-!
# Parameter sets of a byte stream

A byte stream is made of NAL units, each behind a start code. `AnnexB.units` cuts it where the last two zeros of a
start code begin, so the zeros that a start code has to spare go to the unit before it, and `AnnexB.strip` takes off
what is in front of a unit only. So the parameter sets that are found end in the spare zeros of the start code behind
them; they are those of the stream exactly when there are none (`AnnexB.parameterSets_stream`).
-/

namespace Camcorder.AnnexB

/-- A NAL unit behind its start code. -/
structure Framed where
  /-- The zeros of the start code beyond the two that it needs: one in a start code of four bytes. -/
  spare : Nat
  unit : List UInt8
deriving DecidableEq, Repr

/-- A start code without spare zeros. -/
def shortCode : List UInt8 := [0, 0, 1]

namespace Framed

/-- The unit can stand in a stream: it is not empty, there is no start code in it, and it does not end in a zero. -/
def Sound (p : Framed) : Prop := p.unit ≠ [] ∧ ¬ shortCode <:+: p.unit ∧ p.unit.getLast? ≠ some 0

instance (p : Framed) : Decidable p.Sound :=
  inferInstanceAs (Decidable (p.unit ≠ [] ∧ ¬ shortCode <:+: p.unit ∧ p.unit.getLast? ≠ some 0))

def bytes (p : Framed) : List UInt8 := List.replicate p.spare 0 ++ (shortCode ++ p.unit)

theorem length_bytes (p : Framed) : p.bytes.length = p.spare + 3 + p.unit.length := by
  simp only [bytes, shortCode, List.length_append, List.length_replicate, List.length_cons, List.length_nil]
  omega

/-- The type of the unit. -/
def type? (p : Framed) : Option Nat := p.unit.head?.map unitType

end Framed

/-- The stream of the units. -/
def stream (l : List Framed) : List UInt8 := l.flatMap Framed.bytes

/-- The spare zeros of the first start code. -/
def spareAhead : List Framed → Nat
  | [] => 0
  | p :: _ => p.spare

/-- The first unit of a type, and the spare zeros of the start code behind it. -/
def first? (type : Nat) : List Framed → Option (List UInt8 × Nat)
  | [] => none
  | p :: rest => if p.type? = some type then some (p.unit, spareAhead rest) else first? type rest

/-! ## Where start codes begin -/

/-- The zeros that come last, `zeros` zeros having come before. -/
def trailingZeros (zeros : Nat) (l : List UInt8) : Nat := l.foldl (fun n b => if b = 0 then n + 1 else 0) zeros

theorem trailingZeros_of_getLast? {zeros : Nat} {l : List UInt8} (some' : l ≠ []) (last : l.getLast? ≠ some 0) :
    trailingZeros zeros l = 0 := by
  obtain ⟨front, b, rfl⟩ := List.eq_nil_or_concat' l |>.resolve_left some'
  have nonzero : b ≠ 0 := by
    rintro rfl
    exact last List.getLast?_concat
  rw [trailingZeros, List.foldl_append]
  exact if_neg nonzero

/-- Bytes without a start code are passed over. -/
theorem startsFrom_append {l : List UInt8} (rest : List UInt8) (i zeros : Nat)
    (none : ¬ shortCode <:+: List.replicate zeros 0 ++ l) :
    startsFrom (l ++ rest) i zeros = startsFrom rest (i + l.length) (trailingZeros zeros l) := by
  -- The zeros that came before are part of what is passed over.
  induction l generalizing i zeros with
  | nil => rfl
  | cons b l ih =>
    have shift : i + 1 + l.length = i + (b :: l).length := by
      rw [List.length_cons]
      omega
    have behind : ¬ shortCode <:+: List.replicate 0 0 ++ l := by
      intro inside
      exact none (inside.trans (List.suffix_append_of_suffix (List.suffix_cons b l)).isInfix)
    rw [List.cons_append, startsFrom]
    by_cases zero : b = 0
    · subst zero
      rw [if_pos rfl, ih, shift]
      · rfl
      · rwa [List.replicate_succ', List.append_assoc]
    · have reset : trailingZeros zeros (b :: l) = trailingZeros 0 l := by
        rw [trailingZeros, List.foldl_cons, if_neg zero]
        rfl
      have no : ¬ (b = 1 ∧ 2 ≤ zeros) := by
        rintro ⟨rfl, two⟩
        apply none
        refine ⟨List.replicate (zeros - 2) 0, l, ?_⟩
        obtain ⟨n, rfl⟩ := Nat.exists_eq_add_of_le' two
        rw [Nat.add_sub_cancel, List.replicate_add, shortCode]
        simp
      rw [if_neg zero, if_neg no, ih _ _ behind, shift, reset]

theorem startsFrom_zeros (n : Nat) (rest : List UInt8) (i zeros : Nat) :
    startsFrom (List.replicate n 0 ++ rest) i zeros = startsFrom rest (i + n) (zeros + n) := by
  induction n generalizing i zeros with
  | zero => rfl
  | succ n ih =>
    rw [List.replicate_succ, List.cons_append, startsFrom, if_pos rfl, ih]
    congr 1 <;> omega

/-- The start code of a unit begins behind its spare zeros, and the search goes on behind the unit. -/
theorem startsFrom_bytes {p : Framed} (sound : p.Sound) (rest : List UInt8) (i : Nat) :
    startsFrom (p.bytes ++ rest) i 0 = (i + p.spare) :: startsFrom rest (i + p.bytes.length) 0 := by
  obtain ⟨some', none, last⟩ := sound
  have zeros : p.bytes ++ rest = List.replicate (p.spare + 2) 0 ++ (1 :: (p.unit ++ rest)) := by
    simp [Framed.bytes, shortCode, List.replicate_add]
  have start : startsFrom (1 :: (p.unit ++ rest)) (i + (p.spare + 2)) (0 + (p.spare + 2)) =
      (i + (p.spare + 2) - 2) :: startsFrom (p.unit ++ rest) (i + (p.spare + 2) + 1) 0 := by
    rw [startsFrom, if_neg (by decide), if_pos ⟨rfl, by omega⟩]
  have place : i + (p.spare + 2) - 2 = i + p.spare := by omega
  have shift : i + (p.spare + 2) + 1 + p.unit.length = i + p.bytes.length := by
    rw [p.length_bytes]
    omega
  rw [zeros, startsFrom_zeros, start, place, startsFrom_append rest _ 0 none,
    trailingZeros_of_getLast? some' last, shift]

/-- Where the start codes of a stream begin that stands at position `i`. -/
def starts : List Framed → (i : Nat) → List Nat
  | [], _ => []
  | p :: rest, i => (i + p.spare) :: starts rest (i + p.bytes.length)

/-- The start codes of a stream are found where its units begin. -/
theorem startsFrom_stream {l : List Framed} (sound : ∀ p ∈ l, p.Sound) (i : Nat) :
    startsFrom (stream l) i 0 = starts l i := by
  induction l generalizing i with
  | nil => rfl
  | cons p rest ih =>
    have first : p.Sound := sound p List.mem_cons_self
    have others : ∀ q ∈ rest, q.Sound := fun q hq => sound q (List.mem_cons_of_mem p hq)
    have split : stream (p :: rest) = p.bytes ++ stream rest := List.flatMap_cons
    rw [split, startsFrom_bytes first, ih others, starts]

/-! ## What is cut out -/

/-- The units of a stream as they are found, each with the spare zeros of the start code behind it. -/
def found : List Framed → List (List UInt8)
  | [] => []
  | p :: rest => (p.unit ++ List.replicate (spareAhead rest) 0) :: found rest

theorem extract_middle (a b c : List UInt8) :
    (a ++ (b ++ c)).toArray.extract a.length (a.length + b.length) = b.toArray := by
  simp [List.extract]

/-- Cut at its start codes, a stream falls into the units that are found in it. -/
theorem cutAt_starts (front : List UInt8) (l : List Framed) :
    cutAt (front ++ stream l).toArray (starts l front.length) = (found l).map fun u => (shortCode ++ u).toArray := by
  induction l generalizing front with
  | nil => rfl
  | cons p rest ih =>
    have later := ih (front ++ p.bytes)
    rw [List.length_append, List.append_assoc] at later
    have start : (front ++ List.replicate p.spare 0).length = front.length + p.spare := by simp
    cases rest with
    | nil =>
      -- The last unit goes on to the end of the stream.
      have whole : front ++ stream [p] = front ++ List.replicate p.spare 0 ++ (shortCode ++ p.unit ++ []) := by
        simp [stream, Framed.bytes]
      have size : (front ++ stream [p]).toArray.size = front.length + p.spare + (shortCode ++ p.unit).length := by
        rw [whole, ← start]
        simp [Nat.add_assoc]
      have cut := extract_middle (front ++ List.replicate p.spare 0) (shortCode ++ p.unit) []
      rw [← whole, start, ← size] at cut
      rw [starts, starts, cutAt, cut, found, found]
      simp [spareAhead]
    | cons q rest =>
      have whole : front ++ stream (p :: q :: rest) = front ++ List.replicate p.spare 0 ++
          (shortCode ++ (p.unit ++ List.replicate q.spare 0) ++ (shortCode ++ q.unit ++ stream rest)) := by
        simp [stream, Framed.bytes]
      have next : front.length + p.bytes.length + q.spare =
          front.length + p.spare + (shortCode ++ (p.unit ++ List.replicate q.spare 0)).length := by
        simp only [p.length_bytes, shortCode, List.length_append, List.length_replicate, List.length_cons,
          List.length_nil]
        omega
      have cut := extract_middle (front ++ List.replicate p.spare 0) (shortCode ++ (p.unit ++ List.replicate q.spare 0))
        (shortCode ++ q.unit ++ stream rest)
      rw [← whole, start, ← next] at cut
      have split : stream (p :: q :: rest) = p.bytes ++ stream (q :: rest) := List.flatMap_cons
      rw [starts] at later
      rw [starts, starts, cutAt, cut, split, later, found, List.map_cons]
      rfl

/-- The units of a stream end where the next start code begins, its spare zeros not counted. -/
theorem units_stream {l : List Framed} (sound : ∀ p ∈ l, p.Sound) :
    units (stream l).toArray = (found l).map fun u => (shortCode ++ u).toArray := by
  have cut := cutAt_starts [] l
  rw [List.nil_append, List.length_nil] at cut
  rw [units, List.toList_toArray, startsFrom_stream sound, cut]

/-- A unit without its start code. -/
theorem strip_shortCode (u : List UInt8) : strip (shortCode ++ u).toArray = u.toArray := by
  rfl

/-- The first unit of a type is found with the spare zeros that follow it. -/
theorem firstOfType?_stream {l : List Framed} (sound : ∀ p ∈ l, p.Sound) (type : Nat) :
    firstOfType? type (units (stream l).toArray) =
      (first? type l).map fun (u, spare) => (u ++ List.replicate spare 0).toArray := by
  have stripped : (units (stream l).toArray).map strip = (found l).map List.toArray := by
    rw [units_stream sound, List.map_map]
    exact List.map_congr_left fun u _ => strip_shortCode u
  rw [firstOfType?, stripped, List.find?_map]
  clear stripped
  induction l with
  | nil => rfl
  | cons p rest ih =>
    have some' : p.unit ≠ [] := (sound p List.mem_cons_self).1
    have others : ∀ q ∈ rest, q.Sound := fun q hq => sound q (List.mem_cons_of_mem p hq)
    obtain ⟨b, unit, cons⟩ := List.exists_cons_of_ne_nil some'
    have here : p.type? = some (unitType b) := by
      rw [Framed.type?, cons]
      rfl
    rw [found, List.find?_cons, first?, here, cons]
    by_cases same : unitType b = type
    · simp [same]
    · have other : (unitType b == type) = false := beq_false_of_ne same
      simpa [same, other] using ih others

/-! ## Parameter sets -/

/-- The first sequence and the first picture parameter set among the units, if there are both. -/
def sets? (l : List Framed) (g : Geometry) : Option CodecParameters := do
  let (sps, _) ← first? spsType l
  let (pps, _) ← first? ppsType l
  return { width := g.width, height := g.height, sps := sps.toArray, pps := pps.toArray }

/-- The same with the zeros that the start codes behind them have to spare. -/
def trailedSets? (l : List Framed) (g : Geometry) : Option CodecParameters := do
  let (sps, spare) ← first? spsType l
  let (pps, spare') ← first? ppsType l
  return {
    width := g.width
    height := g.height
    sps := (sps ++ List.replicate spare 0).toArray
    pps := (pps ++ List.replicate spare' 0).toArray }

theorem trailedSets?_eq_iff (l : List Framed) (g : Geometry) :
    trailedSets? l g = sets? l g ↔
      ∀ sps ∈ first? spsType l, ∀ pps ∈ first? ppsType l, sps.2 = 0 ∧ pps.2 = 0 := by
  unfold trailedSets? sets?
  cases first? spsType l with
  | none => simp
  | some sps =>
    cases first? ppsType l with
    | none => simp
    | some pps => simp

/-- **Parameter sets of a byte stream.** Whatever units stand in a stream, whichever types they have and however many
zeros their start codes have to spare: the first sequence and the first picture parameter set are found if both are
there, each with the spare zeros of the start code behind it. They are found as they stand in the stream exactly when no
zeros are to spare behind either of them, as with a start code of three bytes or at the end of the stream. -/
theorem parameterSets_stream {l : List Framed} (sound : ∀ p ∈ l, p.Sound) (g : Geometry) :
    parameterSets (stream l).toArray g = trailedSets? l g ∧
      (parameterSets (stream l).toArray g = sets? l g ↔
        ∀ sps ∈ first? spsType l, ∀ pps ∈ first? ppsType l, sps.2 = 0 ∧ pps.2 = 0) := by
  have same : parameterSets (stream l).toArray g = trailedSets? l g := by
    rw [parameterSets, firstOfType?_stream sound, firstOfType?_stream sound, trailedSets?]
    cases first? spsType l with
    | none => rfl
    | some sps =>
      cases first? ppsType l with
      | none => rfl
      | some pps => rfl
  refine ⟨same, ?_⟩
  rw [same]
  exact trailedSets?_eq_iff l g

/-- A delimiter, both parameter sets and a picture, of which only the picture follows a start code of four bytes. -/
theorem parameterSets_stream_mixed :
    let l : List Framed := [⟨0, [9, 0x10]⟩, ⟨0, [0x67, 0x42, 0, 0, 3]⟩, ⟨0, [0x68, 0xCE]⟩, ⟨1, [0x65, 0x88]⟩]
    let g : Geometry := { width := 64, height := 48 }
    (∀ p ∈ l, p.Sound) ∧ parameterSets (stream l).toArray g = trailedSets? l g ∧
      trailedSets? l g =
        some { width := 64, height := 48, sps := #[0x67, 0x42, 0, 0, 3], pps := #[0x68, 0xCE, 0] } := by
  intro l g
  have sound : ∀ p ∈ l, p.Sound := by decide
  exact ⟨sound, (parameterSets_stream sound g).1, rfl⟩

/-- Where both parameter sets follow start codes of four bytes, as encoders write them, the first one is found with a
zero too many at its end. -/
theorem sps_keeps_zero :
    let l : List Framed := [⟨1, [0x67, 0x42, 0xC0, 0x1F]⟩, ⟨1, [0x68, 0xCE, 0x3C, 0x80]⟩]
    let g : Geometry := { width := 640, height := 480 }
    (∀ p ∈ l, p.Sound) ∧ (stream l).toArray = Cadence.parameterUnits ∧
      parameterSets (stream l).toArray g =
        some { width := 640, height := 480, sps := #[0x67, 0x42, 0xC0, 0x1F, 0], pps := #[0x68, 0xCE, 0x3C, 0x80] } ∧
      parameterSets (stream l).toArray g ≠ sets? l g := by
  intro l g
  have sound : ∀ p ∈ l, p.Sound := by decide
  have answer : parameterSets (stream l).toArray g =
      some { width := 640, height := 480, sps := #[0x67, 0x42, 0xC0, 0x1F, 0], pps := #[0x68, 0xCE, 0x3C, 0x80] } := by
    decide +kernel
  refine ⟨sound, by decide, answer, ?_⟩
  rw [answer]
  decide

end Camcorder.AnnexB
