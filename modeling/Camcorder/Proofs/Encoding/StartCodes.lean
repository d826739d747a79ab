import Mathlib
import Camcorder.Proofs.Encoding.ParameterSets

/-!
# Start codes in an arbitrary byte string

However malformed a byte string is, its units begin exactly where two zeros and a one stand in a row
(`AnnexB.mem_startsFrom`), and each goes on to the next such place or to the end. So the parameter sets that are found
are parts of the string, from behind the first start code that a byte of their type follows to the next start code or
the end, and they are missing only if no start code is followed by such a byte (`AnnexB.parameterSets_found`).
-/

namespace Camcorder.AnnexB

variable {data : Bytes}

/-- A start code stands at place `i`. -/
def CodeAt (data : Bytes) (i : Nat) : Prop := data[i]? = some 0 ∧ data[i + 1]? = some 0 ∧ data[i + 2]? = some 1

/-- The type of a unit that the byte behind a start code at place `i` would begin. -/
def typeBehind? (data : Bytes) (i : Nat) : Option Nat := (data[i + 3]?).map unitType

theorem CodeAt.lt_size {i : Nat} (h : CodeAt data i) : i + 2 < data.size :=
  (Array.getElem?_eq_some_iff.mp h.2.2).1

/-- Start codes do not overlap. -/
theorem CodeAt.apart {i j : Nat} (h : CodeAt data i) (h' : CodeAt data j) (later : i < j) : i + 3 ≤ j := by
  obtain ⟨_, _, one⟩ := h
  obtain ⟨zero, zero', _⟩ := h'
  by_contra close
  -- The one of the first start code would be a zero of the second.
  obtain rfl | rfl : j = i + 1 ∨ j = i + 2 := by omega
  · rw [one] at zero'
    cases zero'
  · rw [one] at zero
    cases zero

/-! ## The scan -/

/-- What the scan knows at place `i` of the bytes before it. -/
structure Counted (data : Bytes) (i zeros : Nat) : Prop where
  one : 1 ≤ zeros ↔ 1 ≤ i ∧ data[i - 1]? = some 0
  two : 2 ≤ zeros ↔ 2 ≤ i ∧ data[i - 2]? = some 0 ∧ data[i - 1]? = some 0

theorem counted_zero (data : Bytes) : Counted data 0 0 := ⟨by simp, by simp⟩

/-- One more zero is counted. -/
theorem Counted.zero {i zeros : Nat} (h : Counted data i zeros) (here : data[i]? = some 0) :
    Counted data (i + 1) (zeros + 1) where
  one := by simp [here]
  two := by
    have before : i + 1 - 2 = i - 1 := by omega
    have last : i + 1 - 1 = i := rfl
    rw [before, last, Nat.succ_le_succ_iff, Nat.succ_le_succ_iff, h.one]
    simp [here]

/-- Anything else starts the count again. -/
theorem Counted.nonzero {i : Nat} {b : UInt8} (here : data[i]? = some b) (nonzero : b ≠ 0) : Counted data (i + 1) 0 where
  one := by simp [here, nonzero]
  two := by simp [here, nonzero]

/-- A one after two zeros ends a start code, and nothing else does. -/
theorem Counted.code_iff {i zeros k : Nat} (h : Counted data i zeros) {b : UInt8} (here : data[i]? = some b) :
    (b = 1 ∧ 2 ≤ zeros) ∧ k = i - 2 ↔ CodeAt data k ∧ i = k + 2 := by
  constructor
  · rintro ⟨⟨rfl, enough⟩, rfl⟩
    obtain ⟨room, zero, zero'⟩ := h.two.mp enough
    obtain ⟨j, rfl⟩ := Nat.exists_eq_add_of_le' room
    exact ⟨⟨zero, zero', here⟩, rfl⟩
  · rintro ⟨⟨zero, zero', one⟩, rfl⟩
    rw [here] at one
    cases one
    exact ⟨⟨rfl, h.two.mpr ⟨by omega, zero, zero'⟩⟩, rfl⟩

theorem getElem?_of_drop {i : Nat} {b : UInt8} {rest : List UInt8} (left : data.toList.drop i = b :: rest) :
    data[i]? = some b ∧ data.toList.drop (i + 1) = rest := by
  constructor
  · have head : (data.toList.drop i)[0]? = some b := by
      rw [left]
      rfl
    simpa using head
  · rw [← List.drop_drop, left]
    rfl

/-- **The scan finds the start codes.** From place `i` on it finds those that end there or later. -/
theorem mem_startsFrom {i zeros : Nat} (h : Counted data i zeros) (k : Nat) :
    k ∈ startsFrom (data.toList.drop i) i zeros ↔ CodeAt data k ∧ i ≤ k + 2 := by
  -- By induction on what is left of the string, the count of zeros being right at each place.
  induction left : data.toList.drop i generalizing i zeros with
  | nil =>
    have past : data.size ≤ i := by simpa using left
    constructor
    · nofun
    · rintro ⟨code, le⟩
      have := code.lt_size
      omega
  | cons b rest ih =>
    obtain ⟨here, left'⟩ := getElem?_of_drop left
    have split : CodeAt data k ∧ i ≤ k + 2 ↔ (CodeAt data k ∧ i = k + 2) ∨ (CodeAt data k ∧ i + 1 ≤ k + 2) := by
      rw [← and_or_left]
      exact and_congr_right fun _ => by omega
    rw [split, ← h.code_iff here, startsFrom]
    by_cases zero : b = 0
    · subst zero
      rw [if_pos rfl, ih (h.zero here) left']
      simp
    · have after : Counted data (i + 1) 0 := .nonzero here zero
      rw [if_neg zero]
      by_cases ends : b = 1 ∧ 2 ≤ zeros
      · rw [if_pos ends, List.mem_cons, ih after left']
        simp [ends]
      · rw [if_neg ends, ih after left']
        simp [ends]

/-- The scan finds them in their order. -/
theorem pairwise_startsFrom {i zeros : Nat} (h : Counted data i zeros) :
    (startsFrom (data.toList.drop i) i zeros).Pairwise (· < ·) := by
  induction left : data.toList.drop i generalizing i zeros with
  | nil => exact .nil
  | cons b rest ih =>
    obtain ⟨here, left'⟩ := getElem?_of_drop left
    rw [startsFrom]
    by_cases zero : b = 0
    · subst zero
      rw [if_pos rfl]
      exact ih (h.zero here) left'
    · have after : Counted data (i + 1) 0 := .nonzero here zero
      rw [if_neg zero]
      by_cases ends : b = 1 ∧ 2 ≤ zeros
      · rw [if_pos ends]
        refine .cons (fun k found => ?_) (ih after left')
        rw [← left', mem_startsFrom after] at found
        have room : 2 ≤ i := (h.two.mp ends.2).1
        omega
      · rw [if_neg ends]
        exact ih after left'

/-- Places of start codes in their order, with all that come later. -/
structure Starts (data : Bytes) (l : List Nat) : Prop where
  code : ∀ i ∈ l, CodeAt data i
  sorted : l.Pairwise (· < ·)
  closed : ∀ i ∈ l, ∀ k, i < k → CodeAt data k → k ∈ l

theorem Starts.tail {i : Nat} {l : List Nat} (h : Starts data (i :: l)) : Starts data l where
  code k hk := h.code k (List.mem_cons_of_mem i hk)
  sorted := h.sorted.tail
  closed j hj k later code := by
    have first : i < j := List.rel_of_pairwise_cons h.sorted hj
    rcases List.mem_cons.mp (h.closed i List.mem_cons_self k (first.trans later) code) with rfl | found
    · omega
    · exact found

/-- The scan finds every start code, and nothing else. -/
theorem mem_starts (k : Nat) : k ∈ startsFrom data.toList 0 0 ↔ CodeAt data k := by
  have found := mem_startsFrom (counted_zero data) k
  rw [List.drop_zero] at found
  rw [found]
  exact and_iff_left (Nat.zero_le _)

/-- The scan finds the start codes in order. -/
theorem starts_startsFrom (data : Bytes) : Starts data (startsFrom data.toList 0 0) where
  code k := (mem_starts k).mp
  sorted := pairwise_startsFrom (counted_zero data)
  closed _ _ k _ := (mem_starts k).mpr

/-! ## The units between them -/

/-- Where the unit ends that the places `later` come behind. -/
def stopAt (data : Bytes) (later : List Nat) : Nat := later.head?.getD data.size

/-- A unit ends where the next one starts, or with the data. -/
theorem cutAt_cons (data : Bytes) (i : Nat) (later : List Nat) :
    cutAt data (i :: later) = data.extract i (stopAt data later) :: cutAt data later := by
  cases later <;> rfl

/-- What stands behind the start code at `start` goes on to `stop`: to the next start code, or to the end. -/
structure Reaches (data : Bytes) (start stop : Nat) : Prop where
  code : CodeAt data start
  le : start + 3 ≤ stop
  inside : stop ≤ data.size
  ends : stop = data.size ∨ CodeAt data stop
  whole : ∀ k, start < k → k < stop → ¬ CodeAt data k

/-- What stands behind a start code goes on to the next one, or to the end. -/
theorem Starts.reaches {i : Nat} {later : List Nat} (h : Starts data (i :: later)) :
    Reaches data i (stopAt data later) := by
  have code : CodeAt data i := h.code i List.mem_cons_self
  have found : ∀ k, i < k → CodeAt data k → k ∈ later := by
    intro k lt code'
    rcases List.mem_cons.mp (h.closed i List.mem_cons_self k lt code') with rfl | mem
    · omega
    · exact mem
  cases later with
  | nil =>
    exact ⟨code, code.lt_size, le_refl _, .inl rfl, fun k lt _ code' => List.not_mem_nil (found k lt code')⟩
  | cons j later =>
    have code' : CodeAt data j := h.tail.code j List.mem_cons_self
    have next : i < j := List.rel_of_pairwise_cons h.sorted List.mem_cons_self
    refine ⟨code, code.apart code' next, (Nat.le_add_right j 2).trans code'.lt_size.le, .inr code', ?_⟩
    intro k lt lt' between
    have lt' : k < j := lt'
    rcases List.mem_cons.mp (found k lt between) with rfl | mem
    · omega
    · have := List.rel_of_pairwise_cons h.tail.sorted mem
      omega

theorem Reaches.extract_eq {start stop : Nat} (h : Reaches data start stop) :
    data.extract start stop = #[0, 0, 1] ++ data.extract (start + 3) stop := by
  obtain ⟨zero, zero', one⟩ := h.code
  have le := h.le
  have inside := h.inside
  apply Array.ext_getElem?
  intro k
  rw [Array.getElem?_extract, Array.getElem?_append, Array.getElem?_extract]
  match k with
  | 0 => simpa [show 0 < min stop data.size - start by omega] using zero
  | 1 => simpa [show 1 < min stop data.size - start by omega] using zero'
  | 2 => simpa [show 2 < min stop data.size - start by omega] using one
  | k + 3 =>
    have place : start + (k + 3) = start + 3 + k := by omega
    have same : k + 3 < min stop data.size - start ↔ k < min stop data.size - (start + 3) := by omega
    simp [same, place]

/-- Without its start code, a unit is what stands behind the start code. -/
theorem Reaches.strip_extract {start stop : Nat} (h : Reaches data start stop) :
    strip (data.extract start stop) = data.extract (start + 3) stop := by
  have bytes : (data.extract start stop).toList = shortCode ++ (data.extract (start + 3) stop).toList := by
    rw [h.extract_eq, Array.toList_append]
    rfl
  unfold strip
  rw [bytes]
  rfl

/-- The type of a unit is that of the byte behind its start code, unless it is a type that zeros have. -/
theorem Reaches.type_iff {start stop : Nat} (h : Reaches data start stop) {type : Nat} (nonzero : type ≠ 0) :
    ((data.extract (start + 3) stop)[0]?).map unitType = some type ↔ typeBehind? data start = some type := by
  have le := h.le
  have inside := h.inside
  unfold typeBehind?
  by_cases empty : stop = start + 3
  · -- Behind the start code there is another one, or nothing.
    have none : (data.extract (start + 3) stop)[0]? = none := by
      rw [Array.getElem?_extract, if_neg (by omega)]
    rw [none, ← empty]
    rcases h.ends with last | code
    · rw [last, Array.getElem?_size]
    · rw [code.1]
      exact iff_of_false nofun fun same => nonzero (Option.some.inj same).symm
  · rw [Array.getElem?_extract, if_pos (by omega)]

/-! ## The first unit of a type -/

/-- The unit is the part of the string from behind the first start code that a byte of the type follows, up to the next
start code or to the end. -/
structure Found (type : Nat) (data unit : Bytes) (start stop : Nat) : Prop extends Reaches data start stop where
  eq : unit = data.extract (start + 3) stop
  nonempty : unit ≠ #[]
  head : (unit[0]?).map unitType = some type
  behind : typeBehind? data start = some type
  first : ∀ k, k < start → CodeAt data k → typeBehind? data k ≠ some type

/-- The first unit of a type, if any start code has one behind it. -/
theorem firstOfType?_cutAt {type : Nat} (nonzero : type ≠ 0) {l : List Nat} (h : Starts data l) :
    match firstOfType? type (cutAt data l) with
    | none => ∀ i ∈ l, typeBehind? data i ≠ some type
    | some unit => ∃ start stop, start ∈ l ∧ Reaches data start stop ∧ unit = data.extract (start + 3) stop ∧
        typeBehind? data start = some type ∧ ∀ k ∈ l, k < start → typeBehind? data k ≠ some type := by
  induction l with
  | nil => nofun
  | cons i later ih =>
    have reaches := h.reaches
    have rest := ih h.tail
    have decides := reaches.type_iff nonzero
    rw [cutAt_cons, firstOfType?, List.map_cons, reaches.strip_extract, List.find?_cons]
    rw [firstOfType?] at rest
    -- The places rise, so a unit of the type is the first one if it is the head.
    by_cases here : typeBehind? data i = some type
    · rw [decides.mpr here]
      simp only [beq_self_eq_true]
      refine ⟨i, _, List.mem_cons_self, reaches, rfl, here, fun k mem lt => ?_⟩
      rcases List.mem_cons.mp mem with rfl | mem
      · omega
      · have := List.rel_of_pairwise_cons h.sorted mem
        omega
    · have other : (((data.extract (i + 3) (stopAt data later))[0]?).map unitType == some type) = false :=
        beq_false_of_ne (mt decides.mp here)
      rw [other]
      simp only
      split at rest
      · intro k mem
        rcases List.mem_cons.mp mem with rfl | mem
        · exact here
        · exact rest k mem
      · obtain ⟨start, stop, mem, reaches', eq, behind, first⟩ := rest
        refine ⟨start, stop, List.mem_cons_of_mem i mem, reaches', eq, behind, fun k mem' lt => ?_⟩
        rcases List.mem_cons.mp mem' with rfl | mem'
        · exact here
        · exact first k mem' lt

/-- No unit of a type is found just when none is behind any start code. -/
theorem firstOfType?_eq_none_iff {type : Nat} (nonzero : type ≠ 0) :
    firstOfType? type (units data) = none ↔ ∀ i, CodeAt data i → typeBehind? data i ≠ some type := by
  have answer := firstOfType?_cutAt nonzero (starts_startsFrom data)
  rw [← units] at answer
  constructor
  · intro none i code
    rw [none] at answer
    exact answer i ((mem_starts i).mpr code)
  · intro absent
    split at answer
    · assumption
    · obtain ⟨start, _, mem, _, _, behind, _⟩ := answer
      exact absurd behind (absent start ((mem_starts start).mp mem))

/-- The unit that is found is the first of its type. -/
theorem found_of_firstOfType? {type : Nat} (nonzero : type ≠ 0) {unit : Bytes}
    (found : firstOfType? type (units data) = some unit) : ∃ start stop, Found type data unit start stop := by
  have answer := firstOfType?_cutAt nonzero (starts_startsFrom data)
  rw [← units, found] at answer
  obtain ⟨start, stop, _, reaches, rfl, behind, first⟩ := answer
  have type := (reaches.type_iff nonzero).mpr behind
  have nonempty : data.extract (start + 3) stop ≠ #[] := by
    intro empty
    rw [empty] at type
    cases type
  exact ⟨start, stop, reaches, rfl, nonempty, type, behind, fun k lt code => first k ((mem_starts k).mpr code) lt⟩

/-! ## Access within bounds -/

/-- The bytes from place `i` to place `j`, if they are places of the string in this order. -/
def part? (data : Bytes) (i j : Nat) : Option Bytes := if i ≤ j then data.slice? i (j - i) else none

theorem part?_eq_some {i j : Nat} (le : i ≤ j) (inside : j ≤ data.size) : part? data i j = some (data.extract i j) := by
  unfold part? Bytes.slice?
  rw [if_pos le, Nat.add_sub_cancel' le, if_pos inside]

/-- `startsFrom` with its subtraction checked. -/
def startsFrom? : List UInt8 → (i zeros : Nat) → Option (List Nat)
  | [], _, _ => some []
  | b :: rest, i, zeros =>
    if b = 0 then startsFrom? rest (i + 1) (zeros + 1)
    else if b = 1 ∧ 2 ≤ zeros then
      if 2 ≤ i then (startsFrom? rest (i + 1) 0).map ((i - 2) :: ·) else none
    else startsFrom? rest (i + 1) 0

/-- `cutAt` with its cuts checked. -/
def cutAt? (data : Bytes) : List Nat → Option (List Bytes)
  | [] => some []
  | [i] => return [← part? data i data.size]
  | i :: j :: rest => return (← part? data i j) :: (← cutAt? data (j :: rest))

/-- `strip` with its cut checked. -/
def strip? (unit : Bytes) : Option Bytes :=
  let zeros := (unit.toList.takeWhile (· == 0)).length
  if 2 ≤ zeros ∧ unit[zeros]? = some 1 then part? unit (zeros + 1) unit.size else some unit

/-- `parameterSets` with every access checked: `none` if one of them is out of bounds. -/
def parameterSets? (data : Bytes) (g : Geometry) : Option (Option CodecParameters) := do
  let starts ← startsFrom? data.toList 0 0
  let units ← cutAt? data starts
  let payloads ← units.mapM strip?
  let first? (type : Nat) : Option Bytes := payloads.find? fun u => (u[0]?).map unitType == some type
  return do
    let sps ← first? spsType
    let pps ← first? ppsType
    return { width := g.width, height := g.height, sps, pps }

/-- The scan has seen as many bytes as it has counted zeros. -/
theorem startsFrom?_eq {l : List UInt8} {i zeros : Nat} (seen : zeros ≤ i) :
    startsFrom? l i zeros = some (startsFrom l i zeros) := by
  induction l generalizing i zeros with
  | nil => rfl
  | cons b rest ih =>
    rw [startsFrom?, startsFrom]
    by_cases zero : b = 0
    · rw [if_pos zero, if_pos zero]
      exact ih (Nat.succ_le_succ seen)
    · rw [if_neg zero, if_neg zero, ih (Nat.zero_le _)]
      by_cases ends : b = 1 ∧ 2 ≤ zeros
      · rw [if_pos ends, if_pos ends, if_pos (ends.2.trans seen)]
        rfl
      · rw [if_neg ends, if_neg ends]

/-- Every cut is within the data. -/
theorem cutAt?_eq {l : List Nat} (h : Starts data l) : cutAt? data l = some (cutAt data l) := by
  induction l with
  | nil => rfl
  | cons i later ih =>
    have reaches := h.reaches
    have whole : i ≤ stopAt data later := by
      have := reaches.le
      omega
    have cut := part?_eq_some whole reaches.inside
    have rest := ih h.tail
    rw [cutAt_cons]
    cases later with
    | nil =>
      rw [cutAt?]
      simp only [stopAt, List.head?_nil, Option.getD_none] at cut
      rw [cut]
      rfl
    | cons j later =>
      rw [cutAt?, rest]
      simp only [stopAt, List.head?_cons, Option.getD_some] at cut
      rw [cut]
      rfl

theorem strip?_eq (unit : Bytes) : strip? unit = some (strip unit) := by
  obtain ⟨l⟩ := unit
  have split : l.takeWhile (· == 0) ++ l.dropWhile (· == 0) = l := List.takeWhile_append_dropWhile
  unfold strip? strip afterStartCode
  dsimp only
  generalize l.takeWhile (· == 0) = zeros at split ⊢
  have ahead : l.toArray[zeros.length]? = (l.dropWhile (· == 0))[0]? := by
    rw [List.getElem?_toArray, ← split, List.getElem?_append_right (le_refl _), split, Nat.sub_self]
  rw [ahead]
  rcases back : l.dropWhile (· == 0) with _ | ⟨b, rest⟩
  · simp
  · by_cases one : b = 1
    · subst one
      rw [back] at split
      have room : zeros.length + 1 ≤ l.toArray.size := by
        rw [← split]
        simp
      have cut : l.toArray.extract (zeros.length + 1) l.toArray.size = rest.toArray := by
        rw [← split]
        simp
        omega
      by_cases enough : 2 ≤ zeros.length
      · simp only [List.getElem?_cons_zero, and_true, if_pos enough, part?_eq_some room (le_refl _), cut]
      · simp [enough]
    · simp [one]

/-- The search for parameter sets never reads outside of the data. -/
theorem parameterSets?_eq (data : Bytes) (g : Geometry) : parameterSets? data g = some (parameterSets data g) := by
  have every : strip? = fun unit => pure (strip unit) := funext strip?_eq
  have stripped : (units data).mapM strip? = some ((units data).map strip) := by
    rw [every]
    exact List.mapM_pure
  unfold parameterSets?
  rw [startsFrom?_eq (le_refl 0)]
  dsimp only [Option.bind_eq_bind, Option.bind_some]
  rw [cutAt?_eq (starts_startsFrom data)]
  dsimp only [Option.bind_eq_bind, Option.bind_some]
  rw [← units, stripped]
  rfl

/-! ## Parameter sets -/

/-- Units of different places are not the first of one type both. -/
theorem Found.unique {type : Nat} {unit unit' : Bytes} {start stop start' stop' : Nat}
    (h : Found type data unit start stop) (h' : Found type data unit' start' stop') : unit = unit' := by
  have same : start = start' := by
    rcases Nat.lt_trichotomy start start' with lt | rfl | lt
    · exact absurd h.behind (h'.first start lt h.code)
    · rfl
    · exact absurd h'.behind (h.first start' lt h'.code)
  subst same
  have ends {stop stop' : Nat} (h : Reaches data start stop) (h' : Reaches data start stop') : stop ≤ stop' := by
    by_contra lt
    have le := h'.le
    have inside := h.inside
    rcases h'.ends with last | code
    · omega
    · exact h.whole stop' (by omega) (by omega) code
  have same : stop = stop' := Nat.le_antisymm (ends h.toReaches h'.toReaches) (ends h'.toReaches h.toReaches)
  rw [h.eq, h'.eq, same]

/-- A unit is found just when it is the first of its type. -/
theorem firstOfType?_eq_some_iff {type : Nat} (nonzero : type ≠ 0) {unit : Bytes} :
    firstOfType? type (units data) = some unit ↔ ∃ start stop, Found type data unit start stop := by
  refine ⟨found_of_firstOfType? nonzero, ?_⟩
  rintro ⟨start, stop, found⟩
  cases answer : firstOfType? type (units data) with
  | none => exact absurd found.behind ((firstOfType?_eq_none_iff nonzero).mp answer start found.code)
  | some unit' =>
    obtain ⟨start', stop', found'⟩ := found_of_firstOfType? nonzero answer
    rw [found.unique found']

/-- **Parameter sets of an arbitrary byte string.** However malformed it is, no access is out of its bounds. The
parameter sets that are found are the units behind the first start code that a byte of type 7 follows and behind the
first one that a byte of type 8 follows, each whole, and up to the next start code or the end; and none are found
exactly when no start code is followed by a byte of type 7, or none by a byte of type 8. -/
theorem parameterSets_found (data : Bytes) (g : Geometry) :
    parameterSets? data g = some (parameterSets data g) ∧
    (∀ p, parameterSets data g = some p ↔ p.width = g.width ∧ p.height = g.height ∧
      (∃ start stop, Found spsType data p.sps start stop) ∧ ∃ start stop, Found ppsType data p.pps start stop) ∧
    (parameterSets data g = none ↔
      (∀ i, CodeAt data i → typeBehind? data i ≠ some spsType) ∨
        ∀ i, CodeAt data i → typeBehind? data i ≠ some ppsType) := by
  have sps : spsType ≠ 0 := by decide
  have pps : ppsType ≠ 0 := by decide
  refine ⟨parameterSets?_eq data g, fun p => ?_, ?_⟩
  · rw [← firstOfType?_eq_some_iff sps, ← firstOfType?_eq_some_iff pps, parameterSets]
    cases firstOfType? spsType (units data) with
    | none => simp
    | some s =>
      cases firstOfType? ppsType (units data) with
      | none => simp
      | some t =>
        obtain ⟨width, height, sps', pps'⟩ := p
        simp only [Option.bind_eq_bind, Option.bind_some, Option.pure_def, Option.some.injEq,
          CodecParameters.mk.injEq]
        tauto
  · rw [← firstOfType?_eq_none_iff sps, ← firstOfType?_eq_none_iff pps, parameterSets]
    cases firstOfType? spsType (units data) with
    | none => simp
    | some s =>
      cases firstOfType? ppsType (units data) with
      | none => simp
      | some t => simp

end Camcorder.AnnexB
