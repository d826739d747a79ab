import Mathlib
import Camcorder.CommandLine.Dump
import Camcorder.Proofs.Picture.Filling

/-!
# The pieces of a dump

A dump is read in pieces of one length, which without a format is found by the size of the file alone. `Dump.feed_eq` says
which pieces are handed over, `Dump.pieces_ofFrames` that a dump of frames of that length is cut into these frames, and
`Dump.frameLength_of_frames` which length is found for it.
-/

namespace Camcorder.CommandLine

namespace Dump

variable {σ ε : Type}

/-! ## The pieces of a dump -/

/-- Piece `k` of a dump, `len` bytes long. -/
def piece (dump : Bytes) (len k : Nat) : Bytes := dump.extract (k * len) (k * len + len)

/-- The whole pieces of a dump in order. -/
def pieces (dump : Bytes) (len : Nat) : List Bytes := (List.range (dump.size / len)).map (piece dump len)

/-- The first of these frames, as many as the limit allows. -/
def upTo (limit : Option Nat) (frames : List Bytes) : List Bytes := limit.elim frames frames.take

/-- Hands frames over, with their numbers from `k` on, until one fails. -/
def handOver (take : Nat → Bytes → σ → Except ε Unit × σ) : Nat → List Bytes → σ → Except ε Unit × σ
  | _, [], s => (.ok (), s)
  | k, frame :: rest, s =>
    match take k frame s with
    | (.ok (), s) => handOver take (k + 1) rest s
    | (.error e, s) => (.error e, s)

/-- How many of `whole` pieces a limit allows. -/
def allowed (limit : Option Nat) (whole : Nat) : Nat := limit.elim whole (min · whole)

theorem upTo_pieces (limit : Option Nat) (dump : Bytes) (len : Nat) :
    upTo limit (pieces dump len) = (List.range' 0 (allowed limit (dump.size / len))).map (piece dump len) := by
  unfold upTo pieces allowed
  cases limit with
  | none => rw [Option.elim_none, Option.elim_none, List.range_eq_range']
  | some most => rw [Option.elim_some, Option.elim_some, ← List.map_take, List.take_range, List.range_eq_range']

/-- Another piece is handed over if the limit is not reached and a whole one is left. -/
theorem lt_allowed_iff {limit : Option Nat} {dump : Bytes} {len next : Nat} (len_pos : 0 < len) :
    next < allowed limit (dump.size / len) ↔ ¬limit.any (· ≤ next) ∧ next * len + len ≤ dump.size := by
  have whole : next < dump.size / len ↔ next * len + len ≤ dump.size := by
    rw [Nat.lt_iff_add_one_le, Nat.le_div_iff_mul_le len_pos, Nat.add_mul, Nat.one_mul]
  unfold allowed
  cases limit with
  | none => simpa using whole
  | some most => simpa using and_congr_right' whole

theorem feed_from (dump : Bytes) {len : Nat} (len_pos : 0 < len) (limit : Option Nat)
    (take : Nat → Bytes → σ → Except ε Unit × σ) (next : Nat) (s : σ) :
    feed dump len len_pos limit take next s =
      handOver take next ((List.range' next (allowed limit (dump.size / len) - next)).map (piece dump len)) s := by
  set count := allowed limit (dump.size / len) with count_eq
  have more (next : Nat) : next < count ↔ ¬limit.any (· ≤ next) ∧ next * len + len ≤ dump.size := lt_allowed_iff len_pos
  -- The piece that is handed over is the first of those that are left.
  have first {next : Nat} (left : next < count) : (List.range' next (count - next)).map (piece dump len) =
      piece dump len next :: (List.range' (next + 1) (count - (next + 1))).map (piece dump len) := by
    rw [show count - next = count - (next + 1) + 1 by omega, List.range'_succ, List.map_cons]
  have last {next : Nat} (none : ¬next < count) : (List.range' next (count - next)).map (piece dump len) = [] := by
    rw [Nat.sub_eq_zero_of_le (Nat.le_of_not_lt none)]
    rfl
  fun_induction feed dump len len_pos limit take next s with
  | case1 next s reached =>
    rw [last (fun left => ((more next).mp left).1 reached)]
    rfl
  | case2 next s under whole s' taken ih =>
    rw [first ((more next).mpr ⟨under, whole⟩), ih, handOver.eq_2]
    rw [show take next (piece dump len next) s = _ from taken]
  | case3 next s under whole e s' failed =>
    rw [first ((more next).mpr ⟨under, whole⟩), handOver.eq_2]
    rw [show take next (piece dump len next) s = _ from failed]
  | case4 next s under short =>
    rw [last (fun left => short ((more next).mp left).2)]
    rfl

/-- A dump is handed over in pieces: all the whole ones, or as many as the limit allows. -/
theorem feed_eq (dump : Bytes) {len : Nat} (len_pos : 0 < len) (limit : Option Nat)
    (take : Nat → Bytes → σ → Except ε Unit × σ) (s : σ) :
    feed dump len len_pos limit take 0 s = handOver take 0 (upTo limit (pieces dump len)) s := by
  rw [feed_from, upTo_pieces, Nat.sub_zero]

/-! ## Frames one after the other -/

/-- The dump that consists of these frames. -/
def ofFrames (frames : List Bytes) : Bytes := frames.foldr (· ++ ·) #[]

theorem size_ofFrames {frames : List Bytes} {len : Nat} (all : ∀ frame ∈ frames, frame.size = len) :
    (ofFrames frames).size = frames.length * len := by
  induction frames with
  | nil => exact (Nat.zero_mul len).symm
  | cons frame rest ih =>
    have others : (ofFrames rest).size = rest.length * len := ih (fun f hf => all f (.tail _ hf))
    have parts : (ofFrames (frame :: rest)).size = frame.size + (ofFrames rest).size := Array.size_append
    rw [parts, all frame (.head _), others, List.length_cons]
    ring

/-- A dump of frames of one length is cut into these frames. -/
theorem pieces_ofFrames {frames : List Bytes} {len : Nat} (len_pos : 0 < len)
    (all : ∀ frame ∈ frames, frame.size = len) : pieces (ofFrames frames) len = frames := by
  unfold pieces
  rw [size_ofFrames all, Nat.mul_div_cancel _ len_pos]
  induction frames with
  | nil => rfl
  | cons frame rest ih =>
    have size : frame.size = len := all frame (.head _)
    have others : (List.range rest.length).map (piece (ofFrames rest) len) = rest :=
      ih (fun f hf => all f (.tail _ hf))
    have parts : ofFrames (frame :: rest) = frame ++ ofFrames rest := rfl
    have first : piece (ofFrames (frame :: rest)) len 0 = frame := by
      unfold piece
      rw [parts, Array.extract_append, Nat.zero_mul, Nat.zero_add, size, Nat.sub_self, ← size, Array.extract_size,
        Array.extract_empty_of_stop_le_start (Nat.zero_le _), Array.append_empty]
    have later (k : Nat) : piece (ofFrames (frame :: rest)) len (k + 1) = piece (ofFrames rest) len k := by
      have start : (k + 1) * len = k * len + len := Nat.succ_mul k len
      unfold piece
      rw [parts, Array.extract_append, size, start, Nat.add_sub_cancel, Nat.add_sub_cancel,
        Array.extract_empty_of_size_le_start (by omega), Array.empty_append]
    rw [List.length_cons, List.range_succ_eq_map, List.map_cons, List.map_map, first]
    exact congrArg (frame :: ·) ((List.map_congr_left (fun k _ => later k)).trans others)

/-! ## The length of the frames -/

/-- Without a format the length of 4:2:2 comes first. -/
theorem frameLength_none {g : Geometry} (fits : g.pixels * 3 < wordLimit) (size : Nat) :
    frameLength none g size =
      if isMadeOf size (g.pixels * 2) then .ok (g.pixels * 2)
      else if isMadeOf size (g.pixels * 3 / 2) then .ok (g.pixels * 3 / 2)
      else .error (.unevenDump size g) := by
  have h420 : g.len420? = some (g.pixels * 3 / 2) := Geometry.len420?_eq_some_iff.mpr ⟨fits, rfl⟩
  have h422 : g.len422? = some (g.pixels * 2) := Geometry.len422?_eq_some_iff.mpr ⟨by omega, rfl⟩
  unfold frameLength
  rw [h420, h422]
  rfl

theorem isMadeOf_iff {size len : Nat} : isMadeOf size len = true ↔ 0 < len ∧ len ≤ size ∧ len ∣ size := by
  unfold isMadeOf
  rw [Bool.and_eq_true, Bool.and_eq_true, decide_eq_true_iff, decide_eq_true_iff, beq_iff_eq, and_assoc,
    Nat.dvd_iff_mod_eq_zero]

theorem isMadeOf_mul {n len : Nat} (n_pos : 0 < n) (len_pos : 0 < len) : isMadeOf (n * len) len = true :=
  isMadeOf_iff.mpr ⟨len_pos, Nat.le_mul_of_pos_left len n_pos, Nat.dvd_mul_left len n⟩

/-- With even dimensions four 4:2:0 frames are as long as three 4:2:2 frames, and no fewer of them make whole ones. -/
theorem isMadeOf_long_iff {p n : Nat} (p_pos : 0 < p) (quarters : 4 ∣ p) (n_pos : 0 < n) :
    isMadeOf (n * (p * 3 / 2)) (p * 2) = true ↔ 4 ∣ n := by
  obtain ⟨q, rfl⟩ := quarters
  have q_pos : 0 < 2 * q := by omega
  have short : 4 * q * 3 / 2 = 3 * (2 * q) := by omega
  have long : 4 * q * 2 = 4 * (2 * q) := by omega
  have size : n * (3 * (2 * q)) = n * 3 * (2 * q) := (Nat.mul_assoc n 3 (2 * q)).symm
  rw [isMadeOf_iff, short, long, size, Nat.mul_dvd_mul_iff_right q_pos, Nat.mul_le_mul_right_iff q_pos]
  omega

/-- The frames of a geometry with even dimensions are made of groups of four pixels. -/
theorem four_dvd_pixels {g : Geometry} (width : 2 ∣ g.width) (height : 2 ∣ g.height) : 4 ∣ g.pixels :=
  Nat.mul_dvd_mul width height

/-- The length that is found for a dump of 4:2:0 or of 4:2:2 frames. -/
theorem frameLength_of_frames {g : Geometry} (width : 2 ∣ g.width) (height : 2 ∣ g.height) (holds : 0 < g.pixels)
    (fits : g.pixels * 3 < wordLimit) {n : Nat} (n_pos : 0 < n) :
    frameLength none g (n * (g.pixels * 3 / 2)) = .ok (if 4 ∣ n then g.pixels * 2 else g.pixels * 3 / 2) ∧
      frameLength none g (n * (g.pixels * 2)) = .ok (g.pixels * 2) := by
  have long := isMadeOf_long_iff holds (four_dvd_pixels width height) n_pos
  constructor
  · rw [frameLength_none fits]
    by_cases fours : 4 ∣ n
    · rw [if_pos (long.mpr fours), if_pos fours]
    · rw [if_neg (fours ∘ long.mp), if_neg fours, if_pos (isMadeOf_mul n_pos (by omega))]
  · rw [frameLength_none fits, if_pos (isMadeOf_mul n_pos (by omega))]

theorem computed_eq_ok {length : Option ℕ} {n : ℕ} : computed length = .ok n ↔ length = some n := by
  cases length with
  | none => exact ⟨nofun, nofun⟩
  | some m => exact ⟨fun h => congrArg some (Except.ok.inj h), fun h => congrArg Except.ok (Option.some.inj h)⟩

/-- The frames of pictures of no pixels are empty. -/
theorem frameLength_empty {g : Geometry} (empty : g.pixels = 0) {tag : FrameFormat} (raw : tag ≠ .compressed)
    (size : ℕ) : frameLength (some tag) g size = .ok 0 := by
  have len420 : g.len420? = some 0 := Geometry.len420?_eq_some_iff.mpr ⟨by rw [empty]; decide, by rw [empty]⟩
  have len422 : g.len422? = some 0 := Geometry.len422?_eq_some_iff.mpr ⟨by rw [empty]; decide, by rw [empty]⟩
  cases tag with
  | semiPlanar420 => exact computed_eq_ok.mpr len420
  | packed422 => exact computed_eq_ok.mpr len422
  | planar422 => exact computed_eq_ok.mpr len422
  | compressed => exact absurd rfl raw

/-- The frames of other pictures are not empty, whether their format is given or found by the size of the dump. -/
theorem frameLength_pos {format : Option FrameFormat} {g : Geometry} (full : 0 < g.pixels) {size len : ℕ}
    (found : frameLength format g size = .ok len) : 0 < len := by
  have len420 {n : ℕ} (is : computed g.len420? = .ok n) : 0 < n := by
    obtain ⟨_, rfl⟩ := Geometry.len420?_eq_some_iff.mp (computed_eq_ok.mp is)
    omega
  have len422 {n : ℕ} (is : computed g.len422? = .ok n) : 0 < n := by
    obtain ⟨_, rfl⟩ := Geometry.len422?_eq_some_iff.mp (computed_eq_ok.mp is)
    omega
  match format with
  | some .semiPlanar420 => exact len420 found
  | some .packed422 => exact len422 found
  | some .planar422 => exact len422 found
  | some .compressed => cases found
  | none =>
    unfold frameLength at found
    rcases long : computed g.len422? with _ | n
    · rw [long] at found
      cases found
    · rcases short : computed g.len420? with _ | m
      · rw [long, short] at found
        cases found
      · rw [long, short] at found
        simp only [bind, Except.bind] at found
        split at found
        · cases found
          exact len422 long
        · split at found
          · cases found
            exact len420 short
          · cases found

end Dump

end Camcorder.CommandLine
