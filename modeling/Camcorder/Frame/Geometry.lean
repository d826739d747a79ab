import Camcorder.Bytes

/-!
# Frame dimensions

A `Geometry` is the width and height of the frames of one recording. The sizes of its buffers are counted in
64-bit words; a size that does not fit is `none`.
-/

namespace Camcorder

/-- The width and height of a frame, in pixels. -/
structure Geometry where
  /-- Pixels in a row. -/
  width : Nat
  /-- Rows. -/
  height : Nat
deriving DecidableEq, Repr

namespace Geometry

/-- The number of pixels. -/
def pixels (g : Geometry) : Nat := g.width * g.height

/-- The bytes of a 4:2:0 frame: one and a half for each pixel, rounded down. -/
def len420? (g : Geometry) : Option Nat := (word? (g.pixels * 3)).map (· / 2)

/-- The bytes of a 4:2:2 frame: two for each pixel. -/
def len422? (g : Geometry) : Option Nat := word? (g.pixels * 2)

theorem len420?_eq_some_iff {g : Geometry} {n : Nat} :
    g.len420? = some n ↔ g.pixels * 3 < wordLimit ∧ n = g.pixels * 3 / 2 := by
  simp only [len420?, word?]
  split <;> rename_i h
  · simp [h, eq_comm]
  · simp [h]

theorem len422?_eq_some_iff {g : Geometry} {n : Nat} :
    g.len422? = some n ↔ g.pixels * 2 < wordLimit ∧ n = g.pixels * 2 := by
  simp only [len422?, word?]
  split <;> rename_i h
  · simp [h, eq_comm]
  · simp [h]

end Geometry

end Camcorder
