/-!
# Layouts of encoder input

An encoder takes 4:2:0 pictures, with the chroma samples interleaved or in two planes.
-/

namespace Camcorder

/-- How the chroma samples of a 4:2:0 picture are laid out after the luma plane. -/
inductive Layout where
  /-- One plane in which U and V samples take turns. -/
  | semiPlanar
  /-- A plane of U samples, then a plane of V samples. -/
  | planar
deriving DecidableEq, Repr

namespace Layout

/-- The layouts in the order in which a session tries them. -/
def preference : List Layout := [.semiPlanar, .planar]

/-- The four-character name of the layout. -/
def fourcc : Layout → String
  | .semiPlanar => "NV12"
  | .planar => "I420"

/-- The name under which settings files and reports know the layout. -/
def name : Layout → String
  | .semiPlanar => "SemiPlanar"
  | .planar => "Planar"

/-- The layout of that name. -/
def ofName? (s : String) : Option Layout := preference.find? fun l => l.name == s

theorem ofName?_name (l : Layout) : ofName? l.name = some l := by
  cases l <;> rfl

end Layout

end Camcorder
