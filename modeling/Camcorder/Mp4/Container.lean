import Camcorder.Bytes
import Camcorder.Frame.Geometry

/-!
# Containers

A `Container` collects the samples of one video track and turns them into the bytes of a file. Each of its
requests may be refused, for a reason in words.
-/

namespace Camcorder

/-- What a container has to know of its track. -/
structure TrackSettings where
  geometry : Geometry
  frameRate : Nat
  /-- Whether the index goes before the samples. -/
  fastStart : Bool
  title : Option String
  /-- When the recording was made, in words. -/
  date : String
deriving DecidableEq, Repr

/-- A finished file. -/
structure Finished where
  content : Bytes
  /-- The length of the track in seconds. -/
  duration : Float

/-- A container under construction. -/
class Container (γ : Type) where
  build : TrackSettings → Except String γ
  /-- Adds a sample that is shown from `seconds` on. -/
  write : γ → (seconds : Float) → Bytes → (key : Bool) → Except String Unit × γ
  finish : γ → Except String Finished

end Camcorder
