import Camcorder.Encoding.Avc

/-!
# The product

How the program presents itself.
-/

namespace Camcorder

structure Product where
  name : String
  version : String
  description : String
  /-- The encoder backend that is used unless another one is asked for. -/
  defaultBackend : String
deriving DecidableEq, Repr

/-- This program. -/
def product : Product where
  name := "crabrecord"
  version := "0.1.0"
  description := "Camera frame ingestion to H.264/MP4 recording with pixel format detection and conversion"
  defaultBackend := Avc.backendName

end Camcorder
