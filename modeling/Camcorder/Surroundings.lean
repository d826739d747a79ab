import Camcorder.FileTree
import Camcorder.Notice

/-!
# Surroundings

What a recording reaches outside itself: the files, and the journal it writes.
-/

namespace Camcorder

structure Surroundings where
  disk : FileTree := {}
  journal : Journal := []

namespace Surroundings

/-- Appends a notice to the journal. -/
def note (s : Surroundings) (n : Notice) : Surroundings := { s with journal := s.journal.note n }

end Surroundings

end Camcorder
