import TextScan.Error
import TextScan.Mode

/-! What users may settle once and for all: how dumps look and where scans start. -/

namespace TextScan

structure Config where
  mode : Mode := .spans
  showEnd : Bool := false
  offsets : Bool := true
  /-- A position in words, which is read only when it is needed. -/
  start : String := "0:1:1"
deriving DecidableEq

namespace Config

/-- Another configuration on top of this one, which it hides altogether. -/
def merge (_ other : Config) : Config :=
  { mode := other.mode, showEnd := other.showEnd, offsets := other.offsets, start := other.start }

def startPosition (c : Config) : Except Error Position :=
  (Position.parse c.start.toList).mapError fun cause => .config (.badStart cause)

end Config

end TextScan
