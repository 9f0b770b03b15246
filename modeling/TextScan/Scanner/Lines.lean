import TextScan.Scanner.Spans

/-! Logical lines. A line goes up to a line break that is not escaped, or to the
end of input; there is no empty line behind the last break. -/

namespace TextScan

structure Line where
  start : Position
  /-- The slice of the line, without the break. -/
  text : List Char

namespace Scanner

theorem remaining_readUntil_le (stop : Char) (s : Scanner) :
    (s.readUntil stop).2.remaining ≤ s.remaining ∧
      ((s.readUntil stop).1 ≠ [] → (s.readUntil stop).2.remaining < s.remaining) := by
  rw [readUntil_eq]
  split
  · simp
  · next c next h =>
    have hlt : next.remaining < s.remaining := by
      simpa [h] using remaining_read_lt (s := s) (by rw [h])
    have ih := (remaining_readUntil_le stop next).1
    split
    · simp
    · simp only
      omega
termination_by s.remaining

/-- Reads a line from a new mark, and the break that ends it. There is none if
neither a character nor a break is left. -/
def readLine? (s : Scanner) : Option (Line × Scanner) :=
  let (chars, stop) := s.mark.readUntil lineFeed
  let (ending, next) := stop.read
  if chars.isEmpty && ending != some lineFeed then none
  else some (⟨s.position, stop.slice⟩, next)

theorem remaining_readLine?_lt {s next : Scanner} {line : Line}
    (h : s.readLine? = some (line, next)) : next.remaining < s.remaining := by
  simp only [readLine?] at h
  split at h
  · contradiction
  · next hsome =>
    obtain ⟨rfl, rfl⟩ := h
    have hle := remaining_readUntil_le lineFeed s.mark
    have hread := remaining_read_le (s.mark.readUntil lineFeed).2
    change _ < s.mark.remaining
    by_cases hchars : (s.mark.readUntil lineFeed).1 = []
    · have hlf : (s.mark.readUntil lineFeed).2.read.1 = some lineFeed := by
        simpa [hchars] using hsome
      have := remaining_read_lt hlf
      omega
    · have := hle.2 hchars
      omega

/-- The lines up to the end of input, behind those of `acc`. -/
def linesOnto (acc : Array Line) (s : Scanner) : Array Line :=
  match _h : s.readLine? with
  | none => acc
  | some (line, next) => linesOnto (acc.push line) next
termination_by s.remaining
decreasing_by exact remaining_readLine?_lt _h

def lines (s : Scanner) : List Line := (s.linesOnto #[]).toList

theorem linesOnto_eq (acc : Array Line) (s : Scanner) :
    s.linesOnto acc = acc ++ s.linesOnto #[] := by
  rw [linesOnto, linesOnto.eq_1 #[]]
  split
  · simp
  · next line next h =>
    have := remaining_readLine?_lt h
    rw [linesOnto_eq (acc.push _), linesOnto_eq (#[].push _)]
    simp
termination_by s.remaining

theorem lines_eq (s : Scanner) :
    s.lines =
      match s.readLine? with
      | none => []
      | some (line, next) => line :: next.lines := by
  rw [lines, linesOnto]
  split
  · next h => simp [h]
  · next h =>
    rw [linesOnto_eq]
    simp [h, lines]

end Scanner

end TextScan
