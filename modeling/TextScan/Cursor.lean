import TextScan.Text
import TextScan.Position

/-! Reading a text one character at a time. A line break is read as one line
feed, however it is written; a backslash directly before a line break is
skipped together with the break.

`Cursor.step?` takes the text as it stands and only unifies line breaks.
`Cursor.read` also skips escaped breaks: it looks past a backslash by reading
what follows and steps back if that is no line feed, so it calls itself at
larger offsets only. -/

namespace TextScan

/-- What reading changes. `altered` says whether a carriage return or an escaped
line break has been read since the mark, so that the text read may differ from
the bytes it was read from. -/
structure Cursor where
  position : Position
  altered : Bool
deriving DecidableEq

namespace Cursor

abbrev offset (c : Cursor) : Int := c.position.offset

/-- The cursor at the start of the next line, behind a carriage return that
ended at `p`; a line feed there belongs to the same break. -/
def passReturn (t : Text) (p : Position) : Cursor :=
  ⟨{ p.breakLine with offset := if t.lineFeedAt p.offset then p.offset + 1 else p.offset }, true⟩

/-- Takes one character or one line break, whatever stands behind it. -/
def step? (t : Text) (c : Cursor) : Option (Char × Cursor) :=
  match t.index? c.offset with
  | none => none
  | some i =>
    let (char, width) := t.decodeAt i
    let next := c.position.advance width
    if char = lineFeed then some (lineFeed, { c with position := next.breakLine })
    else if char = carriageReturn then some (lineFeed, passReturn t next)
    else some (char, { c with position := next })

theorem step?_eq_none_iff {t : Text} {c : Cursor} :
    c.step? t = none ↔ c.offset < 0 ∨ (t.size : Int) ≤ c.offset := by
  rw [← Text.index?_eq_none_iff]
  unfold step?
  split
  · simp [*]
  · simp [*]
    split <;> try split
    all_goals simp

theorem offset_lt_of_step? {t : Text} {c next : Cursor} {char : Char}
    (h : c.step? t = some (char, next)) :
    0 ≤ c.offset ∧ c.offset < next.offset ∧ next.offset ≤ t.size := by
  unfold step? at h
  split at h
  · contradiction
  · next i hi =>
    obtain ⟨hi, hlt⟩ := Text.index?_eq_some_iff.mp hi
    have hpos := Text.decodeAt_width_pos t i
    have hle := Text.decodeAt_width_le t hlt
    split at h
    next char width hd =>
    rw [hd] at hpos hle
    simp only [offset] at hi hle ⊢
    split at h
    · cases h
      simp [hi]
      omega
    · split at h
      · cases h
        simp only [passReturn, Position.advance_offset, hi]
        split
        · next hlf =>
          have := Text.lt_size_of_lineFeedAt hlf
          omega
        · omega
      · cases h
        simp [hi]
        omega

/-- Reads with the bound that lets the recursion go on behind what it has read. -/
def readBounded (t : Text) (c : Cursor) :
    { r : Option Char × Cursor // c.offset ≤ r.2.offset } :=
  match h : c.step? t with
  | none => ⟨(none, c), Int.le_refl _⟩
  | some (char, next) =>
    have hnext := (offset_lt_of_step? h).2
    if char = '\\' then
      let ⟨ahead, hahead⟩ := readBounded t next
      if ahead.1 = some lineFeed then
        let ⟨rest, hrest⟩ := readBounded t { ahead.2 with altered := true }
        ⟨rest, Int.le_trans (Int.le_of_lt hnext.1) (Int.le_trans hahead hrest)⟩
      else ⟨(some '\\', next), Int.le_of_lt hnext.1⟩
    else ⟨(some char, next), Int.le_of_lt hnext.1⟩
termination_by (t.size - c.offset).toNat
decreasing_by
  · omega
  · simp only [offset] at *
    omega

/-- Reads the character at the cursor and moves behind it; at the end of input
there is none. -/
def read (t : Text) (c : Cursor) : Option Char × Cursor := (readBounded t c).1

theorem read_eq (t : Text) (c : Cursor) :
    c.read t =
      match c.step? t with
      | none => (none, c)
      | some (char, next) =>
        if char = '\\' ∧ (next.read t).1 = some lineFeed then
          { (next.read t).2 with altered := true }.read t
        else (some char, next) := by
  rw [read, readBounded]
  split
  · next h => rw [h]
  · next char next h =>
    simp only [h, read]
    by_cases hc : char = '\\'
    · by_cases hr : (readBounded t next).1.1 = some lineFeed <;> simp [hc, hr]
    · simp [hc]

theorem offset_le_read (t : Text) (c : Cursor) : c.offset ≤ (c.read t).2.offset :=
  (readBounded t c).2

/-- A character is read only from inside the text, and never without moving on. -/
theorem offset_lt_read {t : Text} {c next : Cursor} {char : Char}
    (h : c.read t = (some char, next)) :
    0 ≤ c.offset ∧ c.offset < t.size ∧ c.offset < next.offset := by
  rw [read_eq] at h
  split at h
  · simp at h
  · next first after hs =>
    have hlt := offset_lt_of_step? hs
    split at h
    · have h1 := offset_le_read t after
      have h2 := offset_le_read t { (after.read t).2 with altered := true }
      rw [h] at h2
      simp only [offset] at *
      omega
    · cases h
      omega

end Cursor

end TextScan
