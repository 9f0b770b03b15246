import TextScan.Proofs.Sessions

/-! Slices and routes. A session can come to the same mark and the same cursor in
several ways, reading or moving, and only reading raises the flag. Two sessions
that differ in nothing but the flag slice differently wherever normalizing changes
something (`Reachable.slice_eq_slice_iff`), and wherever it does there are two such
sessions, so that the route can be told from the slice in every text that is not
plain (`slicesByRange_iff`). -/

namespace TextScan.Scanner

open LineBreaks

/-- Between the same two offsets of a text, slices are equal if the flags are, and
otherwise only where normalizing changes nothing. -/
theorem sliceTo_eq_sliceTo_iff {s s' : Scanner} {stop stop' : Cursor} (htext : s.text = s'.text)
    (hmarked : s.marked.offset = s'.marked.offset) (hstop : stop.offset = stop'.offset) :
    s.sliceTo stop = s'.sliceTo stop' ↔ stop.altered = stop'.altered ∨
      isPlain (s.text.between s.marked.offset stop.offset) = true := by
  rw [sliceTo_eq_ite, sliceTo_eq_ite, ← htext, ← hmarked, ← hstop, ← normalize_eq_self_iff]
  cases stop.altered <;> cases stop'.altered <;> simp [eq_comm]

namespace Session

/-- The sessions that any operations lead to from any position in a text. -/
def Reachable (t : Text) (session : Session) : Prop :=
  ∃ p, Reaches (fun _ _ => True) (ofScanner (startingAt t p)) session

/-- Wherever mark and cursor are the same, slices are the same, however the cursor
got there, and they are the normalized text. -/
def SlicesByRange (t : Text) : Prop :=
  ∀ a b : Session, Reachable t a → Reachable t b →
    a.scanner.marked = b.scanner.marked → a.scanner.position = b.scanner.position →
    a.scanner.slice = b.scanner.slice ∧ a.scanner.sliceThrough = b.scanner.sliceThrough ∧
      a.scanner.slice =
        normalize (t.between a.scanner.marked.offset a.scanner.position.offset) ∧
      a.scanner.sliceThrough =
        normalize (t.between a.scanner.marked.offset a.scanner.read.2.position.offset)

variable {t : Text} {a b : Session}

/-! ## Two sessions at the same place -/

theorem reachable_startingAt (t : Text) (p : Position) :
    Reachable t (ofScanner (startingAt t p)) :=
  ⟨p, .start⟩

theorem Reachable.apply (h : Reachable t a) (op : Operation) : Reachable t (a.apply op).2 := by
  obtain ⟨p, hreaches⟩ := h
  exact ⟨p, hreaches.apply trivial⟩

theorem Reachable.text_eq (h : Reachable t a) : a.scanner.text = t := by
  obtain ⟨p, hreaches⟩ := h
  exact (hreaches.text_eq ⟨rfl, nofun⟩).1

/-- The cursors behind the next character are at the same place. -/
theorem Reachable.read_position_eq (ha : Reachable t a) (hb : Reachable t b)
    (h : a.scanner.position = b.scanner.position) :
    a.scanner.read.2.position = b.scanner.read.2.position :=
  congrArg Span.stop (readSpan_congr (ha.text_eq.trans hb.text_eq.symm) h)

theorem Reachable.slice_eq_slice_iff (ha : Reachable t a) (hb : Reachable t b)
    (hmarked : a.scanner.marked = b.scanner.marked)
    (hposition : a.scanner.position = b.scanner.position) :
    (a.scanner.slice = b.scanner.slice ↔
      a.scanner.cursor.altered = b.scanner.cursor.altered ∨
        isPlain (t.between a.scanner.marked.offset a.scanner.position.offset) = true) ∧
    (a.scanner.sliceThrough = b.scanner.sliceThrough ↔
      a.scanner.read.2.cursor.altered = b.scanner.read.2.cursor.altered ∨
        isPlain (t.between a.scanner.marked.offset a.scanner.read.2.position.offset) = true) := by
  have htext : a.scanner.text = b.scanner.text := ha.text_eq.trans hb.text_eq.symm
  have hread := ha.read_position_eq hb hposition
  rw [← ha.text_eq]
  refine ⟨?_, ?_⟩
  · exact sliceTo_eq_sliceTo_iff htext (by rw [hmarked]) (congrArg Position.offset hposition)
  · exact sliceTo_eq_sliceTo_iff htext (by rw [hmarked]) (congrArg Position.offset hread)

/-! ## Texts in which no route tells -/

theorem slicesByRange_of_isPlain (h : isPlain t.toString.toList = true) : SlicesByRange t := by
  intro a b ha hb hmarked hposition
  have hplain (start stop : Int) : isPlain (t.between start stop) = true :=
    ((Text.isPlain_toList_iff.mp h).anywhere start stop).isPlain_between
  have hnormal (stop : Cursor) : a.scanner.sliceTo stop =
      normalize (t.between a.scanner.marked.offset stop.offset) := by
    rw [sliceTo_eq_ite, ha.text_eq, normalize_eq_self_iff.mpr (hplain _ _), ite_self]
  obtain ⟨hslice, hthrough⟩ := ha.slice_eq_slice_iff hb hmarked hposition
  exact ⟨hslice.mpr (.inr (hplain _ _)), hthrough.mpr (.inr (hplain _ _)), hnormal _, hnormal _⟩

theorem isPlain_of_slicesByRange (h : SlicesByRange t) : isPlain t.toString.toList = true := by
  refine Text.isPlain_toList_iff.mpr fun i _ hi halters => ?_
  -- one session goes from here to the end of the text at once, the other reads first
  let start := ofScanner (startingAt t ⟨i, 1, 1⟩)
  let last : Position := ⟨t.size, 1, 1⟩
  let moved := (start.apply (.moveTo last)).2
  let passed := ((start.apply .read).2.apply (.moveTo last)).2
  have hmoved : Reachable t moved := (reachable_startingAt t _).apply _
  have hpassed : Reachable t passed := ((reachable_startingAt t _).apply _).apply _
  have hflag : passed.scanner.cursor.altered = true :=
    Cursor.altered_read_of_altersAt (c := start.scanner.cursor) rfl halters
  have hraw : isPlain (t.between i t.size) = false := by
    rw [Text.between_of_inside (Int.natCast_nonneg i) hi (Int.le_refl _)]
    exact halters.not_isPlain
  have hsame := (h moved passed hmoved hpassed rfl rfl).1
  rcases (hmoved.slice_eq_slice_iff hpassed rfl rfl).1.mp hsame with hflags | hplain
  · rw [hflag] at hflags
    exact nomatch hflags
  · exact nomatch hplain.symm.trans hraw

/-- **Slices and routes.** Of two sessions with the same mark and the same cursor,
the slices are the same if the flags are, and otherwise only where normalizing
changes nothing. No route tells in the texts without a carriage return and without
a backslash directly before a line feed, and in no others. -/
theorem slicesByRange_iff (t : Text) :
    (∀ a b : Session, Reachable t a → Reachable t b →
      a.scanner.marked = b.scanner.marked → a.scanner.position = b.scanner.position →
      (a.scanner.slice = b.scanner.slice ↔
        a.scanner.cursor.altered = b.scanner.cursor.altered ∨
          isPlain (t.between a.scanner.marked.offset a.scanner.position.offset) = true) ∧
      (a.scanner.sliceThrough = b.scanner.sliceThrough ↔
        a.scanner.read.2.cursor.altered = b.scanner.read.2.cursor.altered ∨
          isPlain (t.between a.scanner.marked.offset a.scanner.read.2.position.offset) = true)) ∧
    (SlicesByRange t ↔ isPlain t.toString.toList = true) :=
  ⟨fun _ _ ha hb => ha.slice_eq_slice_iff hb, isPlain_of_slicesByRange, slicesByRange_of_isPlain⟩

/-- One session reads a carriage return, another moves over it: mark and cursor are
the same, the slices are not. -/
theorem slice_of_move_over_return :
    let t := Text.ofString "a\rb"
    let start := ofScanner (startingAt t .origin)
    let passed := (start.apply (.readMany (some 2))).2
    let moved := (start.apply (.moveTo ⟨2, 2, 1⟩)).2
    passed.scanner.marked = moved.scanner.marked ∧
      passed.scanner.position = moved.scanner.position ∧
      passed.scanner.slice = ['a', '\n'] ∧ moved.scanner.slice = ['a', '\r'] ∧
      ¬ SlicesByRange t := by
  intro t start passed moved
  have hpassed : Reachable t passed := (reachable_startingAt t _).apply _
  have hmoved : Reachable t moved := (reachable_startingAt t _).apply _
  have hmarked : passed.scanner.marked = moved.scanner.marked := by decide +kernel
  have hposition : passed.scanner.position = moved.scanner.position := by decide +kernel
  have hslice : passed.scanner.slice = ['a', '\n'] := by decide +kernel
  have hslice' : moved.scanner.slice = ['a', '\r'] := by decide +kernel
  refine ⟨hmarked, hposition, hslice, hslice', fun h => ?_⟩
  have hsame := (h passed moved hpassed hmoved hmarked hposition).1
  rw [hslice, hslice'] at hsame
  exact absurd hsame (by decide)

end Session

end TextScan.Scanner
