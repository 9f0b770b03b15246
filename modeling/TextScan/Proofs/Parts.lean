import TextScan.Proofs.Ahead
import TextScan.Proofs.Places

/-! Parts of a text, read alone. Between two boundaries the bytes of a text are a
text too (`Text.part`), and steps that do not leave the part can be made in it
(`Steps.part`). A backslash can look behind the end of the part, but whoever reads
on to this end has seen that no line break came there, so the part alone decides the
same (`Takes.part`). What is read is therefore the same, only that it stands
elsewhere (`readAll_part`). -/

namespace TextScan

open LineBreaks

namespace Text

variable {t : Text} {i j k : Nat} {c : Char}

/-! ## Parts of a text -/

/-- No character lies across this offset; both ends of the text count. -/
def IsBoundary (t : Text) (i : Nat) : Prop := (⟨i⟩ : String.Pos.Raw).IsValid t.toString

instance (t : Text) (i : Nat) : Decidable (t.IsBoundary i) :=
  inferInstanceAs (Decidable ((⟨i⟩ : String.Pos.Raw).IsValid t.toString))

theorem isBoundary_iff : t.IsBoundary i ↔ i = t.size ∨ (t.bytes.utf8DecodeChar? i).isSome := by
  rw [IsBoundary, String.Pos.Raw.isValid_iff_isSome_utf8DecodeChar?, String.Pos.Raw.ext_iff]
  rfl

theorem IsBoundary.le_size (h : t.IsBoundary i) : i ≤ t.size := h.le_utf8ByteSize

theorem IsBoundary.isValidUTF8 (hi : t.IsBoundary i) (hj : t.IsBoundary j) :
    (t.bytes.extract i j).IsValidUTF8 := by
  by_cases hij : i ≤ j
  · exact (String.Pos.Raw.isValidUTF8_extract_iff (s := t.toString) ⟨i⟩ ⟨j⟩ hij hj.le_rawEndPos).mpr
      (.inr ⟨hi, hj⟩)
  · have hempty : t.bytes.extract i j = ByteArray.empty := by
      rw [ByteArray.extract_eq_empty_iff]
      omega
    rw [hempty]
    exact ByteArray.isValidUTF8_empty

/-- The text between two offsets, as a text of its own. -/
def part (t : Text) (hi : t.IsBoundary i) (hj : t.IsBoundary j) : Text :=
  ⟨t.bytes.extract i j, hi.isValidUTF8 hj⟩

/-- Behind a character stands a boundary. -/
theorem IsBoundary.next (hi : t.IsBoundary i) (hlt : i < t.size) :
    t.IsBoundary (i + (t.decodeAt i).2) := by
  obtain ⟨c, hc⟩ : ∃ c, t.bytes.utf8DecodeChar? i = some c := by
    rcases isBoundary_iff.mp hi with rfl | hsome
    · exact absurd hlt (Nat.lt_irrefl _)
    · exact Option.isSome_iff_exists.mp hsome
  have hchar : (t.bytes.extract i (i + c.utf8Size)).IsValidUTF8 := by
    rw [← encode_of_decode hc]
    exact ⟨[c], List.utf8Encode_singleton.symm⟩
  have hsplit : t.bytes.extract 0 (i + c.utf8Size) =
      t.bytes.extract 0 i ++ t.bytes.extract i (i + c.utf8Size) :=
    ByteArray.extract_eq_extract_append_extract i (Nat.zero_le i) (Nat.le_add_right _ _)
  rw [decodeAt_eq_of_decode hc]
  refine String.Pos.Raw.isValid_iff_isValidUTF8_extract_zero.mpr
    ⟨ByteArray.le_size_of_utf8DecodeChar?_eq_some hc, ?_⟩
  change (t.bytes.extract 0 (i + c.utf8Size)).IsValidUTF8
  rw [hsplit]
  exact (String.Pos.Raw.isValid_iff_isValidUTF8_extract_zero.mp hi).2.append hchar

/-- Behind a carriage return too, and behind the line feed that belongs to it. -/
theorem IsBoundary.next_of_return (hi : t.IsBoundary i) (hlt : i < t.size)
    (hx : (t.decodeAt i).1 = carriageReturn) :
    t.IsBoundary (if t.lineFeedAt (i + 1 : Nat) then i + 2 else i + 1) := by
  have hone : t.decodeAt i = (carriageReturn, 1) := decodeAt_of_fst_eq (by decide) hx
  have hbehind := hi.next hlt
  rw [hone] at hbehind
  split
  · next hfeed =>
    have htwo : t.decodeAt (i + 1) = (lineFeed, 1) :=
      decodeAt_eq_of_decode (lineFeedAt_iff.mp hfeed)
    have hlt' := (lt_size_of_lineFeedAt hfeed).2
    have hpair := hbehind.next (by omega)
    rw [htwo] at hpair
    exact hpair
  · exact hbehind

/-! ## Characters of a part -/

section

variable (hi : t.IsBoundary i) (hj : t.IsBoundary j)

theorem size_part : (t.part hi hj).size = j - i := by
  have hle := hj.le_size
  rw [size, part, ByteArray.size_extract]
  rw [size] at hle
  omega

/-- The characters of a part are those of the text that end in it. -/
theorem decode_part_iff : (t.part hi hj).bytes.utf8DecodeChar? k = some c ↔
    t.bytes.utf8DecodeChar? (i + k) = some c ∧ i + k + c.utf8Size ≤ j := by
  have hle : j ≤ t.bytes.size := hj.le_size
  have hpart : (t.part hi hj).bytes.extract k (t.part hi hj).bytes.size =
      t.bytes.extract (i + k) j := by
    rw [part, ByteArray.extract_extract, ByteArray.size_extract]
    congr 1
    omega
  rw [ByteArray.utf8DecodeChar?_eq_utf8DecodeChar?_extract, hpart]
  constructor
  · intro h
    have hsize := ByteArray.le_size_of_utf8DecodeChar?_eq_some h
    have hpos := Char.utf8Size_pos c
    rw [ByteArray.size_extract] at hsize
    refine ⟨?_, by omega⟩
    rw [ByteArray.utf8DecodeChar?_eq_utf8DecodeChar?_extract,
      ByteArray.extract_eq_extract_append_extract j (by omega) hle]
    exact ByteArray.utf8DecodeChar?_append_eq_some h _
  · rintro ⟨h, hend⟩
    rw [ByteArray.extract_eq_extract_append_extract (i + k + c.utf8Size) (by omega) hend,
      ← encode_of_decode h]
    exact ByteArray.utf8DecodeChar?_utf8EncodeChar_append

theorem decodeAt_part (h : i + k + (t.decodeAt (i + k)).2 ≤ j) :
    (t.part hi hj).decodeAt k = t.decodeAt (i + k) := by
  cases hd : t.bytes.utf8DecodeChar? (i + k) with
  | some c =>
    rw [decodeAt_eq_of_decode hd] at h ⊢
    exact decodeAt_eq_of_decode ((decode_part_iff hi hj).mpr ⟨hd, h⟩)
  | none =>
    have hnone : (t.part hi hj).bytes.utf8DecodeChar? k = none := by
      rw [Option.eq_none_iff_forall_ne_some]
      intro c hc
      rw [((decode_part_iff hi hj).mp hc).1] at hd
      exact nomatch hd
    simp only [decodeAt, hd, hnone]

theorem lineFeedAt_part_iff :
    (t.part hi hj).lineFeedAt k = true ↔ t.lineFeedAt (i + k : Nat) = true ∧ i + k < j := by
  rw [lineFeedAt_iff, lineFeedAt_iff, decode_part_iff]
  rfl

end

end Text

/-! ## Steps in a part -/

namespace Cursor

variable {t : Text} {i j : Nat} {p p' q : Position} {c next : Cursor} {char : Char} {cs : List Char}

theorem isBoundary_of_step? (h : c.step? t = some (char, next)) (hi : t.IsBoundary i)
    (hc : c.offset = i) : ∃ k : Nat, next.offset = k ∧ t.IsBoundary k := by
  obtain ⟨k, hk, hlt, hcases⟩ := step?_cases h
  obtain rfl : i = k := Int.ofNat_inj.mp (hc.symm.trans hk)
  rcases hcases with ⟨hx, -, rfl⟩ | ⟨-, -, rfl⟩
  · have hone : t.decodeAt i = (carriageReturn, 1) := Text.decodeAt_of_fst_eq (by decide) hx
    rw [hone]
    exact ⟨_, passReturn_advance_offset hc, hi.next_of_return hlt hx⟩
  · exact ⟨_, offset_of_keep hc _ _, hi.next hlt⟩

/-- Steps lead from boundary to boundary. -/
theorem Steps.isBoundary (h : Steps t p cs q) (hi : t.IsBoundary i) (hp : p.offset = i) :
    ∃ j : Nat, q.offset = j ∧ t.IsBoundary j := by
  induction h generalizing i with
  | refl p => exact ⟨i, hp, hi⟩
  | step first _ ih =>
    obtain ⟨k, hk, hboundary⟩ := isBoundary_of_step? first hi hp
    exact ih hboundary hk

variable (hi : t.IsBoundary i) (hj : t.IsBoundary j)

/-- A step that does not leave a part can be made in the part alone. -/
theorem step?_part {d : Cursor} (h : c.step? t = some (char, next)) (hd : 0 ≤ d.offset)
    (hc : c.offset = i + d.offset) (hnext : next.offset ≤ j) :
    ∃ next', d.step? (t.part hi hj) = some (char, next') ∧ next.offset = i + next'.offset := by
  obtain ⟨k, hk⟩ := Int.eq_ofNat_of_zero_le hd
  have hmoved := (offset_lt_of_step? h).2.1
  obtain ⟨m, hm, -, hcases⟩ := step?_cases h
  obtain rfl : m = i + k := by omega
  have hlt : k < (t.part hi hj).size := by rw [Text.size_part]; omega
  rcases hcases with ⟨hx, rfl, rfl⟩ | ⟨hx, hreturn, rfl⟩
  · have hone : t.decodeAt (i + k) = (carriageReturn, 1) := Text.decodeAt_of_fst_eq (by decide) hx
    rw [hone, passReturn_advance_offset hm] at hnext ⊢
    have hdecode : (t.part hi hj).decodeAt k = (carriageReturn, 1) := by
      rw [Text.decodeAt_part hi hj (by rw [hone]; split at hnext <;> omega), hone]
    -- a line feed that belongs to the return is in the part, as the step ends in it
    have hfeed : (t.part hi hj).lineFeedAt (k + 1 : Nat) = t.lineFeedAt (i + k + 1 : Nat) := by
      rw [Bool.eq_iff_iff, Text.lineFeedAt_part_iff, ← Nat.add_assoc]
      refine and_iff_left_of_imp fun hlf => ?_
      rw [if_pos hlf] at hnext
      omega
    refine ⟨_, step?_of_return hk hlt hdecode, ?_⟩
    rw [passReturn_advance_offset hk, hfeed]
    split <;> omega
  · have hstop := offset_of_keep hm (char = lineFeed) (t.decodeAt (i + k)).2
    have hwidth : i + k + (t.decodeAt (i + k)).2 ≤ j := by
      rw [offset, hstop] at hnext
      omega
    have hdecode : (t.part hi hj).decodeAt k = (char, (t.decodeAt (i + k)).2) := by
      rw [Text.decodeAt_part hi hj hwidth, ← hx]
    refine ⟨_, step?_of_keep hk hlt hdecode hreturn, ?_⟩
    rw [offset, hstop, offset, offset_of_keep hk]
    omega

theorem Steps.part (h : Steps t p cs q) (hp' : 0 ≤ p'.offset) (hp : p.offset = i + p'.offset)
    (hq : q.offset ≤ j) :
    ∃ q', Steps (t.part hi hj) p' cs q' ∧ q.offset = i + q'.offset := by
  induction h generalizing p' with
  | refl p => exact ⟨p', .refl p', hp⟩
  | @step c next char cs q first rest ih =>
    let d : Cursor := ⟨p', false⟩
    obtain ⟨next', hstep, hnext⟩ := step?_part hi hj (d := d) first hp' hp
      (Int.le_trans rest.offset_le hq)
    have hnonneg : 0 ≤ next'.position.offset :=
      Int.le_trans hp' (Int.le_of_lt (offset_lt_of_step? hstep).2.1)
    obtain ⟨q', hsteps, hoffset⟩ := ih hnonneg hnext hq
    exact ⟨q', .step hstep hsteps, hoffset⟩

/-- What is taken in a part is taken in the part alone, if steps lead on from there to
the end of the part. -/
theorem Takes.part {r : Position} {ds : List Char} (h : Takes t p cs (some char) q)
    (hrest : Steps t q ds r) (hp' : 0 ≤ p'.offset) (hp : p.offset = i + p'.offset)
    (hr : r.offset = j) :
    ∃ q', Takes (t.part hi hj) p' cs (some char) q' ∧ q.offset = i + q'.offset := by
  obtain ⟨q', hsteps, hq⟩ := h.steps.part hi hj hp' hp (by rw [← hr]; exact hrest.offset_le)
  have hnonneg : 0 ≤ q'.offset := Int.le_trans hp' hsteps.offset_le
  obtain ⟨r', hrest', hr'⟩ := hrest.part hi hj hnonneg hq (Int.le_of_eq hr)
  have hle := hrest'.offset_le
  have hend : (t.part hi hj).ahead r'.offset = [] := by
    refine Text.ahead_of_outside (.inr ?_)
    rw [Text.size_part]
    omega
  refine ⟨q', ⟨hsteps, h.passed, ?_, nofun⟩, hq⟩
  rintro x ⟨⟩
  -- what lies ahead in the part is the beginning of what lies ahead in the text
  have hkept := h.kept char rfl
  rw [hrest.ahead] at hkept
  rw [hrest'.ahead, hend, List.append_nil]
  exact hkept.left

end Cursor

/-! ## Places within a larger text -/

namespace Place

variable {p start : Place}

/-- A place in a text of its own, as a place in a larger text in which it begins at
`start`: the column moves on the first line only. -/
def within (p start : Place) : Place :=
  ⟨start.line + (p.line - 1), if p.line = 1 then start.column + (p.column - 1) else p.column⟩

/-- Lines and columns count from one. -/
structure Counted (p : Place) : Prop where
  line : 1 ≤ p.line
  column : 1 ≤ p.column

theorem Counted.pass (h : p.Counted) (c : Char) : (p.pass c).Counted := by
  rw [Place.pass]
  split
  · exact ⟨Nat.le_succ_of_le h.line, Nat.le_refl 1⟩
  · exact ⟨h.line, Nat.le_succ_of_le h.column⟩

theorem Counted.passAll (h : p.Counted) (cs : List Char) : (p.passAll cs).Counted := by
  induction cs generalizing p with
  | nil => exact h
  | cons c cs ih => exact ih (h.pass c)

theorem Counted.within_pass (h : p.Counted) (start : Place) (c : Char) :
    (p.pass c).within start = (p.within start).pass c := by
  obtain ⟨hline, hcolumn⟩ := h
  by_cases hc : c = lineFeed
  · subst hc
    rw [pass_lineFeed, pass_lineFeed, within, within, if_neg (by simp; omega)]
    congr 1
    simp only
    omega
  · rw [pass_of_ne _ hc, pass_of_ne _ hc, within, within]
    congr 1
    simp only
    split <;> omega

theorem Counted.within_passAll (h : p.Counted) (start : Place) (cs : List Char) :
    (p.passAll cs).within start = (p.within start).passAll cs := by
  induction cs generalizing p with
  | nil => rfl
  | cons c cs ih => rw [passAll_cons, passAll_cons, ih (h.pass c), h.within_pass]

end Place

/-- A position in a text of its own, as a position in a larger text in which it begins
at `start`. -/
def Position.within (p start : Position) : Position :=
  let place := p.place.within start.place
  ⟨start.offset + p.offset, place.line, place.column⟩

theorem Position.eq_within {p q start : Position} (hoffset : q.offset = start.offset + p.offset)
    (hplace : q.place = p.place.within start.place) : q = p.within start := by
  obtain ⟨offset, line, column⟩ := q
  obtain rfl : offset = start.offset + p.offset := hoffset
  rw [within, ← hplace]
  rfl

def Span.within (s : Span) (start : Position) : Span :=
  ⟨s.char?, s.start.within start, s.stop.within start⟩

/-! ## Reading a part -/

namespace Scanner

open Cursor

variable {t : Text} {i j : Nat} {hi : t.IsBoundary i} {hj : t.IsBoundary j} {line column : Nat}
  {s d : Scanner}

/-- `d` scans a part of a text alone, and `s` is at the same place in the text. -/
structure Within (hi : t.IsBoundary i) (hj : t.IsBoundary j) (line column : Nat)
    (s d : Scanner) : Prop where
  text : s.text = t
  part : d.text = t.part hi hj
  position : s.position = d.position.within ⟨i, line, column⟩
  nonneg : 0 ≤ d.position.offset
  counted : d.position.place.Counted

namespace Within

/-- A character read in the text is read in the part, if steps lead on from there to
the end of the part. -/
theorem read {c : Char} {ds : List Char} {r : Position} (h : Within hi hj line column s d)
    (hc : s.read.1 = some c) (hrest : Steps t s.read.2.position ds r) (hr : r.offset = j) :
    d.read.1 = some c ∧ Within hi hj line column s.read.2 d.read.2 := by
  obtain ⟨cs, htakes⟩ := takes_read s.text s.cursor
  rw [show (s.cursor.read s.text).1 = some c from hc, h.text] at htakes
  have hread : (s.cursor.read t).2.position = s.read.2.position := by rw [← h.text]; rfl
  rw [hread] at htakes
  obtain ⟨q, htakes', hq⟩ := htakes.part hi hj hrest h.nonneg
    (congrArg Position.offset h.position) hr
  rw [← h.part] at htakes'
  obtain ⟨hchar, hnext⟩ := htakes'.read_eq (c := d.cursor)
  have hplace : q.place = d.position.place.passAll _ := htakes'.steps.place
  have hnext' : d.read.2.position = q := hnext
  refine ⟨hchar, h.text, h.part, ?_, ?_, ?_⟩
  · rw [hnext']
    refine Position.eq_within hq ?_
    rw [hplace, h.counted.within_passAll, htakes.steps.place]
    exact congrArg (fun p : Position => p.place.passAll _) h.position
  · rw [hnext']
    exact Int.le_trans h.nonneg htakes'.steps.offset_le
  · rw [hnext', hplace]
    exact h.counted.passAll _

/-- At the end of the part, reading it alone finds nothing. -/
theorem readAll_of_end (h : Within hi hj line column s d) (hend : s.position.offset = j) :
    d.readAll = ([], ⟨none, d.position, d.position⟩, d) := by
  have hoffset : s.position.offset = i + d.position.offset :=
    congrArg Position.offset h.position
  have hnonneg := h.nonneg
  have hstep : d.cursor.step? d.text = none := by
    refine step?_eq_none_iff.mpr (.inr ?_)
    rw [h.part, Text.size_part]
    change ((j - i : Nat) : Int) ≤ d.position.offset
    omega
  have hspan : d.readSpan = (⟨none, d.position, d.position⟩, d) := by
    rw [readSpan, read_of_end hstep]
  rw [readAll_eq, hspan]
  rfl

/-- Spans that end with the part are all there is in the part. -/
theorem readAll (n : Nat) {s d : Scanner} (h : Within hi hj line column s d)
    (hn : (s.takeSpans n).1.length = n) (hlast : (s.takeSpans n).2.position.offset = j) :
    (s.takeSpans n).1 = d.readAll.1.map (·.within ⟨i, line, column⟩) ∧
      (s.takeSpans n).2.position = d.readAll.2.2.position.within ⟨i, line, column⟩ ∧
      d.readAll.2.1 = ⟨none, d.readAll.2.2.position, d.readAll.2.2.position⟩ := by
  induction n generalizing s d with
  | zero =>
    rw [h.readAll_of_end hlast]
    exact ⟨rfl, h.position, rfl⟩
  | succ n ih =>
    rw [takeSpans_succ] at hn hlast ⊢
    by_cases hend : s.readSpan.1.isEnd
    · rw [if_pos hend] at hn
      exact nomatch hn
    · rw [if_neg hend] at hn hlast ⊢
      obtain ⟨c, hc⟩ := exists_read_of_not_isEnd hend
      -- the other spans are the steps that lead on to the end of the part
      obtain ⟨m, hm⟩ := exists_readTimes_takeSpans n s.readSpan.2
      obtain ⟨ds, hrest, -, -⟩ := readTimes_steps m s.readSpan.2
      rw [hm] at hrest
      obtain ⟨hchar, hnext⟩ := h.read hc (h.text ▸ hrest) hlast
      obtain ⟨hspans, hposition, hlastSpan⟩ := ih hnext (Nat.succ_inj.mp hn) hlast
      have hspan : s.readSpan.1 = d.readSpan.1.within ⟨i, line, column⟩ := by
        change Span.mk s.read.1 s.position s.read.2.position =
          ⟨d.read.1, d.position.within _, d.read.2.position.within _⟩
        rw [hc, hchar, h.position, hnext.position]
      have hgoes : ¬ d.readSpan.1.isEnd := by simp [isEnd_readSpan_iff, hchar]
      rw [readAll_eq, if_neg hgoes, List.map_cons, ← hspan]
      exact ⟨congrArg _ hspans, hposition, hlastSpan⟩

end Within

/-- **Reading a part alone.** From a boundary in a text, at any line and column, read
some characters. The bytes they were read from are a text of their own. Read from its
start it has the same spans, only that they stand elsewhere, and behind them the input
ends at once. -/
theorem readAll_part (t : Text) {i : Nat} (hi : t.IsBoundary i) (line column n : Nat)
    (hn : ((startingAt t ⟨i, line, column⟩).takeSpans n).1.length = n) :
    let start : Position := ⟨i, line, column⟩
    let (spans, last) := (startingAt t start).takeSpans n
    ∃ (j : Nat) (hj : t.IsBoundary j), last.position.offset = j ∧
      let (alone, ending, stop) := (ofText (t.part hi hj)).readAll
      spans = alone.map (·.within start) ∧ last.position = stop.position.within start ∧
        ending = ⟨none, stop.position, stop.position⟩ := by
  intro start
  obtain ⟨m, hm⟩ := exists_readTimes_takeSpans n (startingAt t start)
  obtain ⟨cs, hsteps, -, -⟩ := readTimes_steps m (startingAt t start)
  rw [hm] at hsteps
  obtain ⟨j, hoffset, hj⟩ := Steps.isBoundary hsteps hi rfl
  have hwithin : Within hi hj line column (startingAt t start) (ofText (t.part hi hj)) :=
    ⟨rfl, rfl, Position.eq_within rfl rfl, Int.le_refl 0, ⟨Nat.le_refl 1, Nat.le_refl 1⟩⟩
  exact ⟨j, hj, hoffset, hwithin.readAll n hn hoffset⟩

/-- A part that begins behind an accent and ends with a backslash: the escaped break in
it moves the characters to the next line, and the backslash is one in the part too. -/
theorem readAll_part_of_escape :
    let t := Text.ofString "é\\\r\nb\\c"
    let spans : List Span :=
      [⟨some 'b', ⟨2, 1, 2⟩, ⟨6, 2, 2⟩⟩, ⟨some '\\', ⟨6, 2, 2⟩, ⟨7, 2, 3⟩⟩]
    ((startingAt t ⟨2, 1, 2⟩).takeSpans 2).1.length = 2 ∧
      ∃ (hi : t.IsBoundary 2) (j : Nat) (hj : t.IsBoundary j),
        spans = (ofText (t.part hi hj)).readAll.1.map (·.within ⟨2, 1, 2⟩) := by
  intro t spans
  have hi : t.IsBoundary 2 := by decide +kernel
  have hn : ((startingAt t ⟨2, 1, 2⟩).takeSpans 2).1.length = 2 := by decide +kernel
  have hspans : ((startingAt t ⟨2, 1, 2⟩).takeSpans 2).1 = spans := by decide +kernel
  obtain ⟨j, hj, -, hpart, -⟩ := readAll_part t hi 1 2 2 hn
  exact ⟨hn, hi, j, hj, hspans ▸ hpart⟩

end Scanner

end TextScan
