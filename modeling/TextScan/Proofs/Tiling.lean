import Mathlib.Algebra.GroupWithZero.Nat
import TextScan.Proofs.Slices

/-! What spans are made of. A reading passes backslashes and line breaks in pairs and
takes one character behind them, in the way it is written (`spelled_readSpan`). The
spans of a text follow one another up to its end (`tile_readAll`), so that each byte
is in just one of them, the span of the end of input included (`readAll_tile`). -/

namespace TextScan

open LineBreaks

/-- How a character stands in a text: as it is, or, if it is a line feed, in one of
the other ways to write a line break. -/
def Spells (raw : List Char) (c : Char) : Prop :=
  raw = [c] ∧ c ≠ carriageReturn ∨
    c = lineFeed ∧ (raw = [carriageReturn] ∨ raw = [carriageReturn, lineFeed])

namespace Span

/-- The characters of the bytes a span was read from. -/
def raw (t : Text) (s : Span) : List Char := t.between s.start.offset s.stop.offset

/-- The bytes of a span are those of backslashes and line breaks in pairs, and then
those of its character, if it has one. -/
def Spelled (t : Text) (s : Span) : Prop :=
  match s.char? with
  | none => Paired (unify (s.raw t))
  | some c => ∃ mid, s.start.offset ≤ mid ∧ mid < s.stop.offset ∧
      Paired (unify (t.between s.start.offset mid)) ∧ Spells (t.between mid s.stop.offset) c

theorem Spelled.byteCount_pos {t : Text} {s : Span} (h : s.Spelled t) (hend : s.isEnd = false) :
    0 < s.byteCount := by
  obtain ⟨_ | c, start, stop⟩ := s
  · exact nomatch hend
  · obtain ⟨mid, hle, hlt, -⟩ := h
    simp only [byteCount] at hle hlt ⊢
    omega

/-- The spans follow one another from `p` to `q`, without gap or overlap. -/
def Tile (p : Position) : List Span → Position → Prop
  | [], q => p = q
  | s :: rest, q => s.start = p ∧ Tile s.stop rest q

variable {p q : Position} {spans : List Span}

theorem sum_byteCount_of_tile (h : Tile p spans q)
    (hle : ∀ s ∈ spans, s.start.offset ≤ s.stop.offset) :
    ((spans.map byteCount).sum : Int) = q.offset - p.offset := by
  induction spans generalizing p with
  | nil =>
    obtain rfl : p = q := h
    simp
  | cons s spans ih =>
    obtain ⟨rfl, hrest⟩ := h
    obtain ⟨hs, hspans⟩ := List.forall_mem_cons.mp hle
    rw [List.map_cons, List.sum_cons, Int.natCast_add, ih hrest hspans, byteCount]
    omega

end Span

namespace Cursor

variable {t : Text} {c next : Cursor} {char : Char}

theorem spells_of_step? (h : c.step? t = some (char, next)) :
    Spells (t.between c.offset next.offset) char := by
  have hmoved := offset_lt_of_step? h
  rw [Text.between_of_inside hmoved.1 (by omega) hmoved.2.2]
  obtain ⟨i, hi, -, ⟨hx, rfl, rfl⟩ | ⟨hx, hreturn, hnext⟩⟩ := step?_cases h
  · have hone : t.decodeAt i = (carriageReturn, 1) := Text.decodeAt_of_fst_eq (by decide) hx
    have hreturn : t.decodeRange i (i + 1) = [carriageReturn] := by
      have hrange := Text.decodeRange_width t i
      rwa [hone] at hrange
    rw [hone, passReturn_advance_offset hi, hi, Int.toNat_natCast, Int.toNat_natCast]
    refine Or.inr ⟨rfl, ?_⟩
    split
    · next hfeed =>
      have htwo : t.decodeAt (i + 1) = (lineFeed, 1) :=
        Text.decodeAt_eq_of_decode (Text.lineFeedAt_iff.mp hfeed)
      have hfeed : t.decodeRange (i + 1) (i + 1 + 1) = [lineFeed] := by
        have hrange := Text.decodeRange_width t (i + 1)
        rwa [htwo] at hrange
      right
      rw [Text.decodeRange_of_width_le (by rw [hone]; exact Nat.le_succ _), hone]
      exact congrArg (carriageReturn :: ·) hfeed
    · exact Or.inl hreturn
  · have hstop : next.offset = (i + (t.decodeAt i).2 : Nat) := by
      rw [hnext]
      exact offset_of_keep hi _ _
    refine Or.inl ⟨?_, hreturn⟩
    rw [hstop, hi, Int.toNat_natCast, Int.toNat_natCast, Text.decodeRange_width, hx]

end Cursor

namespace Scanner

open Cursor TextScan.Span

variable {s : Scanner}

theorem spelled_readSpan (s : Scanner) : s.readSpan.1.Spelled s.text := by
  obtain ⟨cs, hsteps, hcs, -⟩ := read_steps s.text s.cursor
  obtain ⟨mid, hpassed, htaken⟩ := hsteps.split
  have hpairs : Paired (unify (s.text.between s.position.offset mid.offset)) := by
    rw [show unify (s.text.between s.position.offset mid.offset) = cs from hpassed.unify_between]
    exact reduce_eq_nil_iff.mp hcs
  rw [readSpan_fst]
  cases hread : s.read.1 with
  | none =>
    rw [show (s.cursor.read s.text).1 = none from hread] at htaken
    have hstop : s.read.2.position = mid := htaken.eq_of_nil
    change Paired (unify (s.text.between s.position.offset s.read.2.position.offset))
    rwa [hstop]
  | some c =>
    rw [show (s.cursor.read s.text).1 = some c from hread] at htaken
    obtain ⟨d, next, hstep, hmid, hnext⟩ := htaken.exists_step?
    have hstop : s.read.2.position = next.position := hnext
    refine ⟨mid.offset, hpassed.offset_le, ?_, hpairs, ?_⟩
    · rw [hstop, ← hmid]
      exact (offset_lt_of_step? hstep).2.1
    · rw [hstop, ← hmid]
      exact spells_of_step? hstep

theorem tile_readAll (s : Scanner) :
    Tile s.position (s.readAll.1 ++ [s.readAll.2.1]) s.readAll.2.2.position := by
  refine readAll_induction (motive := fun s r =>
    Tile s.position (r.1 ++ [r.2.1]) r.2.2.position) ?_ ?_ s
  · exact fun s _ => ⟨rfl, rfl⟩
  · exact fun s _ ih => ⟨rfl, ih⟩

theorem spelled_readAll (s : Scanner) :
    ∀ span ∈ s.readAll.1 ++ [s.readAll.2.1], span.Spelled s.text :=
  forall_mem_readAll fun d hd => hd ▸ spelled_readSpan d

theorem sum_byteCount_readAll {i : Nat} (h : s.position.offset = i) :
    ((s.readAll.1 ++ [s.readAll.2.1]).map byteCount).sum = s.text.size - i := by
  have hle : ∀ span ∈ s.readAll.1 ++ [s.readAll.2.1], span.start.offset ≤ span.stop.offset :=
    forall_mem_readAll fun d _ => offset_le_read d.text d.cursor
  have hsum := sum_byteCount_of_tile (tile_readAll s) hle
  rw [offset_readAll (by omega), h] at hsum
  omega

/-- **Spans tile the text.** From any offset, also within a character or a line break,
up to the end of input: the spans follow one another, their bytes are all that come,
and each consists of backslashes and line breaks in pairs, behind which its character
stands, if it has one. All but the span of the end of input have. -/
theorem readAll_tile (t : Text) (i line column : Nat) :
    let start : Position := ⟨i, line, column⟩
    let (spans, last, next) := (startingAt t start).readAll
    Tile start (spans ++ [last]) next.position ∧
      ((spans ++ [last]).map byteCount).sum = t.size - i ∧
      (∀ span ∈ spans, span.char?.isSome ∧ 0 < span.byteCount) ∧ last.char? = none ∧
      ∀ span ∈ spans ++ [last], span.Spelled t := by
  intro start
  have hspelled := spelled_readAll (startingAt t start)
  obtain ⟨hspans, hlast⟩ := isEnd_readAll (startingAt t start)
  refine ⟨tile_readAll (startingAt t start), sum_byteCount_readAll rfl, ?_,
    Option.isNone_iff_eq_none.mp hlast, hspelled⟩
  intro span hspan
  have hchar := hspans span hspan
  refine ⟨?_, (hspelled span (List.mem_append_left _ hspan)).byteCount_pos hchar⟩
  rwa [isEnd, Option.isNone_eq_false_iff] at hchar

end Scanner

end TextScan
