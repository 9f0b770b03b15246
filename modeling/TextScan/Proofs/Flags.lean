import TextScan.Proofs.Consumption
import TextScan.Proofs.Slices

/-! When the flag is up. A reading raises it exactly if the characters of the bytes it
takes are not plain (`altered_read`); what the lookahead behind a backslash comes across
counts only if it is taken as well. Readings take their bytes one behind the other
(`Steps.between_append`), so that from the mark on the flag says whether normalizing
changes anything (`altered_of_reaches`), as long as nothing moves the scanner. -/

namespace TextScan

open LineBreaks

namespace Cursor

variable {t : Text} {c next : Cursor} {char : Char} {j : Nat}

/-! ## The characters of the bytes that are taken -/

theorem decodeRange_of_step? (h : c.step? t = some (char, next)) (hj : next.offset.toNat ≤ j) :
    t.decodeRange c.offset.toNat j =
      t.decodeRange c.offset.toNat next.offset.toNat ++ t.decodeRange next.offset.toNat j := by
  obtain ⟨i, hi, -, ⟨hx, -, hnext⟩ | ⟨-, -, hnext⟩⟩ := step?_cases h
  · have hone : t.decodeAt i = (carriageReturn, 1) := Text.decodeAt_of_fst_eq (by decide) hx
    rw [hnext, hone, passReturn_advance_offset hi, Int.toNat_natCast] at hj ⊢
    rw [hi, Int.toNat_natCast]
    exact Text.decodeRange_append_return hx hj
  · have hstop : next.offset = (i + (t.decodeAt i).2 : Nat) := by
      rw [hnext]
      exact offset_of_keep hi _ _
    rw [hstop, Int.toNat_natCast] at hj ⊢
    rw [hi, Int.toNat_natCast]
    exact Text.decodeRange_append_width hj

theorem Steps.decodeRange_append {p q : Position} {cs : List Char} (h : Steps t p cs q)
    (hj : q.offset.toNat ≤ j) :
    t.decodeRange p.offset.toNat j =
      t.decodeRange p.offset.toNat q.offset.toNat ++ t.decodeRange q.offset.toNat j := by
  induction h with
  | refl => rw [Text.decodeRange_of_le (Nat.le_refl _), List.nil_append]
  | step first rest ih =>
    have hnext := Int.toNat_le_toNat rest.offset_le
    rw [decodeRange_of_step? first (Nat.le_trans hnext hj), ih hj, ← List.append_assoc,
      ← decodeRange_of_step? first hnext]

theorem Steps.between_append {p q r : Position} {cs ds : List Char} (h : Steps t p cs q)
    (h' : Steps t q ds r) :
    t.between p.offset r.offset = t.between p.offset q.offset ++ t.between q.offset r.offset := by
  by_cases hp : 0 ≤ p.offset ∧ p.offset < t.size
  · have hle := h.offset_le
    have hle' := h'.offset_le
    have hq := h.offset_le_size (Int.le_of_lt hp.2)
    have hr := h'.offset_le_size hq
    rw [Text.between_of_inside hp.1 hp.2 hr, Text.between_of_inside hp.1 hp.2 hq,
      h.decodeRange_append (Int.toNat_le_toNat hle')]
    by_cases hend : q.offset < t.size
    · rw [Text.between_of_inside (by omega) hend hr]
    · rw [Text.between_of_outside (by omega),
        Text.decodeRange_of_le (i := q.offset.toNat) (by omega)]
  · have hout : p.offset < 0 ∨ (t.size : Int) ≤ p.offset := by omega
    rw [(h.eq_nil hout).2, Text.between_of_outside hout, Text.between_of_outside hout,
      List.append_nil]

/-! ## One reading -/

/-- Only a step over a carriage return raises the flag. -/
theorem altered_step? (h : c.step? t = some (char, next)) (haltered : next.altered = true) :
    c.altered = true ∨ isPlain (t.between c.offset next.offset) = false := by
  obtain ⟨hinside, hmoved, hsize⟩ := offset_lt_of_step? h
  obtain ⟨i, hi, -, ⟨hx, -, -⟩ | ⟨-, -, rfl⟩⟩ := step?_cases h
  · right
    have hone : t.decodeAt i = (carriageReturn, 1) := Text.decodeAt_of_fst_eq (by decide) hx
    have hfits : i + (t.decodeAt i).2 ≤ next.offset.toNat := by
      rw [hone]
      dsimp only
      omega
    rw [Text.between_of_inside hinside (by omega) hsize, hi, Int.toNat_natCast,
      Text.decodeRange_of_width_le hfits, hone]
    rfl
  · exact .inl haltered

/-- **When a reading raises the flag**: if normalizing would change the characters of the
bytes it has taken, and only then. -/
theorem altered_read (t : Text) (c : Cursor) : (c.read t).2.altered = true ↔
    c.altered = true ∨ isPlain (t.between c.offset (c.read t).2.offset) = false := by
  constructor
  · refine read_induction (motive := fun c r => r.2.altered = true →
      c.altered = true ∨ isPlain (t.between c.offset r.2.offset) = false) ?_ ?_ ?_ ?_ c
    · exact fun c _ haltered => .inl haltered
    · exact fun c char next hs _ haltered => altered_step? hs haltered
    · exact fun c next hs _ _ haltered => altered_step? hs haltered
    · intro c next ahead hs hread _ _ _
      obtain ⟨cs, hahead, hcs, -⟩ := read_steps t next
      obtain ⟨ds, hrest, -, -⟩ := read_steps t ahead.alter
      rw [hread] at hahead
      have hsteps := Steps.step hs (hahead.trans hrest)
      refine .inr (Bool.eq_false_iff.mpr fun hplain => ?_)
      have hfree := escapeFree_unify hplain
      rw [hsteps.unify_between, List.append_assoc] at hfree
      exact not_escapeFree_of_reduce_eq_nil hcs hfree
  · intro h
    by_contra haltered
    obtain ⟨hbefore, hplain⟩ := unaltered_read (Bool.not_eq_true _ ▸ haltered)
    rcases h with hup | hchanged
    · exact nomatch hup.symm.trans hbefore
    · exact nomatch hplain.isPlain_between.symm.trans hchanged

/-- Where the lookahead behind a backslash finds no line break, only the backslash is taken,
with nothing of the flag that the lookahead ends with. -/
theorem read_of_failed_lookahead (h : c.step? t = some ('\\', next))
    (hahead : (next.read t).1 ≠ some lineFeed) :
    c.read t = (some '\\', next) ∧ next.altered = c.altered := by
  refine ⟨?_, ?_⟩
  · rw [read_eq, h]
    exact if_neg fun hboth => hahead hboth.2
  · obtain ⟨i, -, -, ⟨-, hfeed, -⟩ | ⟨-, -, rfl⟩⟩ := step?_cases h
    · exact absurd hfeed (by decide)
    · rfl

end Cursor

namespace Scanner

open Cursor

/-- The reading that has raised the flag has taken characters that normalizing changes, and
they are still between the mark and the cursor. -/
theorem not_isPlain_of_altered (t : Text) (p : Position) (n : Nat)
    (h : ((startingAt t p).readTimes n).2.cursor.altered = true) :
    isPlain (t.between p.offset ((startingAt t p).readTimes n).2.position.offset) = false := by
  induction n with
  | zero => exact nomatch h
  | succ n ih =>
    rw [readTimes_succ_snd] at h ⊢
    generalize hs : ((startingAt t p).readTimes n).2 = s at h ih ⊢
    obtain rfl : s.text = t := by rw [← hs, readTimes_text]; rfl
    obtain ⟨cs, hbefore, -, -⟩ := readTimes_steps n (startingAt s.text p)
    obtain ⟨ds, hlast, -, -⟩ := readTimes_steps 1 s
    rw [hs] at hbefore
    have hcut : s.text.between p.offset s.read.2.position.offset =
        s.text.between p.offset s.position.offset ++
          s.text.between s.position.offset s.read.2.position.offset := hbefore.between_append hlast
    rw [hcut, Bool.eq_false_iff]
    intro hplain
    rcases (altered_read s.text s.cursor).mp h with hup | hchanged
    · exact nomatch (isPlain_left hplain).symm.trans (ih hup)
    · exact nomatch (isPlain_right hplain).symm.trans hchanged

/-- From the mark on, the flag tells whether normalizing would change anything. -/
theorem altered_readTimes (t : Text) (p : Position) (n : Nat) :
    let last := ((startingAt t p).readTimes n).2
    last.cursor.altered = true ↔ isPlain (t.between p.offset last.position.offset) = false := by
  intro last
  refine ⟨not_isPlain_of_altered t p n, fun hchanged => ?_⟩
  by_contra haltered
  have hsound : last.FlagSound := (flagSound_startingAt t p).readTimes n
  have hplain := (hsound (Bool.not_eq_true _ ▸ haltered)).isPlain_between
  rw [readTimes_text, readTimes_marked] at hplain
  exact nomatch hplain.symm.trans hchanged

/-! ## Sessions -/

/-- Reading has brought the scanner to where it is from its mark. -/
def HasRead (s : Scanner) : Prop := ∃ n, s = ((startingAt s.text s.marked).readTimes n).2

theorem HasRead.read {s : Scanner} (h : s.HasRead) : s.read.2.HasRead := by
  obtain ⟨n, hn⟩ := h
  refine ⟨n + 1, ?_⟩
  rw [readTimes_succ_snd]
  exact congrArg (·.read.2) hn

theorem hasRead_mark (s : Scanner) : s.mark.HasRead := ⟨0, rfl⟩

namespace Session

variable {session : Session}

/-- The operation moves nowhere; it may put back a scanner that was saved. -/
def Stays (session : Session) (op : Operation) : Prop := op.target? session.scanner = none

theorem Reaches.hasRead {s : Scanner} (h : Reaches Stays (ofScanner s.mark) session) :
    session.scanner.HasRead := by
  refine (h.everywhere (P := HasRead) ⟨hasRead_mark s, nofun⟩ (fun _ hs => hs.read)
    (fun s _ => hasRead_mark s) ?_).1
  intro session op p hstays hp
  exact nomatch hstays.symm.trans hp

/-- **The flag is exact.** From any mark, whatever is read, marked again, saved and put
back: the flag is up just if normalizing would change the characters between mark and
cursor. Each reading raises it just if it would change those that it takes, and a lookahead
that finds no line break leaves it as it is. -/
theorem altered_of_reaches (s : Scanner) (h : Reaches Stays (ofScanner s.mark) session) :
    let last := session.scanner
    (last.cursor.altered = true ↔
      isPlain (s.text.between last.marked.offset last.position.offset) = false) ∧
    (last.read.2.cursor.altered = true ↔ last.cursor.altered = true ∨
      isPlain (s.text.between last.position.offset last.read.2.position.offset) = false) ∧
    ∀ next, last.cursor.step? s.text = some ('\\', next) →
      (next.read s.text).1 ≠ some lineFeed →
      last.read.2.cursor = next ∧ next.altered = last.cursor.altered := by
  intro last
  have htext : last.text = s.text := (h.text_eq ⟨rfl, nofun⟩).1
  obtain ⟨n, hn⟩ := h.hasRead
  replace hn : last = ((startingAt last.text last.marked).readTimes n).2 := hn
  rw [← htext]
  refine ⟨?_, altered_read last.text last.cursor, ?_⟩
  · have hflag := altered_readTimes last.text last.marked n
    rwa [← hn] at hflag
  · intro next hstep hahead
    obtain ⟨hread, hflag⟩ := read_of_failed_lookahead hstep hahead
    exact ⟨congrArg Prod.snd hread, hflag⟩

/-- Behind the first backslash the lookahead passes an escaped carriage return and finds a
letter. So only the second reading raises the flag, and it is down again where the scanner
that was saved between them is put back. -/
theorem altered_of_reaches_lookahead :
    let start := ofText (Text.ofString "\\\\\ra")
    let first := ofScanner start.mark
    let saved := ((first.apply .read).2.apply .save).2
    let passed := (saved.apply .skip).2
    let back := (passed.apply .restore).2
    Reaches Stays first passed ∧ passed.scanner.cursor.altered = true ∧
      Reaches Stays first back ∧ back.scanner.cursor.altered = false := by
  intro start first saved passed back
  have hpassed : Reaches Stays first passed := ((Reaches.start.apply rfl).apply rfl).apply rfl
  have hback : Reaches Stays first back := hpassed.apply rfl
  refine ⟨hpassed, (altered_of_reaches start hpassed).1.mpr (by decide +kernel), hback, ?_⟩
  rw [Bool.eq_false_iff]
  intro hup
  have hchanged := (altered_of_reaches start hback).1.mp hup
  exact absurd hchanged (by decide +kernel)

end Session

end Scanner

end TextScan
