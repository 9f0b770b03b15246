import TextScan.Proofs.Reading

/-! When slices need normalizing. Normalizing changes a text at single bytes
(`Text.AltersAt`); a range without any is plain (`isPlain_decodeRange`), and so is
the whole text only if it has none (`isPlain_toList_iff`). A cursor that has not been
altered has passed none of them (`unaltered_read`), so a slice taken on the word of
the flag is the normalized text (`slice_eq_normalize`). -/

namespace TextScan

open LineBreaks

namespace Text

/-- A carriage return stands here, or a backslash directly before a line feed. -/
def AltersAt (t : Text) (i : Nat) : Prop :=
  (t.decodeAt i).1 = carriageReturn ∨
    (t.decodeAt i).1 = '\\' ∧ (t.decodeAt (i + 1)).1 = lineFeed

/-- Normalizing changes nothing between two offsets. -/
def Unaltered (t : Text) (start stop : Int) : Prop :=
  ∀ i : Nat, start ≤ i → i < stop → ¬ t.AltersAt i

variable {t : Text} {a b c d : Int} {i j : Nat}

theorem unaltered_of_le (h : b ≤ a) : t.Unaltered a b := fun i ha hb => by omega

theorem Unaltered.append (h : t.Unaltered a b) (h' : t.Unaltered b c) : t.Unaltered a c := by
  intro i ha hc
  by_cases hb : (i : Int) < b
  · exact h i ha hb
  · exact h' i (by omega) hc

theorem Unaltered.mono (h : t.Unaltered a d) (hab : a ≤ b) (hcd : c ≤ d) : t.Unaltered b c :=
  fun i hb hc => h i (by omega) (by omega)

theorem AltersAt.isSome_decode (h : t.AltersAt i) : (t.bytes.utf8DecodeChar? i).isSome := by
  rcases h with hcr | ⟨hback, -⟩
  · exact Option.isSome_of_eq_some ((decodeAt_fst_eq_iff (by decide)).mp hcr)
  · exact Option.isSome_of_eq_some ((decodeAt_fst_eq_iff (by decide)).mp hback)

theorem AltersAt.lt_size (h : t.AltersAt i) : i < t.size :=
  ByteArray.lt_size_of_isSome_utf8DecodeChar? h.isSome_decode

/-- The bytes within a character are no places where anything is altered. -/
theorem not_altersAt_within {k : Nat} (hpos : 0 < k) (hk : k < (t.decodeAt i).2) :
    ¬ t.AltersAt (i + k) := by
  intro halters
  have hstart := halters.isSome_decode
  rw [decode_within_width hpos hk] at hstart
  exact nomatch hstart

/-- Where nothing in the text is altered, nothing is altered anywhere. -/
theorem Unaltered.anywhere (h : t.Unaltered 0 t.size) (a b : Int) : t.Unaltered a b :=
  fun i _ _ halters => h i (Int.natCast_nonneg i) (by exact_mod_cast halters.lt_size) halters

theorem isPlain_decodeRange {i j : Nat} (h : t.Unaltered i j) :
    isPlain (t.decodeRange i j) = true := by
  by_cases hlt : i < j
  · by_cases hwidth : i + (t.decodeAt i).2 ≤ j
    · have hhere := h i (Int.le_refl _) (by omega)
      have hrest := isPlain_decodeRange (h.mono (b := (i + (t.decodeAt i).2 : Nat))
        (by omega) (Int.le_refl _))
      rw [decodeRange_of_width_le hwidth]
      refine isPlain_cons.mpr ⟨fun hreturn => hhere (Or.inl hreturn), ?_, hrest⟩
      rintro ⟨hback, hfeed⟩
      refine hhere (Or.inr ⟨hback, ?_⟩)
      have hone : (t.decodeAt i).2 = 1 := by rw [decodeAt_of_fst_eq (by decide) hback]; rfl
      rw [hone] at hfeed
      exact (decodeAt_fst_eq_iff (by decide)).mpr (decode_of_head?_decodeRange (by decide) hfeed)
    · rw [decodeRange_of_lt_width hlt (Nat.lt_of_not_le hwidth)]
      rfl
  · rw [decodeRange_of_le (Nat.le_of_not_lt hlt)]
    rfl
termination_by j - i
decreasing_by
  have := decodeAt_width_pos t i
  omega

theorem Unaltered.isPlain_between (h : t.Unaltered a b) : isPlain (t.between a b) = true := by
  rw [between]
  split
  · exact isPlain_decodeRange fun i hi hi' => h i (by omega) (by omega)
  · rfl

/-- From a place where something is altered on, a text is not plain. -/
theorem AltersAt.not_isPlain (h : t.AltersAt i) : isPlain (t.decodeRange i t.size) = false := by
  rw [decodeRange_of_width_le (decodeAt_width_le t h.lt_size), Bool.eq_false_iff, Ne, isPlain_cons]
  rintro ⟨hreturn, hescape, -⟩
  rcases h with hcr | ⟨hback, hfeed⟩
  · exact hreturn hcr
  · refine hescape ⟨hback, ?_⟩
    have hone : (t.decodeAt i).2 = 1 := by rw [decodeAt_of_fst_eq (by decide) hback]; rfl
    have hdecode := (decodeAt_fst_eq_iff (by decide)).mp hfeed
    have hnext := ByteArray.lt_size_of_isSome_utf8DecodeChar? (Option.isSome_of_eq_some hdecode)
    rw [hone, decodeRange_of_width_le (decodeAt_width_le t hnext), hfeed]
    rfl

theorem isPlain_toList_iff : isPlain t.toString.toList = true ↔ t.Unaltered 0 t.size := by
  rw [← decodeRange_zero_size]
  constructor
  · intro h i _ _ halters
    have hle := Nat.le_of_lt halters.lt_size
    rw [decodeRange_append (Nat.zero_le i) hle halters.isSome_decode] at h
    exact nomatch (isPlain_right h).symm.trans halters.not_isPlain
  · exact isPlain_decodeRange

end Text

namespace Cursor

variable {t : Text} {c next : Cursor} {char : Char}

/-- A step raises the flag at a carriage return. What a backslash stands before is
seen only behind it. -/
theorem unaltered_step? (h : c.step? t = some (char, next)) (haltered : next.altered = false)
    (hback : char = '\\' → (t.decodeAt next.offset.toNat).1 ≠ lineFeed) :
    c.altered = false ∧ t.Unaltered c.offset next.offset := by
  obtain ⟨i, hi, _, ⟨_, _, rfl⟩ | ⟨hx, hreturn, rfl⟩⟩ := step?_cases h
  · exact nomatch haltered
  · refine ⟨haltered, fun k hk hk' => ?_⟩
    simp only [offset, offset_ite_breakLine, Position.advance_offset] at hi hk hk' hback
    obtain ⟨m, rfl⟩ := Nat.exists_eq_add_of_le (show i ≤ k by omega)
    by_cases hm : m = 0
    · subst hm
      rintro (hcr | ⟨hslash, hfeed⟩)
      · exact hreturn (hx.symm.trans hcr)
      · have hone : t.decodeAt i = ('\\', 1) := Text.decodeAt_of_fst_eq (by decide) hslash
        refine hback (hx.symm.trans hslash) ?_
        rw [hi, hone]
        exact hfeed
    · exact Text.not_altersAt_within (Nat.pos_of_ne_zero hm) (by omega)

theorem read_of_lineFeed {i : Nat} (hi : c.offset = i) (h : (t.decodeAt i).1 = lineFeed) :
    (c.read t).1 = some lineFeed := by
  have hdecode := (Text.decodeAt_fst_eq_iff (by decide)).mp h
  have hlt : i < t.size :=
    ByteArray.lt_size_of_isSome_utf8DecodeChar? (Option.isSome_of_eq_some hdecode)
  rw [read_of_step? (step?_of_keep hi hlt (Text.decodeAt_of_fst_eq (by decide) h) (by decide))
    (by decide)]

/-- A cursor that is not altered has passed nothing that normalizing changes. -/
theorem unaltered_read (h : (c.read t).2.altered = false) :
    c.altered = false ∧ t.Unaltered c.offset (c.read t).2.offset := by
  revert h
  refine read_induction (motive := fun c r => r.2.altered = false →
    c.altered = false ∧ t.Unaltered c.offset r.2.offset) ?_ ?_ ?_ ?_ c
  · exact fun c _ h => ⟨h, Text.unaltered_of_le (Int.le_refl _)⟩
  · exact fun c char next hs hc h => unaltered_step? hs h fun hback => absurd hback hc
  · intro c next hs hfeed _ h
    have hoffset := offset_lt_of_step? hs
    exact unaltered_step? hs h fun _ hnext =>
      hfeed (read_of_lineFeed (Int.toNat_of_nonneg (by omega)).symm hnext)
  · intro c next ahead _ _ _ ih h
    exact nomatch (ih h).1

theorem altered_read_of_altersAt {i : Nat} (hi : c.offset = i) (h : t.AltersAt i) :
    (c.read t).2.altered = true := by
  by_contra haltered
  have hunaltered := (unaltered_read (Bool.not_eq_true _ ▸ haltered)).2
  have hlt := h.lt_size
  have hmoved := offset_lt_read_of_inside (t := t) (c := c) (by omega) (by omega)
  exact hunaltered i (by omega) (by omega) h

end Cursor

namespace Scanner

variable {s : Scanner}

/-- Where the flag is down, normalizing changes nothing from the mark to the
cursor. -/
def FlagSound (s : Scanner) : Prop :=
  s.cursor.altered = false → s.text.Unaltered s.marked.offset s.position.offset

theorem flagSound_startingAt (t : Text) (p : Position) : (startingAt t p).FlagSound :=
  fun _ => Text.unaltered_of_le (Int.le_refl _)

theorem flagSound_mark (s : Scanner) : s.mark.FlagSound :=
  fun _ => Text.unaltered_of_le (Int.le_refl _)

theorem FlagSound.read (h : s.FlagSound) : s.read.2.FlagSound := by
  intro haltered
  obtain ⟨hbefore, hread⟩ := Cursor.unaltered_read haltered
  exact (h hbefore).append hread

theorem FlagSound.readTimes (h : s.FlagSound) (n : Nat) : (s.readTimes n).2.FlagSound :=
  readTimes_preserves (fun _ h => h.read) n h

/-- Going back leaves a shorter part of what has been read. -/
theorem FlagSound.moveTo (h : s.FlagSound) {p : Position} (hp : p.offset ≤ s.position.offset) :
    (s.moveTo p).FlagSound :=
  fun haltered => (h haltered).mono (Int.le_refl _) hp

/-- What is taken between mark and stop, normalized or as it stands. -/
theorem sliceTo_eq_ite (s : Scanner) (stop : Cursor) :
    s.sliceTo stop =
      if stop.altered then normalize (s.text.between s.marked.offset stop.offset)
      else s.text.between s.marked.offset stop.offset := by
  rw [sliceTo]
  cases hi : s.text.index? s.marked.offset with
  | none =>
    rw [Text.between_of_outside (Text.index?_eq_none_iff.mp hi)]
    exact (ite_self []).symm
  | some i =>
    obtain ⟨hmarked, hlt⟩ := Text.index?_eq_some_iff.mp hi
    have hinside : 0 ≤ s.marked.offset ∧ s.marked.offset < s.text.size := by omega
    rw [Text.between, if_pos hinside, hmarked, Int.toNat_natCast]

/-- A slice is the normalized text wherever the flag can be trusted. -/
theorem sliceTo_eq_normalize {stop : Cursor}
    (h : stop.altered = false → s.text.Unaltered s.marked.offset stop.offset) :
    s.sliceTo stop = normalize (s.text.between s.marked.offset stop.offset) := by
  rw [sliceTo_eq_ite]
  split
  · rfl
  · next haltered =>
    exact (normalize_eq_self_iff.mpr (h (by simpa using haltered)).isPlain_between).symm

theorem slice_eq_normalize (h : s.FlagSound) :
    s.slice = normalize (s.text.between s.marked.offset s.position.offset) :=
  sliceTo_eq_normalize h

theorem sliceThrough_eq_normalize (h : s.FlagSound) :
    s.sliceThrough = normalize (s.text.between s.marked.offset s.read.2.position.offset) :=
  sliceTo_eq_normalize h.read

end Scanner

end TextScan
