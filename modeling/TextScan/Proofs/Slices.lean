import TextScan.Proofs.Alterations

/-! Slices and what is read. A slice normalizes the bytes read since the mark in one
pass, and reading takes out escaped breaks as long as there are any, so the two
differ exactly where one pass leaves an escaped break behind
(`slice_mark_readTimes`). All slices of a text agree with reading if its own
normalized text has none left (`slices_agree_iff`). -/

namespace TextScan

open LineBreaks

namespace Cursor.Steps

variable {t : Text} {p q : Position} {cs : List Char}

theorem unify_between (h : Steps t p cs q) : unify (t.between p.offset q.offset) = cs := by
  by_cases hp : 0 ≤ p.offset ∧ p.offset < t.size
  · rw [Text.between_of_inside hp.1 hp.2 (h.offset_le_size (Int.le_of_lt hp.2))]
    exact h.unify_decodeRange_self
  · rw [Text.between_of_outside (by omega), (h.eq_nil (by omega)).1, unify_nil]

theorem normalize_between (h : Steps t p cs q) :
    normalize (t.between p.offset q.offset) = dropEscaped cs := by
  rw [normalize_eq, h.unify_between]

end Cursor.Steps

namespace Scanner

open Cursor

theorem reduce_unify_between (s : Scanner) (n : Nat) :
    reduce (unify (s.text.between s.position.offset (s.readTimes n).2.position.offset)) =
      (s.readTimes n).1 := by
  obtain ⟨cs, hsteps, hreduce, -⟩ := readTimes_steps n s
  rw [hsteps.unify_between, hreduce]

theorem reduce_unify_read (s : Scanner) :
    reduce (unify (s.text.between s.position.offset s.read.2.position.offset)) =
      s.read.1.toList :=
  (reduce_unify_between s 1).trans (List.append_nil _)

/-- A slice that was begun here and read up to its end. -/
theorem slice_readTimes (s : Scanner) (n : Nat) :
    (s.mark.readTimes n).2.slice =
      normalize (s.text.between s.position.offset (s.mark.readTimes n).2.position.offset) := by
  rw [slice_eq_normalize ((flagSound_mark s).readTimes n), readTimes_text, readTimes_marked]
  rfl

/-- **Where slicing and reading agree.** From any mark, the characters read are the
limit of normalizing the bytes they come from; the slice is the first step towards
it, and equal to it if it has no escaped break, as always where no backslash stands
before another. -/
theorem slice_mark_readTimes (s : Scanner) (n : Nat) :
    let chars := (s.mark.readTimes n).1
    let last := (s.mark.readTimes n).2
    let raw := s.text.between s.position.offset last.position.offset
    (∃ k, normalize^[k] raw = chars) ∧ normalize chars = chars ∧
      (last.slice = chars ↔ EscapeFree last.slice) ∧
      (Avoids '\\' '\\' raw → last.slice = chars) := by
  intro chars last raw
  have hchars : reduce (unify raw) = chars := reduce_unify_between s.mark n
  have hslice : last.slice = normalize raw := slice_readTimes s n
  rw [hslice, ← hchars]
  exact ⟨exists_iterate_normalize raw, normalize_reduce_unify raw, normalize_eq_reduce_iff,
    fun h => normalize_eq_reduce_iff.mpr (escapeFree_normalize h)⟩

/-! ## All slices of a text -/

/-- Normalizing goes piece by piece where the pieces are cut by reading. -/
theorem normalize_between_append (s : Scanner) (n : Nat) {ds : List Char} {r : Position}
    (hrest : Steps s.text (s.readTimes n).2.position ds r) :
    normalize (s.text.between s.position.offset r.offset) =
      normalize (s.text.between s.position.offset (s.readTimes n).2.position.offset) ++
        normalize (s.text.between (s.readTimes n).2.position.offset r.offset) := by
  obtain ⟨cs, hsteps, -, hsettled⟩ := readTimes_steps n s
  rw [(hsteps.trans hrest).normalize_between, hsteps.normalize_between, hrest.normalize_between,
    hsettled.dropEscaped_append hrest]

/-- The slice with one more character read is longer by the normalized bytes of it. -/
theorem sliceThrough_readTimes (s : Scanner) (n : Nat) :
    let last := (s.mark.readTimes n).2
    last.sliceThrough = last.slice ++
      normalize (s.text.between last.position.offset last.read.2.position.offset) := by
  intro last
  obtain ⟨cs, hsteps, -, -⟩ := readTimes_steps 1 last
  rw [readTimes_text] at hsteps
  rw [sliceThrough_eq_normalize ((flagSound_mark s).readTimes n), readTimes_text, readTimes_marked,
    slice_readTimes]
  exact normalize_between_append s.mark n hsteps

/-- The same where the last piece is everything that comes. -/
theorem normalize_ahead (s : Scanner) (n : Nat) :
    normalize (s.text.between s.position.offset s.text.size) =
      normalize (s.text.between s.position.offset (s.readTimes n).2.position.offset) ++
        normalize (s.text.between (s.readTimes n).2.position.offset s.text.size) := by
  obtain ⟨cs, hsteps, -, -⟩ := readTimes_steps n s
  by_cases hs : 0 ≤ s.position.offset ∧ s.position.offset < s.text.size
  · obtain ⟨k, hk, -⟩ := exists_readTimes_readAll (s.readTimes n).2
    obtain ⟨ds, hrest, -, -⟩ := readTimes_steps k (s.readTimes n).2
    rw [hk, readTimes_text] at hrest
    have hle := hsteps.offset_le_size (Int.le_of_lt hs.2)
    have hstop : (s.readTimes n).2.readAll.2.2.position.offset = s.text.size := by
      rw [offset_readAll (Int.le_trans hs.1 hsteps.offset_le), readTimes_text]
      exact Int.max_eq_right hle
    rw [← hstop]
    exact normalize_between_append s n hrest
  · have hout : s.position.offset < 0 ∨ (s.text.size : Int) ≤ s.position.offset := by omega
    rw [(hsteps.eq_nil hout).2]
    simp [Text.between_of_outside hout, normalize_eq]

/-- No slice from here on differs from what is read if no escaped break is left in
the normalized text of what comes. -/
theorem slice_eq_of_escapeFree {s : Scanner}
    (h : EscapeFree (normalize (s.text.between s.position.offset s.text.size))) (n : Nat) :
    let last := (s.mark.readTimes n).2
    last.slice = (s.mark.readTimes n).1 ∧
      last.sliceThrough = last.slice ++ last.peek.toList := by
  intro last
  have htext : last.text = s.text := readTimes_text n s.mark
  have hcut := normalize_ahead s.mark n
  have hnext := normalize_ahead last 1
  rw [htext] at hnext
  rw [show s.mark.text = s.text from rfl, show s.mark.position = s.position from rfl, hnext] at hcut
  rw [hcut] at h
  have hread := reduce_unify_between s.mark n
  have hpeek : reduce (unify (s.text.between last.position.offset last.read.2.position.offset)) =
      last.peek.toList := by
    rw [← htext]
    exact reduce_unify_read last
  refine ⟨?_, ?_⟩
  · rw [slice_readTimes, ← hread]
    exact normalize_eq_reduce_iff.mpr h.left
  · rw [sliceThrough_readTimes, ← hpeek]
    exact congrArg (last.slice ++ ·) (normalize_eq_reduce_iff.mpr h.right.left)

/-- **All slices of a text.** After any number of readings, from a mark set after any
number, the slice is what has been read since, and with one more character it is
longer by just this one; and the normalized text is what reading gives in all. This
holds of the texts in whose normalized text no escaped break is left. -/
theorem slices_agree_iff (t : Text) :
    ((∀ m n, let start := ((ofText t).readTimes m).2.mark
        let last := (start.readTimes n).2
        last.slice = (start.readTimes n).1 ∧
          last.sliceThrough = last.slice ++ last.peek.toList) ∧
      normalize t.toString.toList = chars (ofText t).readAll.1) ↔
    EscapeFree (normalize t.toString.toList) := by
  have hall : chars (ofText t).readAll.1 = reduce (unify t.toString.toList) := by
    obtain ⟨k, hk, hend⟩ := exists_readTimes_readAll (ofText t)
    have hread := readTimes_to_end (s := ofText t) (n := k) (i := 0) rfl (by rwa [hk])
    rw [hk] at hread
    rw [← Text.decodeRange_zero_size]
    exact hread
  rw [hall, normalize_eq_reduce_iff]
  refine ⟨fun h => h.2, fun h => ⟨fun m n => ?_, h⟩⟩
  rw [← Text.between_zero_size, show normalize (t.between 0 t.size) = _ from
    normalize_ahead (ofText t) m] at h
  refine slice_eq_of_escapeFree (s := ((ofText t).readTimes m).2) ?_ n
  rw [readTimes_text]
  exact h.right

/-- Not all texts are of this kind: of two backslashes before two line feeds a slice
leaves one each, where reading leaves nothing. -/
theorem slice_of_nested_escape :
    let last := ((ofText (.ofString "\\\\\n\n")).mark.readTimes 1).2
    ((ofText (.ofString "\\\\\n\n")).mark.readTimes 1).1 = [] ∧ last.isAtEnd ∧
      last.slice = ['\\', lineFeed] := by
  decide +kernel

end Scanner

end TextScan
