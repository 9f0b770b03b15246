import Mathlib.Data.List.Basic
import TextScan.Position.Parse
import TextScan.Proofs.Numerals

/-! Positions as they may be written. A text is read as a position just if, without the white
space around it, it is one as it may be written (`parse_eq_ok_iff`), and what is told of any
other is the number of its fields or the first of them that is bad
(`parse_eq_error_iff`). Printed positions are among those that may be written. -/

namespace TextScan

namespace Position

open Number (IsOffset IsUnsigned parseOffset parseCount)

variable {text : List Char} {p : Position} {e : ParseError}

/-- A position as it may be written, with its offset in front. -/
inductive IsWritten : List Char → Position → Prop
  | mk {offset line column : List Char} {p : Position} (hoffset : IsOffset offset p.offset)
      (hline : IsUnsigned (2 ^ 64) line p.line) (hcolumn : IsUnsigned (2 ^ 64) column p.column) :
      IsWritten (offset ++ ':' :: (line ++ ':' :: column)) p

/-- What is told of a text that is no position: there are not three fields in it, or the
first of them that is not as it may be written. -/
inductive Faults (text : List Char) : ParseError → Prop
  | fieldCount (hfields : ((Unicode.trim text).splitOn ':').length ≠ 3) :
      Faults text (.fieldCount text)
  | offset {offset line column : List Char} {cause : NumberError}
      (hfields : (Unicode.trim text).splitOn ':' = [offset, line, column])
      (hoffset : ∀ i, ¬ IsOffset offset i) (hcause : parseOffset offset = .error cause) :
      Faults text (.badField .offset offset cause)
  | line {offset line column : List Char} {i : Int} {cause : NumberError}
      (hfields : (Unicode.trim text).splitOn ':' = [offset, line, column])
      (hoffset : IsOffset offset i) (hline : ∀ n, ¬ IsUnsigned (2 ^ 64) line n)
      (hcause : parseCount line = .error cause) : Faults text (.badField .line line cause)
  | column {offset line column : List Char} {i : Int} {n : Nat} {cause : NumberError}
      (hfields : (Unicode.trim text).splitOn ':' = [offset, line, column])
      (hoffset : IsOffset offset i) (hline : IsUnsigned (2 ^ 64) line n)
      (hcolumn : ∀ n, ¬ IsUnsigned (2 ^ 64) column n)
      (hcause : parseCount column = .error cause) : Faults text (.badField .column column cause)

theorem parse_of_fields {offset line column : List Char}
    (h : (Unicode.trim text).splitOn ':' = [offset, line, column]) :
    parse text = do
      let o ← (parseOffset offset).mapError (.badField .offset offset)
      let l ← (parseCount line).mapError (.badField .line line)
      let c ← (parseCount column).mapError (.badField .column column)
      return ⟨o, l, c⟩ := by
  rw [parse, fields_eq_splitOn, h]

theorem parse_of_length (h : ((Unicode.trim text).splitOn ':').length ≠ 3) :
    parse text = .error (.fieldCount text) := by
  unfold parse
  rw [fields_eq_splitOn]
  split
  · next hfields => exact absurd (congrArg List.length hfields) h
  · rfl

theorem splitOn_of_isWritten {offset line column : List Char} {i : Int} {n m : Nat}
    (hoffset : IsOffset offset i) (hline : IsUnsigned (2 ^ 64) line n)
    (hcolumn : IsUnsigned (2 ^ 64) column m) :
    (offset ++ ':' :: (line ++ ':' :: column)).splitOn ':' = [offset, line, column] := by
  have hfree : ∀ piece ∈ [offset, line, column], ':' ∉ piece := by
    simp only [List.forall_mem_cons, List.not_mem_nil]
    exact ⟨fun hc => absurd (hoffset.isDigit_or hc) (by decide),
      fun hc => absurd (hline.isDigit_or hc) (by decide),
      fun hc => absurd (hcolumn.isDigit_or hc) (by decide), nofun⟩
  have hsplit := List.splitOn_intercalate ':' hfree (List.cons_ne_nil _ _)
  simpa using hsplit

/-- A text of three fields is put together of them. -/
theorem eq_of_splitOn {cs offset line column : List Char}
    (h : cs.splitOn ':' = [offset, line, column]) :
    cs = offset ++ ':' :: (line ++ ':' :: column) := by
  have hjoin : [':'].intercalate (cs.splitOn ':') = cs := List.intercalate_splitOn ':'
  rw [h] at hjoin
  simpa using hjoin.symm

theorem parse_of_isWritten (h : IsWritten (Unicode.trim text) p) : parse text = .ok p := by
  generalize htrim : Unicode.trim text = core at h
  cases h with
  | @mk offset line column _ hoffset hline hcolumn =>
    have hfields := splitOn_of_isWritten hoffset hline hcolumn
    rw [← htrim] at hfields
    rw [parse_of_fields hfields, Number.parseOffset_eq_ok_iff.mpr hoffset,
      Number.parseCount_eq_ok_iff.mpr hline, Number.parseCount_eq_ok_iff.mpr hcolumn]
    rfl

theorem parse_of_faults (h : Faults text e) : parse text = .error e := by
  cases h with
  | fieldCount hfields => exact parse_of_length hfields
  | offset hfields hoffset hcause =>
    rw [parse_of_fields hfields, hcause]
    rfl
  | line hfields hoffset hline hcause =>
    rw [parse_of_fields hfields, Number.parseOffset_eq_ok_iff.mpr hoffset, hcause]
    rfl
  | column hfields hoffset hline hcolumn hcause =>
    rw [parse_of_fields hfields, Number.parseOffset_eq_ok_iff.mpr hoffset,
      Number.parseCount_eq_ok_iff.mpr hline, hcause]
    rfl

/-- Any text is a position as it may be written, with white space around it, or has a fault. -/
theorem isWritten_or_faults (text : List Char) :
    (∃ p, IsWritten (Unicode.trim text) p) ∨ ∃ e, Faults text e := by
  by_cases hlength : ((Unicode.trim text).splitOn ':').length = 3
  · obtain ⟨offset, line, column, hfields⟩ := List.length_eq_three.mp hlength
    cases hoffset : parseOffset offset with
    | error cause =>
      exact .inr ⟨_, .offset hfields (Number.not_isOffset_of_parseOffset hoffset) hoffset⟩
    | ok i =>
      have hi := Number.parseOffset_eq_ok_iff.mp hoffset
      cases hline : parseCount line with
      | error cause =>
        exact .inr ⟨_, .line hfields hi (Number.not_isUnsigned_of_parseCount hline) hline⟩
      | ok n =>
        have hn := Number.parseCount_eq_ok_iff.mp hline
        cases hcolumn : parseCount column with
        | error cause =>
          exact .inr
            ⟨_, .column hfields hi hn (Number.not_isUnsigned_of_parseCount hcolumn) hcolumn⟩
        | ok m =>
          rw [eq_of_splitOn hfields]
          exact .inl ⟨⟨i, n, m⟩, .mk hi hn (Number.parseCount_eq_ok_iff.mp hcolumn)⟩
  · exact .inr ⟨_, .fieldCount hlength⟩

theorem parse_eq_ok_iff : parse text = .ok p ↔ IsWritten (Unicode.trim text) p := by
  refine ⟨fun h => ?_, parse_of_isWritten⟩
  rcases isWritten_or_faults text with ⟨q, hq⟩ | ⟨e, he⟩
  · obtain rfl := Except.ok.inj (h.symm.trans (parse_of_isWritten hq))
    exact hq
  · exact nomatch h.symm.trans (parse_of_faults he)

/-- A text that is no position is told its leftmost fault, and only that. -/
theorem parse_eq_error_iff : parse text = .error e ↔ Faults text e := by
  refine ⟨fun h => ?_, parse_of_faults⟩
  rcases isWritten_or_faults text with ⟨q, hq⟩ | ⟨e', he⟩
  · exact nomatch h.symm.trans (parse_of_isWritten hq)
  · obtain rfl := Except.error.inj (h.symm.trans (parse_of_faults he))
    exact he

/-- The line is bad as well, but the offset stands in front of it. -/
example : parse ['a', ':', '-', '1', ':', '1'] = .error (.badField .offset ['a'] .invalidDigit) :=
  rfl

/-! ## Printed positions -/

/-- A position with its offset in front. -/
def print (p : Position) : String := s!"{p.offset}:{p.line}:{p.column}"

theorem toList_print (p : Position) : p.print.toList =
    p.offset.repr.toList ++ ':' :: (p.line.repr.toList ++ ':' :: p.column.repr.toList) := by
  change (p.offset.repr ++ ":" ++ p.line.repr ++ ":" ++ p.column.repr).toList = _
  simp

/-- The offset has 64 bits with the sign, the line and the column have 64 bits. -/
structure Fits (p : Position) : Prop where
  low : -2 ^ 63 ≤ p.offset
  high : p.offset < 2 ^ 63
  line : p.line < 2 ^ 64
  column : p.column < 2 ^ 64

theorem isWritten_print (h : p.Fits) : IsWritten p.print.toList p := by
  rw [toList_print]
  exact .mk (Number.isOffset_repr h.low h.high) (Number.isUnsigned_repr h.line)
    (Number.isUnsigned_repr h.column)

namespace IsWritten

variable {core : List Char} {c : Char}

theorem isBlank (h : IsWritten core p) (hc : c ∈ core) : Unicode.isBlank c = false := by
  have hchar : c.isDigit = true ∨ c ∈ ['+', '-'] ∨ c = ':' := by
    cases h with
    | mk hoffset hline hcolumn =>
      simp only [List.mem_append, List.mem_cons] at hc
      rcases hc with hc | rfl | hc | rfl | hc
      · exact (hoffset.isDigit_or hc).imp_right .inl
      · exact .inr (.inr rfl)
      · exact (hline.isDigit_or hc).imp_right .inl
      · exact .inr (.inr rfl)
      · exact (hcolumn.isDigit_or hc).imp_right .inl
  rcases hchar with hdigit | hsign | rfl
  · exact Unicode.isBlank_of_isDigit hdigit
  · obtain rfl | rfl : c = '+' ∨ c = '-' := by simpa using hsign
    · rfl
    · rfl
  · rfl

theorem ne_nil (h : IsWritten core p) : core ≠ [] := by
  cases h with
  | mk hoffset hline hcolumn => simp

end IsWritten

/-- Printed positions are read as they were, whatever white space stands around them. -/
theorem parse_print {front back : List Char} (h : p.Fits)
    (hfront : ∀ c ∈ front, Unicode.isBlank c = true)
    (hback : ∀ c ∈ back, Unicode.isBlank c = true) :
    parse (front ++ (p.print.toList ++ back)) = .ok p := by
  have hwritten := isWritten_print h
  refine parse_of_isWritten ?_
  rwa [Unicode.trim_append hfront hback (fun c hc => hwritten.isBlank hc) hwritten.ne_nil]

/-- **Positions are read just as they may be written**, with white space around the whole.
Of any other text either the number of its fields is told or its leftmost bad field, and
a printed position is read as it was. -/
theorem parse_written :
    (∀ text p, parse text = .ok p ↔ IsWritten (Unicode.trim text) p) ∧
    (∀ text e, parse text = .error e ↔ Faults text e) ∧
    ∀ (p : Position) (front back : List Char), p.Fits →
      (∀ c ∈ front, Unicode.isBlank c = true) → (∀ c ∈ back, Unicode.isBlank c = true) →
        parse (front ++ (p.print.toList ++ back)) = .ok p :=
  ⟨fun _ _ => parse_eq_ok_iff, fun _ _ => parse_eq_error_iff, fun _ _ _ => parse_print⟩

/-- The least offset and the greatest column, between white space of several kinds. -/
theorem parse_written_of_limits :
    let p : Position := ⟨-2 ^ 63, 0, 2 ^ 64 - 1⟩
    let front := ['\u2003', ' ']
    let back := ['\x85', '\r', '\n']
    p.Fits ∧ (∀ c ∈ front, Unicode.isBlank c = true) ∧ (∀ c ∈ back, Unicode.isBlank c = true) ∧
      parse (front ++ (p.print.toList ++ back)) = .ok p := by
  intro p front back
  have hfits : p.Fits := ⟨by decide, by decide, by decide, by decide⟩
  have hfront : ∀ c ∈ front, Unicode.isBlank c = true := by
    simp only [front, List.forall_mem_cons]
    exact ⟨rfl, rfl, nofun⟩
  have hback : ∀ c ∈ back, Unicode.isBlank c = true := by
    simp only [back, List.forall_mem_cons]
    exact ⟨rfl, rfl, rfl, nofun⟩
  exact ⟨hfits, hfront, hback, parse_written.2.2 p front back hfits hfront hback⟩

end Position

end TextScan
