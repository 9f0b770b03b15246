import TextScan.Dump
import TextScan.Proofs.Ahead
import TextScan.Proofs.Places

/-! Line breaks written otherwise. Two scanners with the same characters ahead, at the
same line and column, stay so with each character they read (`Alike.read`), whatever
their texts and offsets are. They have the same spans, slices and lines then, up to
offsets, and the same dumps if offsets are not written. A text and the same text with
a line feed for each line break have such scanners at their starts
(`render_unified`). -/

namespace TextScan

open LineBreaks

/-- What of a span does not depend on how line breaks are written. -/
def Span.face (s : Span) : Option Char × Place × Place := (s.char?, s.start.place, s.stop.place)

/-- What of a line does not depend on how line breaks are written. -/
def Line.face (l : Line) : Place × List Char := (l.start.place, l.text)

/-- The text with every line break written as a line feed. -/
def Text.unified (t : Text) : Text := .ofString (String.ofList (unify t.toString.toList))

theorem Text.ahead_unified (t : Text) : t.unified.ahead 0 = t.ahead 0 := by
  rw [ahead_zero, ahead_zero, unified, toString_ofString, String.toList_ofList,
    unify_eq_self (return_notMem_unify _)]

theorem Span.isEnd_eq_of_face {a b : Span} (h : a.face = b.face) : a.isEnd = b.isEnd :=
  congrArg (·.1.isNone) h

namespace Scanner

/-- Two scanners have the same characters ahead and are at the same line and column. -/
structure Alike (s s' : Scanner) : Prop where
  ahead : s.text.ahead s.position.offset = s'.text.ahead s'.position.offset
  place : s.position.place = s'.position.place

namespace Alike

open Cursor

variable {s s' : Scanner}

/-! ## Reading alike -/

theorem read (h : Alike s s') : s.read.1 = s'.read.1 ∧ Alike s.read.2 s'.read.2 := by
  obtain ⟨cs, htakes⟩ := takes_read s.text s.cursor
  obtain ⟨q, htakes', hahead⟩ := htakes.transfer h.ahead
  obtain ⟨hchar, hq⟩ := htakes'.read_eq (c := s'.cursor)
  refine ⟨hchar.symm, ?_, ?_⟩
  · rw [← hq] at hahead
    exact hahead
  · -- both have passed the same characters from the same place
    have hplace := htakes.steps.place
    have hplace' := htakes'.steps.place
    rw [← hq, ← h.place] at hplace'
    exact hplace.trans hplace'.symm

theorem readSpan (h : Alike s s') :
    s.readSpan.1.face = s'.readSpan.1.face ∧ Alike s.readSpan.2 s'.readSpan.2 := by
  obtain ⟨hchar, hnext⟩ := h.read
  exact ⟨Prod.ext hchar (Prod.ext h.place hnext.place), hnext⟩

theorem readAll {s s' : Scanner} (h : Alike s s') :
    s.readAll.1.map Span.face = s'.readAll.1.map Span.face ∧
      s.readAll.2.1.face = s'.readAll.2.1.face := by
  obtain ⟨hface, hnext⟩ := h.readSpan
  rw [readAll_eq s, readAll_eq s', ← Span.isEnd_eq_of_face hface]
  by_cases hend : s.readSpan.1.isEnd
  · rw [if_pos hend, if_pos hend]
    exact ⟨rfl, hface⟩
  · have hlt := remaining_readSpan_lt (Bool.not_eq_true _ ▸ hend)
    obtain ⟨hspans, hlast⟩ := hnext.readAll
    rw [if_neg hend, if_neg hend]
    exact ⟨by rw [List.map_cons, List.map_cons, hface, hspans], hlast⟩
termination_by s.remaining

/-- The span of the end of input included. -/
theorem map_face_readAll (h : Alike s s') :
    (s.readAll.1 ++ [s.readAll.2.1]).map Span.face =
      (s'.readAll.1 ++ [s'.readAll.2.1]).map Span.face := by
  obtain ⟨hspans, hlast⟩ := h.readAll
  rw [List.map_append, List.map_append, List.map_singleton, List.map_singleton, hspans, hlast]

theorem readUntil {s s' : Scanner} (h : Alike s s') (stop : Char) :
    (s.readUntil stop).1 = (s'.readUntil stop).1 ∧
      Alike (s.readUntil stop).2 (s'.readUntil stop).2 := by
  revert s'
  refine readUntil_induction stop (motive := fun s r => ∀ {s' : Scanner}, Alike s s' →
    r.1 = (s'.readUntil stop).1 ∧ Alike r.2 (s'.readUntil stop).2) ?_ ?_ s
  · intro s hstop s' h
    rw [readUntil_of_stop fun c hchar => hstop c (h.read.1.trans hchar)]
    exact ⟨rfl, h⟩
  · intro s c hchar hc ih s' h
    obtain ⟨hsame, hnext⟩ := h.read
    obtain ⟨hchars, hlast⟩ := ih hnext
    rw [readUntil_of_char (hsame.symm.trans hchar) hc]
    exact ⟨congrArg (c :: ·) hchars, hlast⟩

/-! ## Lines alike -/

theorem mark (h : Alike s s') : Alike s.mark s'.mark := ⟨h.ahead, h.place⟩

end Alike

/-- A slice by what has lain ahead of the mark and what still lies ahead. -/
theorem exists_slice_readTimes (s : Scanner) (n : Nat) :
    let last := (s.mark.readTimes n).2
    ∃ cs, s.text.ahead s.position.offset = cs ++ last.text.ahead last.position.offset ∧
      last.slice = dropEscaped cs := by
  intro last
  obtain ⟨cs, hsteps, -, -⟩ := readTimes_steps n s.mark
  refine ⟨cs, ?_, ?_⟩
  · rw [readTimes_text]
    exact hsteps.ahead
  · rw [slice_readTimes]
    exact hsteps.normalize_between

namespace Alike

variable {s s' : Scanner}

/-- The flag may differ, as a carriage return raises it and a line feed does not, but
what has been passed since the marks is the same. -/
theorem slice_readUntil (h : Alike s s') (stop : Char) :
    (s.mark.readUntil stop).2.slice = (s'.mark.readUntil stop).2.slice := by
  obtain ⟨n, hn⟩ := exists_readTimes_readUntil stop s.mark
  obtain ⟨n', hn'⟩ := exists_readTimes_readUntil stop s'.mark
  obtain ⟨cs, hahead, hslice⟩ := exists_slice_readTimes s n
  obtain ⟨cs', hahead', hslice'⟩ := exists_slice_readTimes s' n'
  rw [hn] at hahead hslice
  rw [hn'] at hahead' hslice'
  rw [h.ahead, hahead', (h.mark.readUntil stop).2.ahead] at hahead
  rw [hslice, hslice', List.append_cancel_right hahead]

theorem readLine? (h : Alike s s') :
    Option.Rel (fun r r' => r.1.face = r'.1.face ∧ Alike r.2 r'.2) s.readLine? s'.readLine? := by
  obtain ⟨hchars, hstop⟩ := h.mark.readUntil lineFeed
  obtain ⟨hending, hnext⟩ := hstop.read
  have hslice := h.slice_readUntil lineFeed
  simp only [Scanner.readLine?]
  rw [← hchars, ← hending]
  split
  · exact .none
  · exact .some ⟨Prod.ext h.place hslice, hnext⟩

theorem lines {s s' : Scanner} (h : Alike s s') :
    s.lines.map Line.face = s'.lines.map Line.face := by
  have hline := h.readLine?
  rw [lines_eq s, lines_eq s']
  generalize hr : s.readLine? = r at hline
  generalize s'.readLine? = r' at hline
  cases hline with
  | none => rfl
  | @some r r' hboth =>
    obtain ⟨line, next⟩ := r
    have hlt := remaining_readLine?_lt hr
    rw [List.map_cons, List.map_cons, hboth.1, hboth.2.lines]
termination_by s.remaining

end Alike

end Scanner

/-! ## Dumps without offsets -/

namespace Dump

/-- Positions without offsets are written by line and column. -/
theorem position_eq_of_place {p q : Position} (h : p.place = q.place) :
    position false p = position false q := by
  have hline : p.line = q.line := congrArg Place.line h
  have hcolumn : p.column = q.column := congrArg Place.column h
  simp only [position, Bool.false_eq_true, if_false, toString, hline, hcolumn]

theorem spanLine_factorsThrough (shown : Char → Bool) :
    (spanLine shown false).FactorsThrough Span.face := by
  intro a b h
  have hchar : a.char? = b.char? := congrArg (·.1) h
  have hstart : position false a.start = position false b.start :=
    position_eq_of_place (congrArg (·.2.1) h)
  have hstop : position false a.stop = position false b.stop :=
    position_eq_of_place (congrArg (·.2.2) h)
  rw [spanLine, spanLine, hchar, hstart, hstop]

theorem textLine_factorsThrough : (textLine false).FactorsThrough Line.face := by
  intro a b h
  have htext : a.text = b.text := congrArg (·.2) h
  have hstart : position false a.start = position false b.start :=
    position_eq_of_place (congrArg (·.1) h)
  rw [textLine, textLine, hstart, htext]

/-- Lines written by the faces alone are the same if the faces are. -/
theorem join_map_eq {α β : Type} {face : α → β} {write : α → String} {as bs : List α}
    (hwrite : write.FactorsThrough face) (h : as.map face = bs.map face) :
    String.join (as.map write) = String.join (bs.map write) := by
  obtain ⟨writeFace, rfl⟩ := (Function.factorsThrough_iff write).mp hwrite
  rw [← List.map_map, h, List.map_map]

theorem chars_eq (spans : List Span) :
    Scanner.chars spans = (spans.map Span.face).filterMap (·.1) := by
  rw [List.filterMap_map]
  rfl

/-- Scanners that are alike have the same dump, in each mode, without offsets. -/
theorem render_eq_of_alike {t u : Text} {p : Position}
    (h : (Scanner.startingAt t p).Alike (Scanner.startingAt u p)) (shown : Char → Bool)
    (mode : Mode) (showEnd : Bool) :
    render shown ⟨mode, showEnd, false, p⟩ t = render shown ⟨mode, showEnd, false, p⟩ u := by
  cases mode with
  | spans =>
    cases showEnd with
    | false => exact join_map_eq (spanLine_factorsThrough shown) h.readAll.1
    | true => exact join_map_eq (spanLine_factorsThrough shown) h.map_face_readAll
  | lines => exact join_map_eq textLine_factorsThrough h.lines
  | chars =>
    change String.ofList (Scanner.chars _) = String.ofList (Scanner.chars _)
    rw [chars_eq, chars_eq]
    exact congrArg (fun faces => String.ofList (faces.filterMap (·.1))) h.readAll.1

end Dump

/-- **Line breaks written otherwise.** A text and the same text with a line feed for
each of its line breaks read alike from the start: span by span, the one of the end
of input included, the characters are the same, and so are line and column at both
ends. Without offsets their dumps are the same, in each mode. -/
theorem render_unified (t : Text) :
    let faces (t : Text) :=
      let (spans, last, _) := (Scanner.ofText t).readAll
      (spans ++ [last]).map Span.face
    faces t = faces t.unified ∧
      ∀ (shown : Char → Bool) (mode : Mode) (showEnd : Bool) (line column : Nat),
        Dump.render shown ⟨mode, showEnd, false, ⟨0, line, column⟩⟩ t =
          Dump.render shown ⟨mode, showEnd, false, ⟨0, line, column⟩⟩ t.unified := by
  intro faces
  have halike (line column : Nat) : (Scanner.startingAt t ⟨0, line, column⟩).Alike
      (Scanner.startingAt t.unified ⟨0, line, column⟩) :=
    ⟨t.ahead_unified.symm, rfl⟩
  refine ⟨(halike 1 1).map_face_readAll, ?_⟩
  intro shown mode showEnd line column
  exact Dump.render_eq_of_alike (halike line column) shown mode showEnd

end TextScan
