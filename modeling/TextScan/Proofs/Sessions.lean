import TextScan.Proofs.Alterations
import TextScan.Scanner.Session

/-! Sessions step by step. All an operation does to the scanner is to read on, to
mark, to move, or to put back one that was saved (`apply_cases`), so what these
preserve holds in every session that operations lead to (`Reaches.everywhere`).
Where no operation moves ahead, the flag can be trusted all the time, and slices
are the normalized text (`slices_of_reaches`). -/

namespace TextScan.Scanner

open LineBreaks

/-- Where an operation moves to, if it moves. -/
def Operation.target? (s : Scanner) : Operation → Option Position
  | .moveTo p => some p
  | .moveToMark => some s.marked
  | _ => none

namespace Session

variable {first session : Session} {op : Operation} {P : Scanner → Prop}

/-- The scanner and all that are saved. -/
def Everywhere (P : Scanner → Prop) (session : Session) : Prop :=
  P session.scanner ∧ ∀ s ∈ session.saved, P s

/-- The sessions operations lead to, each `allowed` where it is applied. -/
inductive Reaches (allowed : Session → Operation → Prop) (first : Session) : Session → Prop
  | start : Reaches allowed first first
  | apply {session : Session} {op : Operation} (h : Reaches allowed first session)
      (hop : allowed session op) : Reaches allowed first (session.apply op).2

/-- What an operation may do to a session. -/
theorem apply_cases (session : Session) (op : Operation) :
    let s := session.scanner
    let next := (session.apply op).2
    (∃ n, next = ⟨(s.readTimes n).2, session.saved⟩) ∨
    next = ⟨s.mark, session.saved⟩ ∨
    (∃ p, op.target? s = some p ∧ next = ⟨s.moveTo p, session.saved⟩) ∨
    next = ⟨s, s :: session.saved⟩ ∨
    session.saved = next.scanner :: next.saved := by
  intro s next
  cases op with
  | read | readSpan | skip | skipSpan => exact .inl ⟨1, rfl⟩
  | peek | peekSpan | slice | sliceThrough | text => exact .inl ⟨0, rfl⟩
  | mark => exact .inr (.inl rfl)
  | moveTo p => exact .inr (.inr (.inl ⟨p, rfl, rfl⟩))
  | moveToMark => exact .inr (.inr (.inl ⟨s.marked, rfl, rfl⟩))
  | readMany limit | takeSpans limit =>
    obtain ⟨n, hn⟩ := exists_readTimes_spansWithin limit s
    exact .inl ⟨n, by rw [hn]; rfl⟩
  | readUntil stop =>
    obtain ⟨n, hn⟩ := exists_readTimes_readUntil stop s
    exact .inl ⟨n, by rw [hn]; rfl⟩
  | save => exact .inr (.inr (.inr (.inl rfl)))
  | restore =>
    obtain ⟨s, _ | ⟨last, saved⟩⟩ := session
    · exact .inl ⟨0, rfl⟩
    · exact .inr (.inr (.inr (.inr rfl)))

/-- What readings, marking and the move of this operation preserve. -/
theorem Everywhere.apply (h : Everywhere P session) (hread : ∀ s, P s → P s.read.2)
    (hmark : ∀ s, P s → P s.mark)
    (hmove : ∀ p, op.target? session.scanner = some p → P (session.scanner.moveTo p)) :
    Everywhere P (session.apply op).2 := by
  obtain ⟨hscanner, hsaved⟩ := h
  rcases apply_cases session op with ⟨n, hn⟩ | hn | ⟨p, hp, hn⟩ | hn | hn
  · rw [hn]
    exact ⟨readTimes_preserves hread n hscanner, hsaved⟩
  · rw [hn]
    exact ⟨hmark _ hscanner, hsaved⟩
  · rw [hn]
    exact ⟨hmove p hp, hsaved⟩
  · rw [hn]
    exact ⟨hscanner, List.forall_mem_cons.mpr ⟨hscanner, hsaved⟩⟩
  · rw [hn] at hsaved
    exact List.forall_mem_cons.mp hsaved

/-- What readings, marking and all allowed moves preserve holds of the scanner of
every session reached, and of the saved ones. -/
theorem Reaches.everywhere {allowed : Session → Operation → Prop}
    (h : Reaches allowed first session) (hfirst : Everywhere P first)
    (hread : ∀ s, P s → P s.read.2) (hmark : ∀ s, P s → P s.mark)
    (hmove : ∀ session op p, allowed session op → op.target? session.scanner = some p →
      P session.scanner → P (session.scanner.moveTo p)) :
    Everywhere P session := by
  induction h with
  | start => exact hfirst
  | apply _ hop ih => exact ih.apply hread hmark fun p hp => hmove _ _ p hop hp ih.1

/-- All scanners of a session read the same text. -/
theorem Reaches.text_eq {allowed : Session → Operation → Prop} {t : Text}
    (h : Reaches allowed first session) (hfirst : Everywhere (·.text = t) first) :
    Everywhere (·.text = t) session :=
  h.everywhere hfirst (fun _ hs => hs) (fun _ hs => hs) (fun _ _ _ _ _ hs => hs)

/-! ## Sessions that do not move ahead -/

/-- The operation does not move ahead. -/
def GoesBack (session : Session) (op : Operation) : Prop :=
  ∀ p, op.target? session.scanner = some p → p.offset ≤ session.scanner.position.offset

theorem Reaches.flagSound (h : Reaches GoesBack first session)
    (hfirst : Everywhere FlagSound first) : Everywhere FlagSound session := by
  refine h.everywhere hfirst (fun s hs => hs.read) (fun s _ => flagSound_mark s) ?_
  intro session op p hback hp hs
  exact hs.moveTo (hback p hp)

/-- **Slices as long as nothing moves ahead.** From any position, whatever is read,
marked, saved and put back, and wherever the scanner moves back to: the slice is the
normalized text between mark and cursor, and with one more character that between
the mark and the end of this character. -/
theorem slices_of_reaches (t : Text) (p : Position)
    (h : Reaches GoesBack (ofScanner (startingAt t p)) session) :
    let s := session.scanner
    s.slice = normalize (t.between s.marked.offset s.position.offset) ∧
      s.sliceThrough = normalize (t.between s.marked.offset s.read.2.position.offset) := by
  intro s
  have htext : s.text = t := (h.text_eq ⟨rfl, nofun⟩).1
  have hsound : s.FlagSound := (h.flagSound ⟨flagSound_startingAt t p, nofun⟩).1
  rw [← htext]
  exact ⟨slice_eq_normalize hsound, sliceThrough_eq_normalize hsound⟩

/-- A session that has read everything is back between a carriage return and its
line feed. The mark is still at the start, and the flag still up. -/
theorem slices_of_reaches_within_break :
    let t := Text.ofString "a\\\r\nb"
    let first := ofScanner (startingAt t .origin)
    let back := ((first.apply (.readMany none)).2.apply (.moveTo ⟨3, 1, 4⟩)).2
    Reaches GoesBack first back ∧ back.scanner.slice = ['a'] ∧ back.scanner.sliceThrough = ['a'] := by
  intro t first back
  have hback : GoesBack (first.apply (.readMany none)).2 (.moveTo ⟨3, 1, 4⟩) := by
    rintro p ⟨⟩
    decide +kernel
  have hreaches : Reaches GoesBack first back := (Reaches.start.apply nofun).apply hback
  have hslices := slices_of_reaches t .origin hreaches
  exact ⟨hreaches, hslices.1.trans (by decide +kernel), hslices.2.trans (by decide +kernel)⟩

end Session

end TextScan.Scanner
