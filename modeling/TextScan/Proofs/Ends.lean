import TextScan.Dump
import TextScan.Proofs.Ahead
import TextScan.Proofs.Routes

/-! The end of input. The offset tells it where nothing is left, and reading tells it
already where all that is left cancels; the span that is read there goes on to the end
of the text (`readSpan_of_end`). Such a place is in a text just if its last line break
is escaped (`Text.exists_ahead_iff`), so in all other texts the end of input is one
notion (`endIsOne_iff`). -/

namespace TextScan

open LineBreaks

namespace Text

variable {t : Text} {offset : Int}

/-- From within a character nothing that lies ahead cancels. -/
theorem ahead_suffix_or_replacement (t : Text) (offset : Int) :
    t.ahead offset <:+ t.ahead 0 ∨ (t.ahead offset).head? = some replacement := by
  by_cases hinside : 0 ≤ offset ∧ offset < t.size
  · obtain ⟨i, rfl⟩ := Int.eq_ofNat_of_zero_le hinside.1
    have hahead (j : Nat) (hj : j < t.size) : t.ahead j = unify (t.decodeRange j t.size) := by
      rw [ahead, between_of_inside (by omega) (by omega) (by omega)]
      rfl
    have hi : i < t.size := by omega
    rw [hahead i hi, show t.ahead 0 = _ from hahead 0 (by omega)]
    cases hdecode : t.bytes.utf8DecodeChar? i with
    | some c =>
      rw [decodeRange_append (Nat.zero_le i) (Nat.le_of_lt hi) (Option.isSome_of_eq_some hdecode)]
      exact .inl (unify_suffix_append _ _)
    | none =>
      rw [decodeRange_of_lt hi, hdecode]
      dsimp only
      rw [unify_cons (by decide)]
      exact .inr rfl
  · rw [ahead_of_outside (by omega)]
    exact .inl List.nil_suffix

/-- Something that lies ahead of some offset cancels, all of it, just in a text that ends
in an escaped line feed. -/
theorem exists_ahead_iff :
    (∃ offset, t.ahead offset ≠ [] ∧ reduce (t.ahead offset) = []) ↔
      EndsEscaped (unify t.toString.toList) := by
  rw [← ahead_zero, endsEscaped_iff]
  constructor
  · rintro ⟨offset, hne, hcancels⟩
    rcases t.ahead_suffix_or_replacement offset with hsuffix | hhead
    · exact ⟨_, hsuffix, hne, hcancels⟩
    · obtain ⟨rest, hrest⟩ := List.head?_eq_some_iff.mp hhead
      rw [hrest, reduce_cons, cancel_of_not fun h => absurd h.1 (by decide)] at hcancels
      exact nomatch hcancels
  · rintro ⟨ds, ⟨cs, hcut⟩, hne, hcancels⟩
    obtain ⟨q, hsteps⟩ := Cursor.exists_steps (p := .origin) hcut.symm
    have hds : ds = t.ahead q.offset := List.append_cancel_left (hcut.trans hsteps.ahead)
    exact ⟨q.offset, hds ▸ hne, hds ▸ hcancels⟩

end Text

namespace Scanner

open Cursor

variable {t : Text} {s : Scanner}

theorem isAtEnd_iff_step? (s : Scanner) :
    s.isAtEnd = true ↔ s.cursor.step? s.text = none := by
  rw [isAtEnd, Option.isNone_iff_eq_none, Text.index?_eq_none_iff, step?_eq_none_iff]

theorem isAtEnd_iff (s : Scanner) :
    s.isAtEnd = true ↔ s.text.ahead s.position.offset = [] :=
  s.isAtEnd_iff_step?.trans ahead_eq_nil_iff.symm

theorem peek_eq_none_iff (s : Scanner) :
    s.peek = none ↔ reduce (s.text.ahead s.position.offset) = [] := by
  rw [show s.peek = _ from read_fst_eq s.text s.cursor, List.head?_eq_none_iff]
  rfl

/-- A span without a character goes from where nothing but escaped line feeds lies ahead
to where nothing at all does. -/
theorem readSpan_of_end (h : s.readSpan.1.char? = none) :
    (s.readSpan.1.start = s.readSpan.1.stop ↔ s.isAtEnd = true) ∧
      (startingAt s.text s.readSpan.1.stop).isAtEnd = true := by
  refine ⟨⟨fun hsame => ?_, fun hend => ?_⟩, ?_⟩
  · rw [isAtEnd_iff_step?, step?_eq_none_iff]
    refine Decidable.byContradiction fun hinside => ?_
    have hmoved := offset_lt_read_of_inside (t := s.text) (c := s.cursor) (by omega) (by omega)
    have hstays : s.cursor.offset = (s.cursor.read s.text).2.offset :=
      congrArg Position.offset hsame
    omega
  · rw [readSpan_fst, read_of_end (s.isAtEnd_iff_step?.mp hend)]
  · have hout := step?_eq_none_iff.mp (end_of_read h)
    rw [isAtEnd_iff_step?, step?_eq_none_iff]
    exact hout

/-- The span behind the last is what a reading gives too. -/
theorem exists_readSpan_readAll (s : Scanner) :
    ∃ d : Scanner, d.text = s.text ∧ s.readAll.2 = d.readSpan ∧ d.readSpan.1.isEnd := by
  refine readAll_induction (motive := fun s r =>
    ∃ d : Scanner, d.text = s.text ∧ r.2 = d.readSpan ∧ d.readSpan.1.isEnd) ?_ ?_ s
  · exact fun s hend => ⟨s, rfl, rfl, hend⟩
  · exact fun s _ ih => ih

namespace Session

theorem exists_readSpan_of_answer {session next : Session} {op : Operation} {span : Span}
    (h : session.apply op = (.span span, next)) :
    ∃ s : Scanner, s.text = session.scanner.text ∧ span = s.readSpan.1 := by
  cases op with
  | readSpan | peekSpan =>
    cases h
    exact ⟨session.scanner, rfl, rfl⟩
  | skipSpan =>
    cases h
    exact ⟨session.scanner.read.2, rfl, rfl⟩
  | restore => obtain ⟨s, _ | ⟨last, saved⟩⟩ := session <;> exact nomatch h
  | read | peek | skip | mark | slice | sliceThrough | text | moveTo | moveToMark | readMany
  | readUntil | takeSpans | save => exact nomatch h

end Session

/-- The end of input is one notion: from wherever operations lead to, it is told by the
offset just where reading finds nothing, each span without a character that is
answered is empty, and a dump of spans shows for the end of input the position that
reading ends at. -/
structure EndIsOne (t : Text) : Prop where
  peek : ∀ session, Session.Reachable t session →
    (session.scanner.isAtEnd = true ↔ session.scanner.peek = none)
  spans : ∀ session op span next, Session.Reachable t session →
    session.apply op = (.span span, next) → span.char? = none → span.start = span.stop
  dump : ∀ shown offsets p, let (spans, _, last) := (startingAt t p).readAll
    Dump.render shown ⟨.spans, true, offsets, p⟩ t =
      String.join (spans.map (Dump.spanLine shown offsets)) ++
        Dump.position offsets last.position ++ "\tEOF\n"

theorem endIsOne_of_ahead
    (h : ∀ offset, reduce (t.ahead offset) = [] → t.ahead offset = []) : EndIsOne t := by
  have hspan (s : Scanner) (htext : s.text = t) (hchar : s.readSpan.1.char? = none) :
      s.readSpan.1.start = s.readSpan.1.stop := by
    refine (readSpan_of_end hchar).1.mpr (s.isAtEnd_iff.mpr ?_)
    rw [htext]
    exact h _ (htext ▸ s.peek_eq_none_iff.mp hchar)
  refine ⟨?_, ?_, ?_⟩
  · intro session hsession
    rw [isAtEnd_iff, peek_eq_none_iff, hsession.text_eq]
    exact ⟨fun hnil => by rw [hnil]; rfl, h _⟩
  · intro session op span next hsession hanswer hchar
    obtain ⟨s, htext, rfl⟩ := Session.exists_readSpan_of_answer hanswer
    exact hspan s (htext.trans hsession.text_eq) hchar
  · intro shown offsets p
    obtain ⟨d, htext, hall, hend⟩ := exists_readSpan_readAll (startingAt t p)
    have hchar : d.readSpan.1.char? = none := Option.isNone_iff_eq_none.mp hend
    have hline : Dump.spanLine shown offsets d.readSpan.1 =
        Dump.position offsets d.readSpan.2.position ++ "\tEOF\n" := by
      rw [Dump.spanLine, hchar, hspan d htext hchar]
      rfl
    simp [Dump.render, hall, hline, String.append_assoc]

theorem EndIsOne.ahead_eq_nil (h : EndIsOne t) {offset : Int}
    (hcancels : reduce (t.ahead offset) = []) : t.ahead offset = [] := by
  have hpeek := h.peek _ (Session.reachable_startingAt t ⟨offset, 1, 1⟩)
  exact (isAtEnd_iff _).mp (hpeek.mpr ((peek_eq_none_iff _).mpr hcancels))

/-- **The end of input.** From wherever operations lead to, the offset tells the end where
nothing lies ahead, and reading tells it where what lies ahead is made of backslashes
and line breaks in pairs. A span without a character goes on to the end of the text,
and is empty only where the offset tells the end. All this is the same, everywhere in
a text, if the text does not end in an escaped break, and in no other texts. -/
theorem endIsOne_iff (t : Text) :
    (∀ session, Session.Reachable t session →
      let s := session.scanner
      (s.isAtEnd = true ↔ t.ahead s.position.offset = []) ∧
      (s.peek = none ↔ Paired (t.ahead s.position.offset)) ∧
      ∀ op span next, session.apply op = (.span span, next) → span.char? = none →
        (startingAt t span.stop).isAtEnd = true ∧
          (span.start = span.stop ↔ (startingAt t span.start).isAtEnd = true)) ∧
    (EndIsOne t ↔ ¬ EndsEscaped (unify t.toString.toList)) := by
  refine ⟨fun session hsession => ⟨?_, ?_, ?_⟩, ?_⟩
  · rw [← hsession.text_eq]
    exact isAtEnd_iff _
  · rw [← hsession.text_eq, ← reduce_eq_nil_iff]
    exact peek_eq_none_iff _
  · intro op span next hanswer hchar
    obtain ⟨s, htext, rfl⟩ := Session.exists_readSpan_of_answer hanswer
    obtain ⟨hempty, hstop⟩ := readSpan_of_end hchar
    rw [← hsession.text_eq, ← htext]
    exact ⟨hstop, hempty⟩
  · rw [← Text.exists_ahead_iff]
    constructor
    · rintro h ⟨offset, hne, hcancels⟩
      exact hne (h.ahead_eq_nil hcancels)
    · intro h
      refine endIsOne_of_ahead fun offset hcancels => ?_
      exact Decidable.byContradiction fun hne => h ⟨offset, hne, hcancels⟩

/-- At the start of an escaped break with nothing behind it, reading finds nothing while
the offset is not at the end, so that the span of the end of input is two bytes long,
and a dump shows where it starts. -/
theorem readSpan_of_escaped_end :
    let t := Text.ofString "\\\n"
    (ofText t).isAtEnd = false ∧ (ofText t).peek = none ∧
      (ofText t).readSpan.1 = ⟨none, ⟨0, 1, 1⟩, ⟨2, 2, 1⟩⟩ ∧
      Dump.render (fun _ => true) ⟨.spans, true, true, .origin⟩ t = "1:1@0\tEOF\n" ∧
      ¬ EndIsOne t := by
  intro t
  have hend : (ofText t).isAtEnd = false := by decide +kernel
  have hpeek : (ofText t).peek = none := by decide +kernel
  refine ⟨hend, hpeek, by decide +kernel, by decide +kernel, fun h => ?_⟩
  have hsame := h.peek _ (Session.reachable_startingAt t .origin)
  exact absurd (hsame.mpr hpeek) (Bool.eq_false_iff.mp hend)

end Scanner

end TextScan
