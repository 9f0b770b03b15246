import Mathlib.Data.List.Basic
import TextScan.Proofs.Printing
import TextScan.Proofs.Tiling

/-! Dumps by spans. Each span has a line, which is cut at its tabs into the positions of the
span and its quoted character; as none of these has a tab or a line break inside, a dump can
be cut again into its lines, and with offsets into the spans it was made from
(`render_spans_faithful`). -/

namespace TextScan

/-- Lines that are ended each by a separator, cut apart. -/
theorem fields_flatMap {separator : Char} {lines : List (List Char)}
    (h : ∀ line ∈ lines, separator ∉ line) :
    fields separator (lines.flatMap (· ++ [separator])) = lines ++ [[]] := by
  have hjoin : lines.flatMap (· ++ [separator]) = [separator].intercalate (lines ++ [[]]) := by
    clear h
    induction lines with
    | nil => rfl
    | cons line lines ih =>
      obtain ⟨next, others, hrest⟩ : ∃ next others, lines ++ [[]] = next :: others :=
        List.exists_cons_of_ne_nil (by simp)
      rw [List.flatMap_cons, ih, List.cons_append, hrest, List.intercalate_cons_cons]
  rw [hjoin]
  refine fields_intercalate (List.forall_mem_append.mpr ⟨h, ?_⟩) (by simp)
  simp

namespace Dump

/-- The spans that have a line: the end of input may have one too. -/
def told (showEnd : Bool) (s : Scanner) : List Span :=
  if showEnd then s.readAll.1 ++ [s.readAll.2.1] else s.readAll.1

/-- What stands between the tabs of the line of a span. -/
def spanFields (shown : Char → Bool) (offsets : Bool) (s : Span) : List (List Char) :=
  match s.char? with
  | some c =>
    [(position offsets s.start).toList, (position offsets s.stop).toList, Quote.char shown c]
  | none => [(position offsets s.start).toList, ['E', 'O', 'F']]

/-- The line of a span without its line break. -/
def spanText (shown : Char → Bool) (offsets : Bool) (s : Span) : List Char :=
  ['\t'].intercalate (spanFields shown offsets s)

/-- The character that a line tells, which only the end of input does not. -/
def charOf? (line : List Char) : Option Char :=
  match fields '\t' line with
  | [_, _, quoted] => Quote.read? quoted
  | _ => none

variable {shown : Char → Bool} {offsets : Bool}

theorem toList_spanLine (shown : Char → Bool) (offsets : Bool) (s : Span) :
    (spanLine shown offsets s).toList = spanText shown offsets s ++ ['\n'] := by
  unfold spanLine spanText spanFields
  cases s.char? with
  | some c => simp
  | none => simp

theorem notMem_spanFields {separator : Char} (h : separator ∈ ['\t', '\n'])
    (shown : Char → Bool) (offsets : Bool) (s : Span) :
    ∀ field ∈ spanFields shown offsets s, separator ∉ field := by
  have hposition (p : Position) : separator ∉ (position offsets p).toList := by
    obtain rfl | rfl : separator = '\t' ∨ separator = '\n' := by simpa using h
    · exact fun hmem => absurd (isDigit_or_of_mem_position hmem) (by decide)
    · exact fun hmem => absurd (isDigit_or_of_mem_position hmem) (by decide)
  have hend : separator ∉ ['E', 'O', 'F'] := by
    obtain rfl | rfl : separator = '\t' ∨ separator = '\n' := by simpa using h
    · decide
    · decide
  unfold spanFields
  cases s.char? with
  | some c => simp [hposition, Quote.notMem_char h]
  | none => simp [hposition, hend]

theorem fields_spanText (shown : Char → Bool) (offsets : Bool) (s : Span) :
    fields '\t' (spanText shown offsets s) = spanFields shown offsets s := by
  refine fields_intercalate (notMem_spanFields (by decide) shown offsets s) ?_
  unfold spanFields
  split <;> simp

theorem lineFeed_notMem_spanText (shown : Char → Bool) (offsets : Bool) (s : Span) :
    '\n' ∉ spanText shown offsets s := by
  have hfeed : '\n' ∈ ['\t', '\n'] := by decide
  have hfields := notMem_spanFields hfeed shown offsets s
  unfold spanText
  unfold spanFields at hfields ⊢
  cases hchar : s.char? with
  | some c => simp_all
  | none => simp_all

theorem charOf?_spanText (shown : Char → Bool) (offsets : Bool) (s : Span) :
    charOf? (spanText shown offsets s) = s.char? := by
  rw [charOf?, fields_spanText]
  unfold spanFields
  cases s.char? with
  | some c => exact Quote.read?_char shown c
  | none => rfl

/-- With offsets a line tells its span, but for the place where the end of input stops. -/
theorem spanText_eq_spanText_iff {s s' : Span} :
    spanText shown true s = spanText shown true s' ↔
      s.char? = s'.char? ∧ s.start = s'.start ∧ (s.isEnd = false → s.stop = s'.stop) := by
  have hfields : spanText shown true s = spanText shown true s' ↔
      spanFields shown true s = spanFields shown true s' := by
    constructor
    · intro h
      rw [← fields_spanText, h, fields_spanText]
    · intro h
      rw [spanText, h, spanText]
  have hposition {p q : Position} : (position true p).toList = (position true q).toList ↔ p = q :=
    String.toList_inj.trans position_injective.eq_iff
  have hquote {c d : Char} : Quote.char shown c = Quote.char shown d ↔ c = d :=
    (Quote.char_injective shown).eq_iff
  rw [hfields]
  unfold spanFields Span.isEnd
  cases s.char? with
  | some c =>
    cases s'.char? with
    | some d => simp [hposition, hquote, and_comm, and_left_comm]
    | none => simp
  | none =>
    cases s'.char? with
    | some d => simp
    | none => simp [hposition]

theorem spanText_of_isEnd {s : Span} (h : s.isEnd = true) :
    spanText shown offsets s = (position offsets s.start ++ "\tEOF").toList := by
  have hend : s.char? = none := Option.isNone_iff_eq_none.mp h
  unfold spanText spanFields
  rw [hend]
  simp

theorem toList_render_spans (shown : Char → Bool) (showEnd offsets : Bool) (p : Position)
    (t : Text) :
    (render shown ⟨.spans, showEnd, offsets, p⟩ t).toList =
      ((told showEnd (Scanner.startingAt t p)).map (spanText shown offsets)).flatMap
        (· ++ ['\n']) := by
  change (String.join ((told showEnd (Scanner.startingAt t p)).map
    (spanLine shown offsets))).toList = _
  rw [String.toList_join, List.flatMap_map, List.flatMap_map]
  exact List.flatMap_congr fun span _ => toList_spanLine shown offsets span

theorem fields_render_spans (shown : Char → Bool) (showEnd offsets : Bool) (p : Position)
    (t : Text) :
    fields '\n' (render shown ⟨.spans, showEnd, offsets, p⟩ t).toList =
      (told showEnd (Scanner.startingAt t p)).map (spanText shown offsets) ++ [[]] := by
  rw [toList_render_spans]
  refine fields_flatMap (List.forall_mem_map.mpr fun span _ => ?_)
  exact lineFeed_notMem_spanText shown offsets span

/-- Dumps are the same just if their lines are. -/
theorem render_spans_eq_iff {showEnd : Bool} {p p' : Position} {t t' : Text} :
    render shown ⟨.spans, showEnd, offsets, p⟩ t =
        render shown ⟨.spans, showEnd, offsets, p'⟩ t' ↔
      (told showEnd (Scanner.startingAt t p)).map (spanText shown offsets) =
        (told showEnd (Scanner.startingAt t' p')).map (spanText shown offsets) := by
  constructor
  · intro h
    have hlines := fields_render_spans shown showEnd offsets p t
    rw [h, fields_render_spans] at hlines
    exact (List.append_cancel_right hlines).symm
  · intro h
    refine String.toList_injective ?_
    rw [toList_render_spans, toList_render_spans, h]

/-! ## What a dump tells -/

variable {showEnd : Bool}

theorem length_told (s : Scanner) :
    (told showEnd s).length = s.readAll.1.length + showEnd.toNat := by
  unfold told
  cases showEnd with
  | true => simp
  | false => simp

/-- The end of input has no character. -/
theorem filterMap_char?_told (s : Scanner) :
    (told showEnd s).filterMap Span.char? = s.readAll.1.filterMap Span.char? := by
  have hend : s.readAll.2.1.char? = none := Option.isNone_iff_eq_none.mp s.isEnd_readAll.2
  unfold told
  cases showEnd with
  | true => simp [hend]
  | false => simp

/-- Lines of characters tell their spans. -/
theorem eq_of_map_spanText_eq {spans spans' : List Span}
    (hchars : ∀ span ∈ spans, span.isEnd = false)
    (h : spans.map (spanText shown true) = spans'.map (spanText shown true)) :
    spans = spans' := by
  induction spans generalizing spans' with
  | nil => exact (List.map_eq_nil_iff.mp h.symm).symm
  | cons span spans ih =>
    obtain ⟨hspan, hspans⟩ := List.forall_mem_cons.mp hchars
    cases spans' with
    | nil => exact nomatch h
    | cons span' spans' =>
      obtain ⟨hfirst, hrest⟩ := List.cons.inj h
      obtain ⟨hchar, hstart, hstop⟩ := spanText_eq_spanText_iff.mp hfirst
      have heq : span = span' := by
        cases span
        cases span'
        simp_all
      rw [heq, ih hspans hrest]

theorem map_spanText_told_eq_iff (shown : Char → Bool) {s s' : Scanner} :
    (told showEnd s).map (spanText shown true) = (told showEnd s').map (spanText shown true) ↔
      s.readAll.1 = s'.readAll.1 ∧
        (showEnd = true → s.readAll.2.1.start = s'.readAll.2.1.start) := by
  have hend := Option.isNone_iff_eq_none.mp s.isEnd_readAll.2
  have hend' := Option.isNone_iff_eq_none.mp s'.isEnd_readAll.2
  have hspans : s.readAll.1.map (spanText shown true) = s'.readAll.1.map (spanText shown true) ↔
      s.readAll.1 = s'.readAll.1 :=
    ⟨eq_of_map_spanText_eq s.isEnd_readAll.1, congrArg _⟩
  unfold told
  cases showEnd with
  | false => simp [hspans]
  | true =>
    have hlast : spanText shown true s.readAll.2.1 = spanText shown true s'.readAll.2.1 ↔
        s.readAll.2.1.start = s'.readAll.2.1.start := by
      rw [spanText_eq_spanText_iff, hend, hend', s.isEnd_readAll.2]
      simp
    simp only [if_true, List.map_append, List.map_singleton, forall_const]
    rw [← List.concat_eq_append, ← List.concat_eq_append, List.concat_inj, hspans, hlast]

/-- **A dump by spans tells all of them.** Two dumps with offsets are the same just if the
spans are, and the places where the input ends as far as these are shown. With or without
offsets there is one line for each span, and one more for the end of input if it is shown,
and the characters that are read from the lines are the dump by characters. -/
theorem render_spans_faithful (shown : Char → Bool) (showEnd : Bool) :
    (∀ (p p' : Position) (t t' : Text),
      let s := Scanner.startingAt t p
      let s' := Scanner.startingAt t' p'
      render shown ⟨.spans, showEnd, true, p⟩ t = render shown ⟨.spans, showEnd, true, p'⟩ t' ↔
        s.readAll.1 = s'.readAll.1 ∧
          (showEnd = true → s.readAll.2.1.start = s'.readAll.2.1.start)) ∧
    ∀ (offsets : Bool) (p : Position) (t : Text),
      let s := Scanner.startingAt t p
      ∃ lines,
        fields '\n' (render shown ⟨.spans, showEnd, offsets, p⟩ t).toList = lines ++ [[]] ∧
        lines.length = s.readAll.1.length + showEnd.toNat ∧
        (showEnd = true → lines.getLast? =
          some (position offsets s.readAll.2.1.start ++ "\tEOF").toList) ∧
        lines.filterMap charOf? = (render shown ⟨.chars, showEnd, offsets, p⟩ t).toList := by
  constructor
  · intro p p' t t' s s'
    exact render_spans_eq_iff.trans (map_spanText_told_eq_iff shown)
  · intro offsets p t s
    refine ⟨(told showEnd s).map (spanText shown offsets), ?_, ?_, ?_, ?_⟩
    · exact fields_render_spans shown showEnd offsets p t
    · rw [List.length_map, length_told]
    · rintro rfl
      simp [told, spanText_of_isEnd s.isEnd_readAll.2]
    · change _ = (String.ofList (Scanner.chars s.readAll.1)).toList
      rw [List.filterMap_map, String.toList_ofList, Scanner.chars, ← filterMap_char?_told]
      exact List.filterMap_congr fun span _ => charOf?_spanText shown offsets span

/-- Where the end of input stops is not told: a break that is left out stands in one of these
texts, and nothing in the other. -/
example : render (fun _ => true) ⟨.spans, true, true, .origin⟩ (.ofString "\\\n") =
    render (fun _ => true) ⟨.spans, true, true, .origin⟩ (.ofString "") := by decide +kernel

end Dump

end TextScan
