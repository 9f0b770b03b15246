import Mathlib.Data.List.Infix
import Mathlib.Data.List.SplitBy
import TextScan.Proofs.Progress
import TextScan.Proofs.SpanSlices

/-! Dumps by lines, from spans. The spans of a text are cut behind each line feed, and for
each piece there is one entry, with the position of its first span and what normalizing
makes of the bytes up to the end of its last span that is no line feed
(`map_textLine_lines`). A dump by lines is these entries and nothing else
(`render_lines_eq`). -/

namespace TextScan

open LineBreaks

/-- Only the elements with one behind them count. -/
theorem isChain_left_iff {α : Type} {P : α → Prop} {as : List α} :
    as.IsChain (fun a _ => P a) ↔ ∀ a ∈ as.dropLast, P a := by
  induction as with
  | nil => simp
  | cons a as ih =>
    cases as with
    | nil => simp
    | cons b as => rw [List.isChain_cons_cons, ih, List.dropLast_cons_cons, List.forall_mem_cons]

namespace Span

/-- The spans of each line, with its line feed if there is one. -/
def logicalLines (spans : List Span) : List (List Span) :=
  spans.splitBy fun span _ => span.char? != some lineFeed

/-- Where the text of a line stops: with its last span that is no line feed, or where the
line starts. -/
def textStop (start : Position) (line : List Span) : Position :=
  ((line.filter (·.char? != some lineFeed)).getLast?.map Span.stop).getD start

variable {spans rest : List Span} {ending : Span}

theorem logicalLines_of_notMem (hne : spans ≠ [])
    (h : ∀ span ∈ spans, span.char? ≠ some lineFeed) : logicalLines spans = [spans] := by
  refine List.splitBy_of_isChain hne (isChain_left_iff.mpr ?_)
  intro span hspan
  exact bne_iff_ne.mpr (h span (List.mem_of_mem_dropLast hspan))

theorem logicalLines_append_feed (h : ∀ span ∈ spans, span.char? ≠ some lineFeed)
    (hending : ending.char? = some lineFeed) :
    logicalLines (spans ++ ending :: rest) = (spans ++ [ending]) :: logicalLines rest := by
  have hline : logicalLines (spans ++ [ending]) = [spans ++ [ending]] := by
    refine List.splitBy_of_isChain (by simp) (isChain_left_iff.mpr ?_)
    intro span hspan
    rw [List.dropLast_concat] at hspan
    exact bne_iff_ne.mpr (h span hspan)
  rw [List.append_cons, logicalLines, List.splitBy_append]
  · exact congrArg (· ++ logicalLines rest) hline
  · intro last hlast next _
    obtain rfl : ending = last := by simpa using hlast
    simp [hending]

theorem textStop_of_notMem {start : Position}
    (h : ∀ span ∈ spans, span.char? ≠ some lineFeed) :
    textStop start spans = (spans.getLast?.map Span.stop).getD start := by
  rw [textStop, List.filter_eq_self.mpr fun span hspan => bne_iff_ne.mpr (h span hspan)]

theorem textStop_append_feed {start : Position} (hending : ending.char? = some lineFeed) :
    textStop start (spans ++ [ending]) = textStop start spans := by
  rw [textStop, textStop, List.filter_append, List.filter_cons_of_neg (by simp [hending]),
    List.filter_nil, List.append_nil]

/-- Lines are the spans cut in pieces, each with a line feed at its end and nowhere else;
only the last may be without one. -/
theorem logicalLines_cut (spans : List Span) :
    (logicalLines spans).flatten = spans ∧
      (∀ line ∈ logicalLines spans, line ≠ [] ∧
        ∀ span ∈ line.dropLast, span.char? ≠ some lineFeed) ∧
      ∀ line ∈ (logicalLines spans).dropLast,
        ∃ ending, line.getLast? = some ending ∧ ending.char? = some lineFeed := by
  refine ⟨List.flatten_splitBy _ _, ?_, ?_⟩
  · intro line hline
    have hchain : line.IsChain fun span _ => (span.char? != some lineFeed) = true :=
      List.isChain_of_mem_splitBy (l := spans) hline
    refine ⟨List.ne_nil_of_mem_splitBy hline, ?_⟩
    intro span hspan
    exact bne_iff_ne.mp (isChain_left_iff.mp hchain span hspan)
  · refine isChain_left_iff.mp (List.IsChain.imp ?_ (List.isChain_getLast_head_splitBy _ spans))
    intro line next hcut
    obtain ⟨hne, _, hfeed⟩ := hcut
    exact ⟨line.getLast hne, List.getLast?_eq_some_getLast hne, by simpa using hfeed⟩

end Span

namespace Dump

/-- The entry for the spans of a line: where the first starts, and the normalized bytes from
there up to the end of the text of the line. -/
def entry (offsets : Bool) (t : Text) (line : List Span) : String :=
  match line.head? with
  | none => ""
  | some first =>
    let raw := t.between first.start.offset (Span.textStop first.start line).offset
    position offsets first.start ++ "\t" ++ String.ofList (normalize raw) ++ "\n"

end Dump

namespace Scanner

open TextScan.Span

variable {s : Scanner} {spans rest : List Span}

theorem snd_readTimes_position (s : Scanner) (n : Nat) :
    (s.readTimes n).2.position =
      ((s.spansFrom 0 n).getLast?.map Span.stop).getD s.position := by
  cases n with
  | zero => rfl
  | succ n =>
    rw [spansFrom_concat, List.getLast?_concat, readTimes_succ_snd, Nat.zero_add]
    rfl

theorem eq_spansFrom_of_append {i k : Nat} (h : s.spansFrom i k = spans ++ rest) :
    spans = s.spansFrom i spans.length := by
  induction spans generalizing i k with
  | nil => rfl
  | cons span spans ih =>
    cases k with
    | zero => exact nomatch h
    | succ k =>
      rw [spansFrom_succ] at h
      obtain ⟨rfl, hrest⟩ := List.cons_eq_cons.mp h
      rw [List.length_cons, spansFrom_succ, ← ih hrest]

/-- The slices of the first spans are together what lies between the first and the last. -/
theorem flatMap_slice_of_readAll (h : s.readAll.1 = spans ++ rest) :
    spans.flatMap (·.slice s.text) = normalize (s.text.between s.position.offset
      ((spans.getLast?.map Span.stop).getD s.position).offset) := by
  obtain ⟨k, hall, -⟩ := exists_spansFrom_eq_readAll s
  have hspans := eq_spansFrom_of_append (hall.symm.trans h)
  rw [hspans, ← normalize_between_spansFrom, snd_readTimes_position, ← hspans]

/-- The entry for the spans of a line says the same as the line made of the slices of those
before the line feed. -/
theorem entry_eq_textLine {line : List Span} (offsets : Bool) (hall : s.readAll.1 = spans ++ rest)
    (hhead : line.head?.map Span.start = some s.position)
    (hstop : textStop s.position line = (spans.getLast?.map Span.stop).getD s.position) :
    Dump.entry offsets s.text line =
      Dump.textLine offsets ⟨s.position, spans.flatMap (·.slice s.text)⟩ := by
  obtain ⟨first, hfirst, hstart⟩ := Option.map_eq_some_iff.mp hhead
  rw [flatMap_slice_of_readAll hall, ← hstop, Dump.entry, hfirst, ← hstart]
  rfl

/-- The lines of a scanner are written as one entry for each line of its spans. -/
theorem map_textLine_lines (offsets : Bool) (s : Scanner) :
    s.lines.map (Dump.textLine offsets) =
      (logicalLines s.readAll.1).map (Dump.entry offsets s.text) := by
  rw [lines_eq]
  rcases readLine?_cases s with ⟨hline, hall⟩ | ⟨spans, next, hline, htext, hspans, hends⟩
  · rw [hline, hall]
    rfl
  · have hlt := remaining_readLine?_lt hline
    have hrest := map_textLine_lines offsets next
    rw [htext] at hrest
    rw [hline]
    dsimp only
    rcases hends with ⟨hne, hall, hnil⟩ | ⟨ending, hending, hall⟩
    · have hhead := start_head?_readAll (s := s) (by rwa [hall])
      have hentry := entry_eq_textLine offsets (hall.trans (List.append_nil spans).symm)
        (hall ▸ hhead) (textStop_of_notMem hspans)
      rw [hnil] at hrest
      rw [hall, logicalLines_of_notMem hne hspans, List.map_singleton, hentry, List.map_cons, hrest]
      rfl
    · have hhead := start_head?_readAll (s := s) (by simp [hall])
      rw [hall, List.append_cons, List.head?_append_of_ne_nil _ (by simp)] at hhead
      have hentry := entry_eq_textLine offsets hall hhead
        ((textStop_append_feed hending).trans (textStop_of_notMem hspans))
      rw [hall, logicalLines_append_feed hspans hending, List.map_cons, List.map_cons, hentry,
        hrest]
termination_by s.remaining

end Scanner

namespace Dump

/-- **Dumps by lines, from spans.** The spans a dump by spans tells are cut behind each line
feed. A dump by lines has one entry for each piece, in this order and nothing else: the
position of its first span, and the normalized bytes from there to the end of its last
span that is no line feed. The loop that writes it is left after as many rounds. -/
theorem render_lines_eq (shown : Char → Bool) (showEnd offsets : Bool) (p : Position) (t : Text) :
    let scanner := Scanner.startingAt t p
    let lines := Span.logicalLines scanner.readAll.1
    render shown ⟨.lines, showEnd, offsets, p⟩ t = String.join (lines.map (entry offsets t)) ∧
      lines.flatten = scanner.readAll.1 ∧
      (∀ line ∈ lines, line ≠ [] ∧ ∀ span ∈ line.dropLast, span.char? ≠ some lineFeed) ∧
      (∀ line ∈ lines.dropLast,
        ∃ ending, line.getLast? = some ending ∧ ending.char? = some lineFeed) ∧
      ∃ last, Loops Scanner.lineRound lines.length scanner last := by
  intro scanner lines
  have hentries := Scanner.map_textLine_lines offsets scanner
  obtain ⟨hflatten, hline, hfeed⟩ := Span.logicalLines_cut scanner.readAll.1
  refine ⟨congrArg String.join hentries, hflatten, hline, hfeed, ?_⟩
  have hlength : scanner.lines.length = lines.length := by
    simpa using congrArg List.length hentries
  rw [← hlength]
  exact (Scanner.loops_lines scanner).1

end Dump

end TextScan
