import TextScan.Proofs.Consumption
import TextScan.Proofs.LogicalLines

/-! Slices span by span. Normalizing two pieces of a text one by one is not the same as
normalizing both, but it is where reading has made the cut, so that a slice consists of
the slices of the spans that were read since the mark (`normalize_between_spansFrom`). What
else a scanner is asked for while it reads makes no difference (`slices_additive`). -/

namespace TextScan.Scanner

open LineBreaks Cursor

theorem spansFrom_concat (s : Scanner) (i k : Nat) :
    s.spansFrom i (k + 1) = s.spansFrom i k ++ [s.spanAt (i + k)] := by
  rw [spansFrom, List.range'_concat, List.map_append, Nat.one_mul]
  rfl

theorem normalize_between_spansFrom (s : Scanner) (n : Nat) :
    normalize (s.text.between s.position.offset (s.readTimes n).2.position.offset) =
      (s.spansFrom 0 n).flatMap (·.slice s.text) := by
  induction n with
  | zero => exact (Steps.refl s.position).normalize_between
  | succ n ih =>
    obtain ⟨cs, hsteps, -, -⟩ := readTimes_steps 1 (s.readTimes n).2
    rw [readTimes_text] at hsteps
    rw [spansFrom_concat, List.flatMap_append, List.flatMap_singleton, Nat.zero_add, ← ih,
      readTimes_succ_snd]
    exact normalize_between_append s n hsteps

theorem readTimes_readTimes (m n : Nat) (s : Scanner) :
    ((s.readTimes m).2.readTimes n).2 = (s.readTimes (m + n)).2 := by
  induction n with
  | zero => rfl
  | succ n ih => rw [readTimes_succ_snd, ih, ← Nat.add_assoc, readTimes_succ_snd]

/-! ## What is asked for in between -/

theorem exists_readTimes_apply (session : Session) {op : Operation} (hop : op.goesOn = true)
    (hmark : op ≠ .mark) :
    ∃ n, (session.apply op).2.scanner = (session.scanner.readTimes n).2 := by
  cases op with
  | read | readSpan | skip | skipSpan => exact ⟨1, rfl⟩
  | peek | peekSpan | slice | sliceThrough | text | save => exact ⟨0, rfl⟩
  | readMany limit | takeSpans limit =>
    obtain ⟨n, hn⟩ := exists_readTimes_spansWithin limit session.scanner
    exact ⟨n, by rw [hn]; rfl⟩
  | readUntil stop =>
    obtain ⟨n, hn⟩ := exists_readTimes_readUntil stop session.scanner
    exact ⟨n, by rw [hn]; rfl⟩
  | mark => exact absurd rfl hmark
  | moveTo p => exact nomatch hop
  | moveToMark => exact nomatch hop
  | restore => exact nomatch hop

theorem exists_readTimes_after (session : Session) {ops : List Operation}
    (hops : ∀ op ∈ ops, op.goesOn = true ∧ op ≠ .mark) :
    ∃ n, (session.after ops).scanner = (session.scanner.readTimes n).2 := by
  induction ops generalizing session with
  | nil => exact ⟨0, rfl⟩
  | cons op ops ih =>
    obtain ⟨⟨hop, hmark⟩, hrest⟩ := List.forall_mem_cons.mp hops
    obtain ⟨m, hm⟩ := exists_readTimes_apply session hop hmark
    obtain ⟨n, hn⟩ := ih (session.apply op).2 hrest
    refine ⟨m + n, ?_⟩
    rw [← readTimes_readTimes, ← hm, ← hn]
    rfl

/-- **Slices are put together from spans.** From any mark, whatever is asked for that neither
marks nor moves nor puts back another scanner: the slice is the slices of the spans that
have been passed since, one behind the other, that of the end of input included, and with
one more character it is longer by the slice of the span that comes next. -/
theorem slices_additive (s : Scanner) (ops : List Operation)
    (hops : ∀ op ∈ ops, op.goesOn = true ∧ op ≠ .mark) :
    let start := s.mark
    let last := ((Session.ofScanner start).after ops).scanner
    ∃ n, Account start 0 ops ((Session.ofScanner start).run ops) n ∧
      last.slice = (start.spansFrom 0 n).flatMap (·.slice s.text) ∧
      last.sliceThrough = last.slice ++ last.peekSpan.slice s.text := by
  intro start last
  have hstart : IsAt start 0 (Session.ofScanner start).scanner := IsAt.start start
  obtain ⟨n, haccount, hat⟩ := hstart.run fun op hop => (hops op hop).1
  obtain ⟨m, hm⟩ := exists_readTimes_after (Session.ofScanner start) hops
  replace hm : last = (s.mark.readTimes m).2 := hm
  have hraw := normalize_between_spansFrom start n
  rw [← hat.position] at hraw
  refine ⟨n, haccount, ?_, ?_⟩
  · refine Eq.trans ?_ hraw
    show last.slice = normalize (s.text.between s.position.offset last.position.offset)
    rw [hm]
    exact slice_readTimes s m
  · rw [hm]
    exact sliceThrough_readTimes s m

/-- The mark is within a character, and the second span passes two escaped breaks of which
one is within the other. -/
theorem slices_additive_of_nested_escape :
    let t := Text.ofString "é\\\\\r\n\ra\\\n"
    let start := (startingAt t ⟨1, 1, 2⟩).mark
    let ops : List Operation := [.peek, .skip, .sliceThrough, .readSpan, .peekSpan, .read]
    let last := ((Session.ofScanner start).after ops).scanner
    last.slice = [replacement, '\\', '\n', 'a'] ∧
      ∃ n, Account start 0 ops ((Session.ofScanner start).run ops) n ∧
        last.slice = (start.spansFrom 0 n).flatMap (·.slice t) ∧
        last.sliceThrough = last.slice ++ last.peekSpan.slice t := by
  intro t start ops last
  have hops : ∀ op ∈ ops, op.goesOn = true ∧ op ≠ .mark := by
    intro op hop
    simp only [ops, List.mem_cons, List.not_mem_nil, or_false] at hop
    rcases hop with rfl | rfl | rfl | rfl | rfl | rfl <;> exact ⟨rfl, nofun⟩
  refine ⟨?_, slices_additive (startingAt t ⟨1, 1, 2⟩) ops hops⟩
  decide +kernel

end TextScan.Scanner
