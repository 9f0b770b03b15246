import TextScan.Proofs.Steps
import TextScan.Scanner.Spans

/-! Reading many times in a row. All readings together take the characters of the
text between two positions, and what they give is the reduced text of these
(`readTimes_steps`). Reading to the end gives what a stack machine makes of the
rest of the text (`chars_readAll_moveTo`). -/

namespace TextScan.Scanner

open LineBreaks Cursor

/-- So many readings in a row: the characters they give, and the scanner behind
them. -/
def readTimes : Nat → Scanner → List Char × Scanner
  | 0, s => ([], s)
  | n + 1, s => (s.read.1.toList ++ (readTimes n s.read.2).1, (readTimes n s.read.2).2)

variable {s : Scanner} {c : Char}

/-- What one reading preserves, all together do. -/
theorem readTimes_preserves {P : Scanner → Prop} (hread : ∀ s, P s → P s.read.2) (n : Nat)
    (h : P s) : P (s.readTimes n).2 := by
  induction n generalizing s with
  | zero => exact h
  | succ n ih => exact ih (hread s h)

@[simp] theorem readTimes_text (n : Nat) (s : Scanner) : (s.readTimes n).2.text = s.text :=
  readTimes_preserves (P := (·.text = s.text)) (fun _ h => h) n rfl

@[simp] theorem readTimes_marked (n : Nat) (s : Scanner) :
    (s.readTimes n).2.marked = s.marked :=
  readTimes_preserves (P := (·.marked = s.marked)) (fun _ h => h) n rfl

/-! ## The end of input -/

theorem read_of_end (h : s.cursor.step? s.text = none) : s.read = (none, s) := by
  simp [read, read_of_step?_eq_none h]

theorem readTimes_of_end (h : s.cursor.step? s.text = none) (n : Nat) : s.readTimes n = ([], s) := by
  induction n with
  | zero => rfl
  | succ n ih => simp [readTimes, read_of_end h, ih]

/-- Where nothing is read, the end has been reached. -/
theorem end_of_read (h : s.read.1 = none) : s.read.2.cursor.step? s.read.2.text = none := by
  obtain ⟨_, _, _, hend⟩ := read_steps s.text s.cursor
  exact hend h

theorem read_of_head?_readTimes {n : Nat} (h : (s.readTimes n).1.head? = some c) :
    s.read.1 = some c := by
  cases n with
  | zero => exact nomatch h
  | succ n =>
    cases hr : s.read.1 with
    | none =>
      rw [readTimes, hr, readTimes_of_end (end_of_read hr)] at h
      exact nomatch h
    | some d =>
      rw [readTimes, hr] at h
      exact h

/-! ## Readings and steps -/

/-- The characters readings give are the reduced text of those they take. -/
theorem readTimes_steps (n : Nat) (s : Scanner) :
    ∃ cs, Steps s.text s.position cs (s.readTimes n).2.position ∧
      reduce cs = (s.readTimes n).1 ∧ Settled s.text cs (s.readTimes n).2.position := by
  induction n generalizing s with
  | zero => exact ⟨[], .refl _, rfl, nofun⟩
  | succ n ih =>
    obtain ⟨pre, hfirst, hpre, -⟩ := read_steps s.text s.cursor
    obtain ⟨cs, hrest, hcs, hsettled⟩ := ih s.read.2
    refine ⟨pre ++ s.read.1.toList ++ cs, hfirst.trans hrest, ?_, ?_⟩
    · rw [List.append_assoc, ← reduce_reduce_append, hpre, List.nil_append, readTimes]
      cases hr : s.read.1 with
      | none => exact hcs
      | some c =>
        change cancel c (reduce cs) = c :: _
        rw [hcs]
        refine cancel_of_not ?_
        rintro ⟨rfl, hhead⟩
        exact read_ne_lineFeed_of_backslash hr (read_of_head?_readTimes hhead)
    · cases cs with
      | nil =>
        rw [List.append_nil, readTimes, hrest.eq_of_nil]
        exact settled_read s.text s.cursor pre
      | cons c cs =>
        intro hback
        exact hsettled (by simpa using hback)

/-! ## Reading many at once -/

theorem readSpan_fst (s : Scanner) : s.readSpan.1 = ⟨s.read.1, s.position, s.read.2.position⟩ := rfl

theorem isEnd_readSpan_iff : s.readSpan.1.isEnd = true ↔ s.read.1 = none :=
  Option.isNone_iff_eq_none

theorem exists_read_of_not_isEnd (h : ¬ s.readSpan.1.isEnd) : ∃ c, s.read.1 = some c :=
  Option.ne_none_iff_exists'.mp (mt isEnd_readSpan_iff.mpr h)

theorem readTimes_one_of_isEnd (h : s.readSpan.1.isEnd) : s.readTimes 1 = ([], s.readSpan.2) := by
  rw [readTimes, isEnd_readSpan_iff.mp h]
  rfl

theorem readTimes_succ_of_readSpan {n : Nat} {spans : List Span} {last : Scanner}
    (h : ¬ s.readSpan.1.isEnd) (hrest : s.readSpan.2.readTimes n = (chars spans, last)) :
    s.readTimes (n + 1) = (chars (s.readSpan.1 :: spans), last) := by
  obtain ⟨c, hc⟩ := exists_read_of_not_isEnd h
  have hchars : chars (s.readSpan.1 :: spans) = c :: chars spans := List.filterMap_cons_some hc
  rw [readTimes, hc, hchars, show s.read.2 = s.readSpan.2 from rfl, hrest]
  rfl

/-- Reading to the end finds the end at once, or a span with a character first. -/
@[elab_as_elim]
theorem readAll_induction {motive : Scanner → List Span × Span × Scanner → Prop}
    (finish : ∀ s, s.readSpan.1.isEnd → motive s ([], s.readSpan))
    (more : ∀ s, ¬ s.readSpan.1.isEnd → motive s.readSpan.2 s.readSpan.2.readAll →
      motive s (s.readSpan.1 :: s.readSpan.2.readAll.1, s.readSpan.2.readAll.2))
    (s : Scanner) : motive s s.readAll := by
  rw [readAll_eq]
  by_cases hend : s.readSpan.1.isEnd
  · rw [if_pos hend]
    exact finish s hend
  · have hlt := remaining_readSpan_lt (Bool.not_eq_true _ ▸ hend)
    rw [if_neg hend]
    exact more s hend (readAll_induction finish more s.readSpan.2)
termination_by s.remaining

theorem readAll_of_read_eq_none (h : s.read.1 = none) : s.readAll.1 = [] := by
  rw [readAll_eq, if_pos (isEnd_readSpan_iff.mpr h)]

theorem readAll_of_read_eq_some (h : s.read.1 = some c) :
    s.readAll.1 = s.readSpan.1 :: s.read.2.readAll.1 := by
  rw [readAll_eq, if_neg (by simp [isEnd_readSpan_iff, h])]
  rfl

/-- A reading depends on the text and on where it starts, not on mark or flag. -/
theorem readSpan_congr {s' : Scanner} (htext : s.text = s'.text)
    (hposition : s.position = s'.position) : s.readSpan.1 = s'.readSpan.1 := by
  obtain ⟨hchar, hnext⟩ := read_congr (t := s.text) (d := s'.cursor) hposition
  have hread : s'.read =
      ((s'.cursor.read s.text).1, { s' with cursor := (s'.cursor.read s.text).2 }) := by
    rw [htext]
    rfl
  rw [readSpan_fst, readSpan_fst, hread, hposition]
  exact congrArg₂ (Span.mk · s'.position ·) hchar hnext

theorem readAll_congr {s' : Scanner} (htext : s.text = s'.text)
    (hposition : s.position = s'.position) : s.readAll.1 = s'.readAll.1 := by
  revert s'
  refine readAll_induction (motive := fun s r => ∀ {s' : Scanner}, s.text = s'.text →
    s.position = s'.position → r.1 = s'.readAll.1) ?_ ?_ s
  · intro s hend s' htext hposition
    rw [readSpan_congr htext hposition] at hend
    rw [readAll_of_read_eq_none (isEnd_readSpan_iff.mp hend)]
  · intro s hend ih s' htext hposition
    have hspan := readSpan_congr htext hposition
    have hnext : s.readSpan.2.position = s'.readSpan.2.position := congrArg Span.stop hspan
    rw [hspan] at hend ⊢
    rw [readAll_eq s', if_neg hend]
    exact congrArg (s'.readSpan.1 :: ·) (ih htext hnext)

/-- What every reading from any scanner of the text gives, the spans up to the end of
input are. -/
theorem forall_mem_readAll {s : Scanner} {P : Span → Prop}
    (hread : ∀ d : Scanner, d.text = s.text → P d.readSpan.1) :
    ∀ span ∈ s.readAll.1 ++ [s.readAll.2.1], P span := by
  revert hread
  refine readAll_induction (motive := fun s r =>
    (∀ d : Scanner, d.text = s.text → P d.readSpan.1) → ∀ span ∈ r.1 ++ [r.2.1], P span) ?_ ?_ s
  · intro s _ hread
    simpa using hread s rfl
  · intro s _ ih hread
    exact List.forall_mem_cons.mpr ⟨hread s rfl, ih hread⟩

theorem isEnd_readAll (s : Scanner) :
    (∀ span ∈ s.readAll.1, span.isEnd = false) ∧ s.readAll.2.1.isEnd = true := by
  refine readAll_induction (motive := fun _ r =>
    (∀ span ∈ r.1, span.isEnd = false) ∧ r.2.1.isEnd = true) ?_ ?_ s
  · intro s hend
    exact ⟨nofun, hend⟩
  · rintro s hend ⟨hspans, hlast⟩
    exact ⟨List.forall_mem_cons.mpr ⟨Bool.not_eq_true _ ▸ hend, hspans⟩, hlast⟩

/-- Reading to the end is reading as often as it takes to find nothing. -/
theorem exists_readTimes_readAll (s : Scanner) :
    ∃ n, s.readTimes n = (chars s.readAll.1, s.readAll.2.2) ∧
      s.readAll.2.2.cursor.step? s.text = none := by
  refine readAll_induction (motive := fun s r =>
    ∃ n, s.readTimes n = (chars r.1, r.2.2) ∧ r.2.2.cursor.step? s.text = none) ?_ ?_ s
  · intro s hend
    exact ⟨1, readTimes_one_of_isEnd hend, end_of_read (isEnd_readSpan_iff.mp hend)⟩
  · rintro s hend ⟨n, hn, hstop⟩
    exact ⟨n + 1, readTimes_succ_of_readSpan hend hn, hstop⟩

/-- Reading to the end leads to the end of the text, or nowhere if it is behind it. -/
theorem offset_readAll (h : 0 ≤ s.position.offset) :
    s.readAll.2.2.position.offset = max s.position.offset s.text.size := by
  obtain ⟨n, hn, hend⟩ := exists_readTimes_readAll s
  obtain ⟨cs, hsteps, -, -⟩ := readTimes_steps n s
  rw [hn] at hsteps
  by_cases hlt : s.position.offset < s.text.size
  · have hle := hsteps.offset_le
    have hsize := hsteps.offset_le_size (Int.le_of_lt hlt)
    have hout := step?_eq_none_iff.mp hend
    simp only [position, offset] at *
    omega
  · rw [(hsteps.eq_nil (by omega)).2]
    omega

theorem exists_readTimes_takeSpans (k : Nat) (s : Scanner) :
    ∃ n, s.readTimes n = (chars (s.takeSpans k).1, (s.takeSpans k).2) := by
  induction k generalizing s with
  | zero => exact ⟨0, rfl⟩
  | succ k ih =>
    rw [takeSpans_succ]
    by_cases hend : s.readSpan.1.isEnd
    · rw [if_pos hend]
      exact ⟨1, readTimes_one_of_isEnd hend⟩
    · obtain ⟨n, hn⟩ := ih s.readSpan.2
      rw [if_neg hend]
      exact ⟨n + 1, readTimes_succ_of_readSpan hend hn⟩

theorem exists_readTimes_spansWithin (limit : Option Nat) (s : Scanner) :
    ∃ n, s.readTimes n = (chars (s.spansWithin limit).1, (s.spansWithin limit).2) := by
  cases limit with
  | none =>
    obtain ⟨n, hn, -⟩ := exists_readTimes_readAll s
    exact ⟨n, hn⟩
  | some k => exact exists_readTimes_takeSpans k s

theorem readUntil_of_stop {stop : Char} (h : ∀ c, s.read.1 = some c → c = stop) :
    s.readUntil stop = ([], s) := by
  rw [readUntil_eq]
  split
  · rfl
  · next c next hread => exact if_pos (h c (by rw [hread]))

theorem readUntil_of_char {stop : Char} (h : s.read.1 = some c) (hc : c ≠ stop) :
    s.readUntil stop = (c :: (s.read.2.readUntil stop).1, (s.read.2.readUntil stop).2) := by
  rw [readUntil_eq, show s.read = (some c, s.read.2) from Prod.ext h rfl]
  exact if_neg hc

/-- Reading up to a character is stopped at once, or gives another character first. -/
@[elab_as_elim]
theorem readUntil_induction (stop : Char) {motive : Scanner → List Char × Scanner → Prop}
    (finish : ∀ s, (∀ c, s.read.1 = some c → c = stop) → motive s ([], s))
    (more : ∀ s c, s.read.1 = some c → c ≠ stop → motive s.read.2 (s.read.2.readUntil stop) →
      motive s (c :: (s.read.2.readUntil stop).1, (s.read.2.readUntil stop).2))
    (s : Scanner) : motive s (s.readUntil stop) := by
  by_cases hstop : ∀ c, s.read.1 = some c → c = stop
  · rw [readUntil_of_stop hstop]
    exact finish s hstop
  · obtain ⟨c, hchar, hc⟩ : ∃ c, s.read.1 = some c ∧ c ≠ stop := by simpa using hstop
    have hlt := remaining_read_lt hchar
    rw [readUntil_of_char hchar hc]
    exact more s c hchar hc (readUntil_induction stop finish more s.read.2)
termination_by s.remaining

/-- The character reading stops at is peeked at only. -/
theorem exists_readTimes_readUntil (stop : Char) (s : Scanner) :
    ∃ n, s.readTimes n = s.readUntil stop := by
  refine readUntil_induction stop (motive := fun s r => ∃ n, s.readTimes n = r) ?_ ?_ s
  · exact fun s _ => ⟨0, rfl⟩
  · rintro s c hchar - ⟨n, hn⟩
    refine ⟨n + 1, ?_⟩
    rw [readTimes, hchar, hn]
    rfl

/-! ## Reading to the end -/

/-- What is read up to the end is the reduced text from there on. -/
theorem readTimes_to_end {n i : Nat} (hstart : s.position.offset = i)
    (hend : (s.readTimes n).2.cursor.step? s.text = none) :
    (s.readTimes n).1 = reduce (unify (s.text.decodeRange i s.text.size)) := by
  obtain ⟨cs, hsteps, hcs, -⟩ := readTimes_steps n s
  have hle := hsteps.offset_le
  have hout := step?_eq_none_iff.mp hend
  simp only [position, offset] at hstart hle hout
  rw [← hcs, hsteps.eq_unify_of_end hstart (by simp only [position]; omega)]

/-- **Reading to the end is the stack machine.** From any offset, also within a
character, reading to the end of input gives what the machine makes of the
characters from there on, line breaks unified: without any escaped break, and with
nothing but escaped breaks taken out. -/
theorem chars_readAll_moveTo (s : Scanner) (i line column : Nat) :
    let input := unify (s.text.decodeRange i s.text.size)
    let output := chars (s.moveTo ⟨i, line, column⟩).readAll.1
    output = runStack [] input ∧ EscapeFree output ∧
      Relation.ReflTransGen TakesOut input output := by
  intro input output
  obtain ⟨n, hn, hend⟩ := exists_readTimes_readAll (s.moveTo ⟨i, line, column⟩)
  have houtput : output = reduce input := by
    have hread := readTimes_to_end (s := s.moveTo ⟨i, line, column⟩) (n := n) rfl (by rwa [hn])
    rwa [hn] at hread
  rw [houtput]
  exact ⟨(runStack_nil input).symm, escapeFree_reduce input, takesOut_reduce input⟩

end TextScan.Scanner
