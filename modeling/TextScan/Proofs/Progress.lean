import TextScan.Proofs.Sessions
import TextScan.Scanner.Lines

/-! Readings and loops come to an end. What a reading starts while it is carried out, to
look behind a backslash and to read on behind an escaped break, starts further and
further on, so that there are no more starts than bytes ahead and one
(`Evaluates.length_starts_le`). Inside the text a reading moves on (`read_inside`), so
the loops that read in every round are left, and what has found the end of input stays
there (`reading_ends`). -/

namespace TextScan

namespace Cursor

variable {t : Text} {c behind : Cursor} {starts : List Int} {r : Option Char × Cursor}

/-! ## One reading, carried out -/

/-- A reading as it is carried out, with the offsets at which it starts and at which what
it calls for starts, one after the other: another reading ahead, behind a backslash, and
a new round behind a line break that was escaped. -/
inductive Evaluates (t : Text) : Cursor → List Int → Option Char × Cursor → Prop
  | nothing {c : Cursor} (h : c.step? t = none) : Evaluates t c [c.offset] (none, c)
  | other {c next : Cursor} {char : Char} (h : c.step? t = some (char, next))
      (hc : char ≠ '\\') : Evaluates t c [c.offset] (some char, next)
  | literal {c next : Cursor} {starts : List Int} {r : Option Char × Cursor}
      (h : c.step? t = some ('\\', next)) (ahead : Evaluates t next starts r)
      (hr : r.1 ≠ some lineFeed) : Evaluates t c (c.offset :: starts) (some '\\', next)
  | escape {c next behind : Cursor} {starts more : List Int} {r : Option Char × Cursor}
      (h : c.step? t = some ('\\', next))
      (ahead : Evaluates t next starts (some lineFeed, behind))
      (again : Evaluates t behind.alter more r) :
      Evaluates t c (c.offset :: (starts ++ more)) r

theorem exists_evaluates_read (t : Text) (c : Cursor) :
    ∃ starts, Evaluates t c starts (c.read t) := by
  refine read_induction (motive := fun c r => ∃ starts, Evaluates t c starts r) ?_ ?_ ?_ ?_ c
  · intro c hs
    exact ⟨_, .nothing hs⟩
  · intro c char next hs hc
    exact ⟨_, .other hs hc⟩
  · intro c next hs hfeed ih
    obtain ⟨starts, hahead⟩ := ih
    exact ⟨_, .literal hs hahead hfeed⟩
  · intro c next behind hs _ ih ih'
    obtain ⟨starts, hahead⟩ := ih
    obtain ⟨more, hagain⟩ := ih'
    exact ⟨_, .escape hs hahead hagain⟩

namespace Evaluates

theorem start_mem (h : Evaluates t c starts r) : c.offset ∈ starts := by
  cases h <;> exact List.mem_cons_self

theorem lt_of_lineFeed (h : Evaluates t c starts r) (hr : r.1 = some lineFeed) :
    r.2.offset ≤ t.size ∧ ∀ o ∈ starts, o < r.2.offset := by
  induction h with
  | nothing _ => exact nomatch hr
  | other h _ =>
    have hstep := offset_lt_of_step? h
    exact ⟨hstep.2.2, List.forall_mem_singleton.mpr hstep.2.1⟩
  | literal _ _ _ _ => exact absurd (Option.some.inj hr) (by decide)
  | @escape c next behind starts more r h ahead again ihAhead ihAgain =>
    have hstep := offset_lt_of_step? h
    obtain ⟨-, hahead⟩ := ihAhead rfl
    obtain ⟨hsize, hagain⟩ := ihAgain hr
    have hnext : next.offset < behind.offset := hahead _ ahead.start_mem
    have hbehind : behind.offset < r.2.offset := hagain _ again.start_mem
    refine ⟨hsize, List.forall_mem_cons.mpr ⟨by omega, List.forall_mem_append.mpr ⟨?_, hagain⟩⟩⟩
    intro o ho
    exact Int.lt_trans (hahead o ho) hbehind

/-- All that is started to find a line break starts before what is behind it. -/
theorem lt_behind (h : Evaluates t c starts (some lineFeed, behind)) :
    behind.offset ≤ t.size ∧ ∀ o ∈ starts, o < behind.offset :=
  h.lt_of_lineFeed rfl

theorem bounds (h : Evaluates t c starts r) :
    ∀ o ∈ starts, c.offset ≤ o ∧ o ≤ max c.offset t.size := by
  induction h with
  | nothing _ => exact List.forall_mem_singleton.mpr ⟨Int.le_refl _, Int.le_max_left _ _⟩
  | other _ _ => exact List.forall_mem_singleton.mpr ⟨Int.le_refl _, Int.le_max_left _ _⟩
  | literal h _ _ ih =>
    have hstep := offset_lt_of_step? h
    refine List.forall_mem_cons.mpr ⟨⟨Int.le_refl _, Int.le_max_left _ _⟩, ?_⟩
    intro o ho
    have hnext := ih o ho
    omega
  | @escape c next behind starts more r h ahead again ihAhead ihAgain =>
    have hstep := offset_lt_of_step? h
    obtain ⟨hsize, hbefore⟩ := ahead.lt_behind
    have hbehind := hbefore _ ahead.start_mem
    refine List.forall_mem_cons.mpr ⟨⟨Int.le_refl _, Int.le_max_left _ _⟩,
      List.forall_mem_append.mpr ⟨?_, ?_⟩⟩
    · intro o ho
      have hnext := ihAhead o ho
      omega
    · intro o ho
      have hagain : behind.offset ≤ o ∧ o ≤ max behind.offset t.size := ihAgain o ho
      omega

/-- Whatever is started starts behind all that has been started before. -/
theorem pairwise_starts (h : Evaluates t c starts r) : starts.Pairwise (· < ·) := by
  induction h with
  | nothing _ => exact List.pairwise_singleton _ _
  | other _ _ => exact List.pairwise_singleton _ _
  | literal h ahead _ ih =>
    have hstep := offset_lt_of_step? h
    refine List.pairwise_cons.mpr ⟨?_, ih⟩
    intro o ho
    have hnext := ahead.bounds o ho
    omega
  | @escape c next behind starts more r h ahead again ihAhead ihAgain =>
    have hstep := offset_lt_of_step? h
    obtain ⟨-, hbefore⟩ := ahead.lt_behind
    have hbehind := hbefore _ ahead.start_mem
    have hafter (o : Int) (ho : o ∈ more) : behind.offset ≤ o := (again.bounds o ho).1
    refine List.pairwise_cons.mpr ⟨List.forall_mem_append.mpr ⟨?_, ?_⟩,
      List.pairwise_append.mpr ⟨ihAhead, ihAgain, ?_⟩⟩
    · intro o ho
      have hnext := ahead.bounds o ho
      omega
    · intro o ho
      have hle := hafter o ho
      omega
    · intro o ho o' ho'
      exact Int.lt_of_lt_of_le (hbefore o ho) (hafter o' ho')

end Evaluates

theorem length_le_of_pairwise_lt {os : List Int} {a b : Int} (h : os.Pairwise (· < ·))
    (hos : ∀ o ∈ os, a ≤ o ∧ o ≤ b) : os.length ≤ (b - a + 1).toNat := by
  induction os generalizing a with
  | nil => exact Nat.zero_le _
  | cons o os ih =>
    obtain ⟨hfirst, hrest⟩ := List.pairwise_cons.mp h
    obtain ⟨ho, hos⟩ := List.forall_mem_cons.mp hos
    have hle := ih (a := o + 1) hrest fun o' ho' => ⟨hfirst o' ho', (hos o' ho').2⟩
    rw [List.length_cons]
    omega

theorem Evaluates.length_starts_le (h : Evaluates t c starts r) :
    starts.length ≤ (t.size - c.offset).toNat + 1 := by
  have hle := length_le_of_pairwise_lt h.pairwise_starts h.bounds
  omega

/-! ## Where a reading leads to -/

theorem read_of_outside (h : c.offset < 0 ∨ (t.size : Int) ≤ c.offset) :
    c.read t = (none, c) :=
  read_of_step?_eq_none (step?_eq_none_iff.mpr h)

theorem read_inside (h : 0 ≤ c.offset) (hlt : c.offset < t.size) :
    c.offset < (c.read t).2.offset ∧ (c.read t).2.offset ≤ t.size ∧
      ((c.read t).1 = none → (c.read t).2.offset = t.size) := by
  obtain ⟨cs, hsteps, -, hend⟩ := read_steps t c
  have hmoved := offset_lt_read_of_inside h hlt
  have hsize : (c.read t).2.offset ≤ t.size := hsteps.offset_le_size (Int.le_of_lt hlt)
  refine ⟨hmoved, hsize, ?_⟩
  intro hnone
  have hout := step?_eq_none_iff.mp (hend hnone)
  omega

end Cursor

/-! ## Loops -/

/-- The loop goes from one state to another in so many rounds and is left there. A round
without a result leaves it. -/
inductive Loops {σ : Type} (round : σ → Option σ) : Nat → σ → σ → Prop
  | leave {s : σ} (h : round s = none) : Loops round 0 s s
  | goOn {n : Nat} {s next last : σ} (h : round s = some next) (rest : Loops round n next last) :
      Loops round (n + 1) s last

namespace Scanner

variable {s : Scanner} {σ : Type}

/-- A round of a loop over the spans: it reads one, and leaves at the end of input. -/
def spanRound (s : Scanner) : Option Scanner :=
  if s.readSpan.1.isEnd then none else some s.readSpan.2

/-- A round of a visit: it reads a span and calls `f` on it, and leaves at the end of input
or where `f` answers `false`. -/
def visitRound (f : σ → Span → Bool × σ) : σ × Scanner → Option (σ × Scanner)
  | (state, s) =>
    if s.readSpan.1.isEnd then none
    else if (f state s.readSpan.1).1 then some ((f state s.readSpan.1).2, s.readSpan.2)
    else none

/-- A round that peeks at a character and reads it, and leaves where that is `stop` or there
is none. -/
def untilRound (stop : Char) (s : Scanner) : Option Scanner :=
  match s.peek with
  | none => none
  | some c => if c = stop then none else some s.read.2

/-- A round of a loop over the lines. -/
def lineRound (s : Scanner) : Option Scanner := s.readLine?.map (·.2)

/-- The spans are read in as many rounds, and the round that leaves reads the end. -/
theorem loops_readAll (s : Scanner) :
    (∃ last, Loops spanRound s.readAll.1.length s last ∧ s.readAll.2 = last.readSpan) ∧
      s.readAll.1.length ≤ s.remaining := by
  refine readAll_induction (motive := fun s r =>
    (∃ last, Loops spanRound r.1.length s last ∧ r.2 = last.readSpan) ∧
      r.1.length ≤ s.remaining) ?_ ?_ s
  · intro s hend
    exact ⟨⟨s, .leave (if_pos hend), rfl⟩, Nat.zero_le _⟩
  · intro s hend ih
    obtain ⟨⟨last, hloops, hlast⟩, hle⟩ := ih
    have hlt := remaining_readSpan_lt (Bool.not_eq_true _ ▸ hend)
    refine ⟨⟨last, .goOn (if_neg hend) hloops, hlast⟩, ?_⟩
    rw [List.length_cons]
    omega

/-- The round that leaves a visit is its last reading, with the call on it. -/
theorem exists_loops_visit (f : σ → Span → Bool × σ) (state : σ) (s : Scanner) :
    ∃ n last, Loops (visitRound f) n (state, s) last ∧ s.visit f state = last.2.visit f last.1 ∧
      n ≤ s.remaining := by
  revert state
  refine readAll_induction (motive := fun s _ => ∀ state, ∃ n last,
    Loops (visitRound f) n (state, s) last ∧ s.visit f state = last.2.visit f last.1 ∧
      n ≤ s.remaining) ?_ ?_ s
  · intro s hend state
    exact ⟨0, (state, s), .leave (if_pos hend), rfl, Nat.zero_le _⟩
  · intro s hend ih state
    by_cases hgo : (f state s.readSpan.1).1
    · obtain ⟨n, last, hloops, hvisit, hle⟩ := ih (f state s.readSpan.1).2
      have hlt := remaining_readSpan_lt (Bool.not_eq_true _ ▸ hend)
      refine ⟨n + 1, last, .goOn ?_ hloops, ?_, by omega⟩
      · rw [visitRound, if_neg hend, if_pos hgo]
      · rw [visit_eq, if_neg hend, if_pos hgo, hvisit]
    · refine ⟨0, (state, s), .leave ?_, rfl, Nat.zero_le _⟩
      rw [visitRound, if_neg hend, if_neg hgo]

theorem loops_readUntil (stop : Char) (s : Scanner) :
    Loops (untilRound stop) (s.readUntil stop).1.length s (s.readUntil stop).2 ∧
      (s.readUntil stop).1.length ≤ s.remaining := by
  refine readUntil_induction stop (motive := fun s r =>
    Loops (untilRound stop) r.1.length s r.2 ∧ r.1.length ≤ s.remaining) ?_ ?_ s
  · intro s hstop
    refine ⟨.leave ?_, Nat.zero_le _⟩
    cases hpeek : s.peek with
    | none => rw [untilRound, hpeek]
    | some c =>
      rw [untilRound, hpeek]
      exact if_pos (hstop c hpeek)
  · intro s c hchar hne ih
    obtain ⟨hloops, hle⟩ := ih
    have hlt := remaining_read_lt hchar
    have hround : s.untilRound stop = some s.read.2 := by
      rw [untilRound, show s.peek = some c from hchar]
      exact if_neg hne
    refine ⟨.goOn hround hloops, ?_⟩
    rw [List.length_cons]
    omega

theorem loops_lines (s : Scanner) :
    (∃ last, Loops lineRound s.lines.length s last) ∧ s.lines.length ≤ s.remaining := by
  rw [lines_eq]
  cases hline : s.readLine? with
  | none => exact ⟨⟨s, .leave (by rw [lineRound, hline]; rfl)⟩, Nat.zero_le _⟩
  | some r =>
    obtain ⟨line, next⟩ := r
    have hlt := remaining_readLine?_lt hline
    obtain ⟨⟨last, hloops⟩, hle⟩ := loops_lines next
    refine ⟨⟨last, .goOn ?_ hloops⟩, ?_⟩
    · rw [lineRound, hline]
      rfl
    · simp only [List.length_cons]
      omega
termination_by s.remaining

/-! ## The end of input is final -/

/-- Until the scanner is moved it stays where it has found the end of input. -/
theorem read_of_reaches (h : s.read.1 = none) {session : Session}
    (hreaches : Session.Reaches (fun session op => op.target? session.scanner = none)
      (.ofScanner s.read.2) session) :
    session.scanner.read = (none, session.scanner) ∧
      session.scanner.position = s.read.2.position := by
  have hstays : Session.Everywhere (fun d : Scanner =>
      d.cursor.step? d.text = none ∧ d.position = s.read.2.position) session := by
    refine hreaches.everywhere ⟨⟨end_of_read h, rfl⟩, nofun⟩ ?_ ?_ ?_
    · intro d hd
      rw [read_of_end hd.1]
      exact hd
    · intro d hd
      have hout := Cursor.step?_eq_none_iff.mp hd.1
      exact ⟨Cursor.step?_eq_none_iff.mpr hout, hd.2⟩
    · intro session op p hop hp _
      exact nomatch hop.symm.trans hp
  exact ⟨read_of_end hstays.1.1, hstays.1.2⟩

/-- **Reading ends.** From any state of a scanner, what a reading starts while it is carried
out starts further and further on, and there are at most as many starts as bytes ahead
and one. Outside the text a reading finds nothing and changes nothing; inside, it moves
on, at most to the end of the text, and to the end of the text if it finds nothing. From
then on readings find nothing and change nothing until the scanner is moved. The loops
over spans, in visits, up to a character and over lines are left, after as many rounds as
there are bytes ahead at most. -/
theorem reading_ends (s : Scanner) :
    (∃ starts, Cursor.Evaluates s.text s.cursor starts (s.cursor.read s.text) ∧
      starts.Pairwise (· < ·) ∧ starts.length ≤ s.remaining + 1) ∧
    (s.position.offset < 0 ∨ s.text.size ≤ s.position.offset → s.read = (none, s)) ∧
    (0 ≤ s.position.offset → s.position.offset < s.text.size →
      s.position.offset < s.read.2.position.offset ∧
      s.read.2.position.offset ≤ s.text.size ∧
      (s.read.1 = none → s.read.2.position.offset = s.text.size)) ∧
    (s.read.1 = none → ∀ session,
      Session.Reaches (fun session op => op.target? session.scanner = none)
        (.ofScanner s.read.2) session →
      session.scanner.read = (none, session.scanner) ∧
        session.scanner.position = s.read.2.position) ∧
    ((∃ last, Loops spanRound s.readAll.1.length s last ∧ s.readAll.2 = last.readSpan) ∧
      s.readAll.1.length ≤ s.remaining) ∧
    (∀ (σ : Type) (f : σ → Span → Bool × σ) (state : σ), ∃ n last,
      Loops (visitRound f) n (state, s) last ∧ s.visit f state = last.2.visit f last.1 ∧
        n ≤ s.remaining) ∧
    (∀ stop, Loops (untilRound stop) (s.readUntil stop).1.length s (s.readUntil stop).2 ∧
      (s.readUntil stop).1.length ≤ s.remaining) ∧
    (∃ last, Loops lineRound s.lines.length s last) ∧ s.lines.length ≤ s.remaining := by
  obtain ⟨starts, hstarts⟩ := Cursor.exists_evaluates_read s.text s.cursor
  refine ⟨⟨starts, hstarts, hstarts.pairwise_starts, hstarts.length_starts_le⟩, ?_,
    Cursor.read_inside, fun h _ => read_of_reaches h, loops_readAll s, ?_,
    fun stop => loops_readUntil stop s, loops_lines s⟩
  · intro hout
    rw [read, Cursor.read_of_outside hout]
  · intro σ f state
    exact exists_loops_visit f state s

end Scanner

end TextScan
