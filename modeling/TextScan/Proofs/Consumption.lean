import TextScan.Proofs.Sessions

/-! Ways to consume spans. Reading on, a scanner gives one span after the other, and behind
the last only spans of the end of input (`exists_spansFrom_eq_readAll`). Where it has come
to is told by the number of spans it has passed (`IsAt`), whatever it has been asked for
in between: each operation answers with the spans from there on (`Consumes`), and the
next begins where it has stopped (`Account`). A visit makes the same spans its calls, up
to the first that is rejected (`Called`). -/

namespace TextScan.Scanner

/-! ## The spans of a scanner -/

/-- The span that is read when so many have been read. -/
def spanAt (s : Scanner) (i : Nat) : Span := (s.readTimes i).2.readSpan.1

/-- So many spans, from the `i`-th on. -/
def spansFrom (s : Scanner) (i k : Nat) : List Span := (List.range' i k).map s.spanAt

/-- The scanner reads the text of another, and is where that is when it has read so many
spans. Mark and flag are left out. -/
structure IsAt (first : Scanner) (i : Nat) (s : Scanner) : Prop where
  text : s.text = first.text
  position : s.position = (first.readTimes i).2.position

variable {first s : Scanner} {i j k : Nat}

theorem spansFrom_succ (s : Scanner) (i k : Nat) :
    s.spansFrom i (k + 1) = s.spanAt i :: s.spansFrom (i + 1) k := rfl

theorem readTimes_succ_snd (n : Nat) (s : Scanner) :
    (s.readTimes (n + 1)).2 = (s.readTimes n).2.read.2 := by
  induction n generalizing s with
  | zero => rfl
  | succ n ih => exact ih s.read.2

namespace IsAt

theorem start (first : Scanner) : IsAt first 0 first := ⟨rfl, rfl⟩

theorem readSpan_fst (h : IsAt first i s) : s.readSpan.1 = first.spanAt i :=
  readSpan_congr (h.text.trans (readTimes_text i first).symm) h.position

theorem char?_eq (h : IsAt first i s) : s.read.1 = (first.spanAt i).char? :=
  congrArg Span.char? h.readSpan_fst

theorem read (h : IsAt first i s) : IsAt first (i + 1) s.read.2 := by
  refine ⟨h.text, ?_⟩
  rw [readTimes_succ_snd]
  exact congrArg Span.stop h.readSpan_fst

theorem mark (h : IsAt first i s) : IsAt first i s.mark := ⟨h.text, h.position⟩

end IsAt

theorem isEnd_spanAt_succ (h : (s.spanAt i).isEnd = true) : (s.spanAt (i + 1)).isEnd = true := by
  have hend := end_of_read (isEnd_readSpan_iff.mp h)
  rw [spanAt, readTimes_succ_snd, isEnd_readSpan_iff, read_of_end hend]

/-! ## Many spans at once -/

/-- Spans from the `i`-th on, none of them that of the end of input, and the number of
those passed in all: as many as the limit allows, or all there are and that of the end
behind them. -/
inductive Taken (first : Scanner) (limit : Option Nat) (i : Nat) : List Span → Nat → Prop
  | limited {k : Nat} (hlimit : limit = some k)
      (hspans : ∀ span ∈ first.spansFrom i k, span.isEnd = false) :
      Taken first limit i (first.spansFrom i k) (i + k)
  | ended {k : Nat} (hlimit : ∀ n, limit = some n → k < n)
      (hspans : ∀ span ∈ first.spansFrom i k, span.isEnd = false)
      (hend : (first.spanAt (i + k)).isEnd = true) :
      Taken first limit i (first.spansFrom i k) (i + k + 1)

theorem Taken.cons {limit : Option Nat} {spans : List Span}
    (h : Taken first limit (i + 1) spans j) (hspan : (first.spanAt i).isEnd = false) :
    Taken first (limit.map (· + 1)) i (first.spanAt i :: spans) j := by
  cases h with
  | @limited k hlimit hspans =>
    rw [← spansFrom_succ, Nat.add_assoc, Nat.add_comm 1]
    refine .limited (by rw [hlimit]; rfl) ?_
    exact List.forall_mem_cons.mpr ⟨hspan, hspans⟩
  | @ended k hlimit hspans hend =>
    rw [Nat.add_assoc i, Nat.add_comm 1] at hend ⊢
    refine .ended (k := k + 1) ?_ (List.forall_mem_cons.mpr ⟨hspan, hspans⟩) hend
    intro n hn
    obtain ⟨m, hm, rfl⟩ := Option.map_eq_some_iff.mp hn
    exact Nat.succ_lt_succ (hlimit m hm)

theorem IsAt.taken_of_isEnd (h : IsAt first i s) (hend : s.readSpan.1.isEnd = true)
    {limit : Option Nat} (hlimit : ∀ n, limit = some n → 0 < n) :
    Taken first limit i [] (i + 1) := by
  rw [h.readSpan_fst] at hend
  exact .ended (k := 0) hlimit nofun hend

theorem IsAt.taken_cons (h : IsAt first i s) (hend : ¬ s.readSpan.1.isEnd = true)
    {limit : Option Nat} {spans : List Span} (hrest : Taken first limit (i + 1) spans j) :
    Taken first (limit.map (· + 1)) i (s.readSpan.1 :: spans) j := by
  rw [h.readSpan_fst] at hend ⊢
  exact hrest.cons (Bool.not_eq_true _ ▸ hend)

theorem IsAt.takeSpans (h : IsAt first i s) (n : Nat) :
    ∃ j, Taken first (some n) i (s.takeSpans n).1 j ∧ IsAt first j (s.takeSpans n).2 := by
  induction n generalizing s i with
  | zero => exact ⟨i, .limited (k := 0) rfl nofun, h⟩
  | succ n ih =>
    rw [takeSpans_succ]
    by_cases hend : s.readSpan.1.isEnd = true
    · rw [if_pos hend]
      refine ⟨i + 1, h.taken_of_isEnd hend ?_, h.read⟩
      intro m hm
      rw [← Option.some.inj hm]
      exact Nat.succ_pos n
    · rw [if_neg hend]
      obtain ⟨j, htaken, hat⟩ := ih h.read
      exact ⟨j, h.taken_cons hend htaken, hat⟩

theorem IsAt.readAll (h : IsAt first i s) :
    ∃ j, Taken first none i s.readAll.1 j ∧ IsAt first j s.readAll.2.2 := by
  revert i
  refine readAll_induction (motive := fun s r => ∀ {i : Nat}, IsAt first i s →
    ∃ j, Taken first none i r.1 j ∧ IsAt first j r.2.2) ?_ ?_ s
  · intro s hend i h
    exact ⟨i + 1, h.taken_of_isEnd hend nofun, h.read⟩
  · intro s hend ih i h
    obtain ⟨j, htaken, hat⟩ := ih h.read
    exact ⟨j, h.taken_cons hend htaken, hat⟩

theorem IsAt.spansWithin (h : IsAt first i s) (limit : Option Nat) :
    ∃ j, Taken first limit i (s.spansWithin limit).1 j ∧
      IsAt first j (s.spansWithin limit).2 := by
  cases limit with
  | none => exact h.readAll
  | some n => exact h.takeSpans n

/-- The spans up to the end of input come first, and behind them nothing but the end. -/
theorem exists_spansFrom_eq_readAll (s : Scanner) :
    ∃ k, s.readAll.1 = s.spansFrom 0 k ∧ ∀ i, (s.spanAt i).isEnd = true ↔ k ≤ i := by
  obtain ⟨j, htaken, -⟩ := (IsAt.start s).readAll
  generalize s.readAll.1 = spans at htaken
  cases htaken with
  | limited hlimit => exact nomatch hlimit
  | @ended k hlimit hspans hend =>
    rw [Nat.zero_add] at hend
    refine ⟨k, rfl, ?_⟩
    intro i
    constructor
    · intro h
      refine Nat.le_of_not_lt fun hlt => ?_
      have hmem : s.spanAt i ∈ s.spansFrom 0 k :=
        List.mem_map_of_mem (List.mem_range'_1.mpr ⟨Nat.zero_le i, by omega⟩)
      exact nomatch h.symm.trans (hspans _ hmem)
    · intro hle
      induction hle with
      | refl => exact hend
      | step _ ih => exact isEnd_spanAt_succ ih

/-! ## One operation after the other -/

/-- The operation goes on from where the scanner is: it neither moves it nor puts back
another. -/
def Operation.goesOn : Operation → Bool
  | .moveTo _ | .moveToMark | .restore => false
  | _ => true

/-- What an operation answers where so many spans have been passed, and how many are
passed behind it. -/
inductive Consumes (first : Scanner) : Operation → Nat → Answer → Nat → Prop
  | read {i : Nat} : Consumes first .read i (.char (first.spanAt i).char?) (i + 1)
  | readSpan {i : Nat} : Consumes first .readSpan i (.span (first.spanAt i)) (i + 1)
  | skip {i : Nat} : Consumes first .skip i (.char (first.spanAt (i + 1)).char?) (i + 1)
  | skipSpan {i : Nat} : Consumes first .skipSpan i (.span (first.spanAt (i + 1))) (i + 1)
  | peek {i : Nat} : Consumes first .peek i (.char (first.spanAt i).char?) i
  | peekSpan {i : Nat} : Consumes first .peekSpan i (.span (first.spanAt i)) i
  | mark {i : Nat} : Consumes first .mark i .nothing i
  | save {i : Nat} : Consumes first .save i .nothing i
  | slice {i : Nat} {cs : List Char} : Consumes first .slice i (.chars cs) i
  | sliceThrough {i : Nat} {cs : List Char} : Consumes first .sliceThrough i (.chars cs) i
  | text {i : Nat} {cs : List Char} : Consumes first .text i (.chars cs) i
  | takeSpans {i j : Nat} {limit : Option Nat} {spans : List Span}
      (h : Taken first limit i spans j) :
      Consumes first (.takeSpans limit) i (.spans spans) j
  | readMany {i j : Nat} {limit : Option Nat} {spans : List Span}
      (h : Taken first limit i spans j) :
      Consumes first (.readMany limit) i (.chars (chars spans)) j
  | readUntil {i k : Nat} {stop : Char} {cs : List Char}
      (hspans : (first.spansFrom i k).map Span.char? = cs.map some) (hcs : stop ∉ cs)
      (hstop : ∀ c, (first.spanAt (i + k)).char? = some c → c = stop) :
      Consumes first (.readUntil stop) i (.chars cs) (i + k)

theorem IsAt.readUntil (h : IsAt first i s) (stop : Char) :
    ∃ j, Consumes first (.readUntil stop) i (.chars (s.readUntil stop).1) j ∧
      IsAt first j (s.readUntil stop).2 := by
  revert i
  refine readUntil_induction stop (motive := fun s r => ∀ {i : Nat}, IsAt first i s →
    ∃ j, Consumes first (.readUntil stop) i (.chars r.1) j ∧ IsAt first j r.2) ?_ ?_ s
  · intro s hstop i h
    rw [h.char?_eq] at hstop
    exact ⟨i, .readUntil (k := 0) rfl List.not_mem_nil hstop, h⟩
  · intro s c hchar hne ih i h
    obtain ⟨j, hconsumes, hat⟩ := ih h.read
    refine ⟨j, ?_, hat⟩
    rw [h.char?_eq] at hchar
    generalize (s.read.2.readUntil stop).1 = cs at hconsumes
    cases hconsumes with
    | @readUntil _ k _ _ hspans hcs hstop =>
      rw [Nat.add_assoc, Nat.add_comm 1] at hstop ⊢
      refine .readUntil (k := k + 1) ?_ ?_ hstop
      · rw [spansFrom_succ, List.map_cons, List.map_cons, hchar, hspans]
      · rw [List.mem_cons, not_or]
        exact ⟨Ne.symm hne, hcs⟩

theorem IsAt.apply {session : Session} (h : IsAt first i session.scanner) {op : Operation}
    (hop : op.goesOn = true) :
    ∃ j, Consumes first op i (session.apply op).1 j ∧
      IsAt first j (session.apply op).2.scanner := by
  cases op with
  | read =>
    refine ⟨i + 1, ?_, h.read⟩
    show Consumes first .read i (.char session.scanner.read.1) (i + 1)
    rw [h.char?_eq]
    exact .read
  | readSpan =>
    refine ⟨i + 1, ?_, h.read⟩
    show Consumes first .readSpan i (.span session.scanner.readSpan.1) (i + 1)
    rw [h.readSpan_fst]
    exact .readSpan
  | skip =>
    refine ⟨i + 1, ?_, h.read⟩
    show Consumes first .skip i (.char session.scanner.read.2.read.1) (i + 1)
    rw [h.read.char?_eq]
    exact .skip
  | skipSpan =>
    refine ⟨i + 1, ?_, h.read⟩
    show Consumes first .skipSpan i (.span session.scanner.read.2.readSpan.1) (i + 1)
    rw [h.read.readSpan_fst]
    exact .skipSpan
  | peek =>
    refine ⟨i, ?_, h⟩
    show Consumes first .peek i (.char session.scanner.read.1) i
    rw [h.char?_eq]
    exact .peek
  | peekSpan =>
    refine ⟨i, ?_, h⟩
    show Consumes first .peekSpan i (.span session.scanner.readSpan.1) i
    rw [h.readSpan_fst]
    exact .peekSpan
  | mark => exact ⟨i, .mark, h.mark⟩
  | save => exact ⟨i, .save, h⟩
  | slice => exact ⟨i, .slice, h⟩
  | sliceThrough => exact ⟨i, .sliceThrough, h⟩
  | text => exact ⟨i, .text, h⟩
  | readMany limit =>
    obtain ⟨j, htaken, hat⟩ := h.spansWithin limit
    exact ⟨j, .readMany htaken, hat⟩
  | takeSpans limit =>
    obtain ⟨j, htaken, hat⟩ := h.spansWithin limit
    exact ⟨j, .takeSpans htaken, hat⟩
  | readUntil stop => exact h.readUntil stop
  | moveTo p => exact nomatch hop
  | moveToMark => exact nomatch hop
  | restore => exact nomatch hop

/-- The answers to operations one after the other, where so many spans have been passed at
first and so many at last: each begins with the span that the one before has stopped
at, and leaves the scanner where reading alone would have. -/
inductive Account (first : Scanner) : Nat → List Operation → List (Answer × Scanner) → Nat → Prop
  | nil {i : Nat} : Account first i [] [] i
  | cons {i j k : Nat} {op : Operation} {ops : List Operation} {answer : Answer} {s : Scanner}
      {rest : List (Answer × Scanner)} (hop : Consumes first op i answer j)
      (hat : IsAt first j s) (hrest : Account first j ops rest k) :
      Account first i (op :: ops) ((answer, s) :: rest) k

/-- The session behind some operations. -/
def Session.after (session : Session) (ops : List Operation) : Session :=
  ops.foldl (fun session op => (session.apply op).2) session

theorem IsAt.run {session : Session} (h : IsAt first i session.scanner) {ops : List Operation}
    (hops : ∀ op ∈ ops, op.goesOn = true) :
    ∃ k, Account first i ops (session.run ops) k ∧
      IsAt first k (session.after ops).scanner := by
  induction ops generalizing session i with
  | nil => exact ⟨i, .nil, h⟩
  | cons op ops ih =>
    obtain ⟨hop, hrest⟩ := List.forall_mem_cons.mp hops
    obtain ⟨j, hconsumes, hat⟩ := h.apply hop
    obtain ⟨k, haccount, hlast⟩ := ih hat hrest
    exact ⟨k, .cons hconsumes hat haccount, hlast⟩

/-! ## Visits -/

section Visits

variable {σ : Type} {f : σ → Span → Bool × σ} {state : σ} {span : Span} {spans calls : List Span}

/-- The state behind some calls. -/
def stateAfter (f : σ → Span → Bool × σ) (state : σ) (calls : List Span) : σ :=
  calls.foldl (fun state span => (f state span).2) state

/-- The last of these calls is answered with `false`. -/
def Rejects (f : σ → Span → Bool × σ) (state : σ) (calls : List Span) : Prop :=
  ∃ before last, calls = before ++ [last] ∧ (f (stateAfter f state before) last).1 = false

/-- The calls are on the first of these spans, up to one that is rejected or to the last,
and none is rejected before. -/
structure Called (f : σ → Span → Bool × σ) (state : σ) (spans calls : List Span) : Prop where
  front : calls <+: spans
  ends : Rejects f state calls ∨ calls = spans
  accepted : ∀ fewer, fewer <+: calls → Rejects f state fewer → fewer = calls

/-- The same callback with a log of its calls. -/
def logged (f : σ → Span → Bool × σ) : List Span × σ → Span → Bool × (List Span × σ)
  | (log, state), span => ((f state span).1, (log ++ [span], (f state span).2))

@[simp] theorem stateAfter_cons (f : σ → Span → Bool × σ) (state : σ) (span : Span)
    (calls : List Span) :
    stateAfter f state (span :: calls) = stateAfter f (f state span).2 calls := rfl

theorem not_rejects_nil : ¬ Rejects f state [] := by
  intro h
  obtain ⟨before, last, hnil, -⟩ := h
  exact List.append_ne_nil_of_right_ne_nil before (List.cons_ne_nil last []) hnil.symm

theorem rejects_cons_iff : Rejects f state (span :: calls) ↔
    calls = [] ∧ (f state span).1 = false ∨ Rejects f (f state span).2 calls := by
  constructor
  · intro h
    obtain ⟨before, last, hcalls, hlast⟩ := h
    cases before with
    | nil =>
      obtain ⟨rfl, rfl⟩ := List.cons_eq_cons.mp hcalls
      exact .inl ⟨rfl, hlast⟩
    | cons x before =>
      obtain ⟨rfl, hrest⟩ := List.cons_eq_cons.mp hcalls
      exact .inr ⟨before, last, hrest, hlast⟩
  · intro h
    rcases h with ⟨rfl, hspan⟩ | ⟨before, last, rfl, hlast⟩
    · exact ⟨[], span, rfl, hspan⟩
    · exact ⟨span :: before, last, rfl, hlast⟩

theorem called_nil : Called f state [] [] :=
  ⟨List.nil_prefix, .inr rfl, fun _ hfewer _ => List.prefix_nil.mp hfewer⟩

theorem called_of_rejected (h : (f state span).1 = false) :
    Called f state (span :: spans) [span] := by
  refine ⟨List.cons_prefix_cons.mpr ⟨rfl, List.nil_prefix⟩,
    .inl (rejects_cons_iff.mpr (.inl ⟨rfl, h⟩)), ?_⟩
  intro fewer hfewer hrejects
  rcases List.prefix_cons_iff.mp hfewer with rfl | ⟨rest, rfl, hrest⟩
  · exact absurd hrejects not_rejects_nil
  · rw [List.prefix_nil.mp hrest]

theorem Called.cons (h : Called f (f state span).2 spans calls) (hspan : (f state span).1 = true) :
    Called f state (span :: spans) (span :: calls) := by
  refine ⟨List.cons_prefix_cons.mpr ⟨rfl, h.front⟩, ?_, ?_⟩
  · rcases h.ends with hrejects | hall
    · exact .inl (rejects_cons_iff.mpr (.inr hrejects))
    · exact .inr (by rw [hall])
  · intro fewer hfewer hrejects
    rcases List.prefix_cons_iff.mp hfewer with rfl | ⟨rest, rfl, hrest⟩
    · exact absurd hrejects not_rejects_nil
    · rcases rejects_cons_iff.mp hrejects with ⟨-, hfalse⟩ | hrejects
      · exact nomatch hspan.symm.trans hfalse
      · rw [h.accepted rest hrest hrejects]

/-- A visit calls on the spans up to the first that is rejected, and on no others. -/
theorem exists_called_visit (f : σ → Span → Bool × σ) (state : σ) (s : Scanner) :
    ∃ calls, Called f state s.readAll.1 calls ∧ (s.visit f state).1 = stateAfter f state calls ∧
      ∀ log, (s.visit (logged f) (log, state)).1 = (log ++ calls, stateAfter f state calls) := by
  revert state
  refine readAll_induction (motive := fun s r => ∀ state, ∃ calls, Called f state r.1 calls ∧
    (s.visit f state).1 = stateAfter f state calls ∧
      ∀ log, (s.visit (logged f) (log, state)).1 = (log ++ calls, stateAfter f state calls)) ?_ ?_ s
  · intro s hend state
    refine ⟨[], called_nil, ?_, ?_⟩
    · rw [visit_eq, if_pos hend]
      rfl
    · intro log
      rw [visit_eq, if_pos hend, List.append_nil]
      rfl
  · intro s hend ih state
    by_cases hspan : (f state s.readSpan.1).1 = true
    · obtain ⟨calls, hcalled, hstate, hlog⟩ := ih (f state s.readSpan.1).2
      refine ⟨s.readSpan.1 :: calls, hcalled.cons hspan, ?_, ?_⟩
      · rw [visit_eq, if_neg hend, if_pos hspan, hstate, stateAfter_cons]
      · intro log
        rw [visit_eq, if_neg hend, logged, if_pos hspan, hlog, stateAfter_cons, List.append_assoc]
        rfl
    · refine ⟨[s.readSpan.1], called_of_rejected (Bool.not_eq_true _ ▸ hspan), ?_, ?_⟩
      · rw [visit_eq, if_neg hend, if_neg hspan]
        rfl
      · intro log
        rw [visit_eq, if_neg hend, logged, if_neg hspan]
        rfl

end Visits

/-- **Ways to consume spans.** Whatever a scanner is asked for in a row, without moving it
and without putting back another, it answers with one span after the other, and is where
reading as many spans leads to. A callback is called on the same spans, up to the first
that it rejects or up to the end of input, and on nothing behind. -/
theorem consumption_agrees (first : Scanner) :
    (∃ k, first.readAll.1 = first.spansFrom 0 k ∧
      ∀ i, (first.spanAt i).isEnd = true ↔ k ≤ i) ∧
    (∀ ops : List Operation, (∀ op ∈ ops, op.goesOn = true) →
      ∃ n, Account first 0 ops ((Session.ofScanner first).run ops) n) ∧
    (∀ (σ : Type) (f : σ → Span → Bool × σ) (state : σ), ∃ calls,
      Called f state first.readAll.1 calls ∧ (∀ span ∈ calls, span.isEnd = false) ∧
      (first.visit f state).1 = stateAfter f state calls ∧
      (first.visit (logged f) ([], state)).1 = (calls, stateAfter f state calls)) := by
  refine ⟨exists_spansFrom_eq_readAll first, ?_, ?_⟩
  · intro ops hops
    have hstart : IsAt first 0 (Session.ofScanner first).scanner := IsAt.start first
    obtain ⟨n, haccount, -⟩ := hstart.run hops
    exact ⟨n, haccount⟩
  · intro σ f state
    obtain ⟨calls, hcalled, hstate, hlog⟩ := exists_called_visit f state first
    refine ⟨calls, hcalled, ?_, hstate, hlog []⟩
    intro span hspan
    exact (isEnd_readAll first).1 span (hcalled.front.subset hspan)

end TextScan.Scanner
