import TextScan.Scanner

/-! Reading many characters at once. `visit` hands one span after the other to
a function with a state of its own, which may stop it; everything else here
says how it goes on by one more character. The span of the end of input is
never handed on. -/

namespace TextScan.Scanner

theorem remaining_readSpan_lt {s : Scanner} (h : s.readSpan.1.isEnd = false) :
    s.readSpan.2.remaining < s.remaining := by
  obtain ⟨c, hc⟩ := Option.isSome_iff_exists.mp
    (show s.read.1.isSome = true by simpa [Span.isEnd, readSpan] using h)
  exact remaining_read_lt hc

/-- Calls `f` on each span until it answers `false` or the input ends. -/
def visit {σ : Type} (f : σ → Span → Bool × σ) (state : σ) (s : Scanner) : σ × Scanner :=
  match _h : s.readSpan with
  | (span, next) =>
    if _hend : span.isEnd then (state, next)
    else
      match f state span with
      | (true, state) => visit f state next
      | (false, state) => (state, next)
termination_by s.remaining
decreasing_by
  have := remaining_readSpan_lt (s := s) (by simpa [_h] using _hend)
  simpa [_h] using this

theorem visit_eq {σ : Type} (f : σ → Span → Bool × σ) (state : σ) (s : Scanner) :
    s.visit f state =
      if s.readSpan.1.isEnd then (state, s.readSpan.2)
      else if (f state s.readSpan.1).1 then
        s.readSpan.2.visit f (f state s.readSpan.1).2
      else ((f state s.readSpan.1).2, s.readSpan.2) := by
  rw [visit]
  split
  next span next h =>
  simp only [h, dite_eq_ite]
  split
  · rfl
  · split <;> simp [*]

/-- Reads to the end of input: the spans, behind those of `acc`, then the span of
the end. -/
def readAllOnto (acc : Array Span) (s : Scanner) : Array Span × Span × Scanner :=
  match _h : s.readSpan with
  | (span, next) =>
    if _hend : span.isEnd then (acc, span, next) else readAllOnto (acc.push span) next
termination_by s.remaining
decreasing_by
  have := remaining_readSpan_lt (s := s) (by simpa [_h] using _hend)
  simpa [_h] using this

/-- Reads to the end of input: the spans, then the span of the end. -/
def readAll (s : Scanner) : List Span × Span × Scanner :=
  let (acc, rest) := s.readAllOnto #[]
  (acc.toList, rest)

theorem readAllOnto_eq_ite (acc : Array Span) (s : Scanner) :
    s.readAllOnto acc =
      if s.readSpan.1.isEnd then (acc, s.readSpan)
      else s.readSpan.2.readAllOnto (acc.push s.readSpan.1) := by
  rw [readAllOnto]
  split
  next span next h => simp only [h, dite_eq_ite]

theorem readAllOnto_eq (acc : Array Span) (s : Scanner) :
    s.readAllOnto acc = (acc ++ (s.readAllOnto #[]).1, (s.readAllOnto #[]).2) := by
  rw [readAllOnto_eq_ite, readAllOnto_eq_ite #[]]
  split
  · simp
  · next h =>
    have := remaining_readSpan_lt (Bool.not_eq_true _ ▸ h)
    rw [readAllOnto_eq (acc.push _), readAllOnto_eq (#[].push _)]
    simp
termination_by s.remaining

theorem readAll_eq (s : Scanner) :
    s.readAll =
      if s.readSpan.1.isEnd then ([], s.readSpan)
      else (s.readSpan.1 :: s.readSpan.2.readAll.1, s.readSpan.2.readAll.2) := by
  simp only [readAll]
  rw [readAllOnto_eq_ite]
  by_cases h : s.readSpan.1.isEnd
  · simp [h]
  · rw [if_neg h, if_neg h, readAllOnto_eq]
    simp

/-- The spans before the end of input, with the scanner that has found it. -/
def spans (s : Scanner) : List Span × Scanner := (s.readAll.1, s.readAll.2.2)

/-- Up to `n` spans, behind those of `acc`. -/
def takeSpansOnto (acc : Array Span) : Nat → Scanner → Array Span × Scanner
  | 0, s => (acc, s)
  | n + 1, s =>
    let (span, next) := s.readSpan
    if span.isEnd then (acc, next) else takeSpansOnto (acc.push span) n next

/-- Up to `n` spans. Reading stops right behind the last one, so that the end of
input is not looked for. -/
def takeSpans (n : Nat) (s : Scanner) : List Span × Scanner :=
  let (acc, next) := s.takeSpansOnto #[] n
  (acc.toList, next)

theorem takeSpansOnto_eq (acc : Array Span) (n : Nat) (s : Scanner) :
    s.takeSpansOnto acc n = (acc ++ (s.takeSpansOnto #[] n).1, (s.takeSpansOnto #[] n).2) := by
  induction n generalizing acc s with
  | zero => simp [takeSpansOnto]
  | succ n ih =>
    simp only [takeSpansOnto]
    split
    · simp
    · rw [ih (acc.push _), ih (#[].push _)]
      simp

@[simp] theorem takeSpans_zero (s : Scanner) : s.takeSpans 0 = ([], s) := rfl

theorem takeSpans_succ (n : Nat) (s : Scanner) :
    s.takeSpans (n + 1) =
      if s.readSpan.1.isEnd then ([], s.readSpan.2)
      else (s.readSpan.1 :: (s.readSpan.2.takeSpans n).1, (s.readSpan.2.takeSpans n).2) := by
  simp only [takeSpans, takeSpansOnto]
  by_cases h : s.readSpan.1.isEnd
  · simp [h]
  · rw [if_neg h, if_neg h, takeSpansOnto_eq]
    simp

/-- Up to so many spans, or all. -/
def spansWithin (limit : Option Nat) (s : Scanner) : List Span × Scanner :=
  match limit with
  | some n => s.takeSpans n
  | none => s.spans

/-- Conditions of which any one, met by the spans seen so far, ends a visit. -/
structure StopRule where
  count : Option Nat := none
  char : Option Char := none
  /-- The least line a span may end in. -/
  line : Option Nat := none

def StopRule.isMet (rule : StopRule) (seen : Nat) (last : Span) : Bool :=
  rule.count.any (· ≤ seen) || rule.char.any (some · == last.char?) ||
    rule.line.any (· ≤ last.stop.line)

/-- The spans up to the first one that meets the rule. -/
def spansUntil (rule : StopRule) (s : Scanner) : List Span :=
  let (acc, _) := s.visit (fun (acc : Array Span) span =>
    (!rule.isMet (acc.size + 1) span, acc.push span)) #[]
  acc.toList

/-- The characters of some spans. -/
def chars (spans : List Span) : List Char := spans.filterMap (·.char?)

/-- The characters before the next `stop`, behind those of `acc`. -/
def readUntilOnto (stop : Char) (acc : Array Char) (s : Scanner) : Array Char × Scanner :=
  match _h : s.read with
  | (none, _) => (acc, s)
  | (some c, next) =>
    if c = stop then (acc, s) else readUntilOnto stop (acc.push c) next
termination_by s.remaining
decreasing_by
  have hlt := remaining_read_lt (s := s) (by rw [_h])
  rwa [_h] at hlt

/-- Reads the characters before the next `stop`, or all there are. -/
def readUntil (stop : Char) (s : Scanner) : List Char × Scanner :=
  let (acc, next) := s.readUntilOnto stop #[]
  (acc.toList, next)

theorem readUntilOnto_eq (stop : Char) (acc : Array Char) (s : Scanner) :
    s.readUntilOnto stop acc =
      (acc ++ (s.readUntilOnto stop #[]).1, (s.readUntilOnto stop #[]).2) := by
  rw [readUntilOnto, readUntilOnto.eq_1 stop #[]]
  split
  · simp
  · next c next h =>
    have hlt : next.remaining < s.remaining := by
      simpa [h] using remaining_read_lt (s := s) (by rw [h])
    split
    · simp
    · rw [readUntilOnto_eq stop (acc.push _), readUntilOnto_eq stop (#[].push _)]
      simp
termination_by s.remaining

theorem readUntil_eq (stop : Char) (s : Scanner) :
    s.readUntil stop =
      match s.read with
      | (none, _) => ([], s)
      | (some c, next) =>
        if c = stop then ([], s)
        else (c :: (next.readUntil stop).1, (next.readUntil stop).2) := by
  rw [readUntil, readUntilOnto]
  split
  next acc last h =>
  split at h
  · next hr =>
    cases h
    simp [hr]
  · next c next hr =>
    rw [hr]
    split at h
    · cases h
      simp [*]
    · rw [readUntilOnto_eq] at h
      cases h
      simp [*, readUntil]

end TextScan.Scanner
