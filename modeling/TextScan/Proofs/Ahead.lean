import TextScan.Proofs.Slices

/-! What lies ahead. The characters ahead of a position, line breaks unified, decide
alone what is read there: reading passes as much as cancels and takes the first
character that does not (`takes_read`), and there is only one way to do so
(`Takes.unique`). Two texts with the same characters ahead are read alike
(`Takes.transfer`). -/

namespace TextScan

open LineBreaks

/-- The characters from an offset on, line breaks unified. -/
def Text.ahead (t : Text) (offset : Int) : List Char := unify (t.between offset t.size)

theorem Text.ahead_of_outside {t : Text} {offset : Int}
    (h : offset < 0 ∨ (t.size : Int) ≤ offset) : t.ahead offset = [] := by
  rw [ahead, between_of_outside h, unify_nil]

theorem Text.ahead_zero (t : Text) : t.ahead 0 = unify t.toString.toList := by
  rw [ahead, between_zero_size]

namespace Cursor

variable {t u : Text} {p p' q q' : Position} {c next : Cursor} {char : Char} {char? : Option Char}
  {cs ds rest : List Char}

/-! ## Steps by what lies ahead -/

theorem Steps.ahead (h : Steps t p cs q) : t.ahead p.offset = cs ++ t.ahead q.offset := by
  by_cases hp : 0 ≤ p.offset ∧ p.offset < t.size
  · have hle := h.offset_le
    have hsize := h.offset_le_size (Int.le_of_lt hp.2)
    rw [Text.ahead, Text.between_of_inside hp.1 hp.2 (Int.le_refl _), Int.toNat_natCast,
      h.unify_decodeRange (by omega), Text.ahead]
    by_cases hq : q.offset < t.size
    · rw [Text.between_of_inside (by omega) hq (Int.le_refl _), Int.toNat_natCast]
    · rw [Text.between_of_outside (by omega), Text.decodeRange_of_le (by omega)]
  · obtain ⟨rfl, rfl⟩ := h.eq_nil (by omega)
    rfl

theorem ahead_of_step? (h : c.step? t = some (char, next)) :
    t.ahead c.offset = char :: t.ahead next.offset :=
  (Steps.single h).ahead

theorem ahead_eq_nil_iff : t.ahead c.offset = [] ↔ c.step? t = none := by
  constructor
  · intro h
    cases hs : c.step? t with
    | none => rfl
    | some r =>
      obtain ⟨char, next⟩ := r
      rw [ahead_of_step? hs] at h
      exact absurd h (List.cons_ne_nil _ _)
  · intro h
    exact Text.ahead_of_outside (step?_eq_none_iff.mp h)

/-- The same characters lead to the same position. -/
theorem Steps.unique (h : Steps t p cs q) (h' : Steps t p cs q') : q = q' := by
  induction h with
  | refl => exact h'.eq_of_nil.symm
  | @step c next char cs q first rest ih =>
    -- the cursors of the two first steps share their position, not their flag
    generalize hp : c.position = p at h'
    cases h' with
    | @step d next' _ _ _ first' rest' =>
      have hsame := step?_congr (t := t) hp
      rw [first, first'] at hsame
      have hnext : next.position = next'.position := by simpa using hsame
      exact ih (hnext ▸ rest')

/-- All characters that lie ahead can be taken. -/
theorem exists_steps (h : t.ahead p.offset = cs ++ rest) : ∃ q, Steps t p cs q := by
  induction cs generalizing p with
  | nil => exact ⟨p, .refl p⟩
  | cons char cs ih =>
    let c : Cursor := ⟨p, false⟩
    cases hs : c.step? t with
    | none =>
      rw [ahead_eq_nil_iff (c := c).mpr hs] at h
      exact nomatch h
    | some r =>
      obtain ⟨x, next⟩ := r
      rw [show p = c.position from rfl, ahead_of_step? hs, List.cons_append] at h
      obtain ⟨rfl, hrest⟩ := List.cons_eq_cons.mp h
      obtain ⟨q, hq⟩ := ih hrest
      exact ⟨q, .step hs hq⟩

/-! ## One reading by what lies ahead -/

/-- What is read is the first character of the reduced text ahead. -/
theorem read_fst_eq (t : Text) (c : Cursor) : (c.read t).1 = (reduce (t.ahead c.offset)).head? := by
  refine read_induction (motive := fun c r => r.1 = (reduce (t.ahead c.offset)).head?) ?_ ?_ ?_ ?_ c
  · intro c hs
    rw [ahead_eq_nil_iff.mpr hs]
    rfl
  · intro c char next hs hc
    rw [ahead_of_step? hs, reduce_cons, cancel_of_not fun h => hc h.1]
    rfl
  · intro c next hs hfeed ih
    rw [ahead_of_step? hs, reduce_cons, cancel_of_not fun h => hfeed (ih.trans h.2)]
    rfl
  · intro c next passed hs hread ih ih'
    -- what the lookahead has read is the line feed, and the rest comes behind it
    obtain ⟨cs, hsteps, hcs, -⟩ := read_steps t next
    rw [hread] at hsteps
    have hbehind : reduce (t.ahead next.offset) = '\n' :: reduce (t.ahead passed.offset) := by
      rw [hsteps.ahead, List.append_assoc, ← reduce_reduce_append, hcs]
      exact cancel_feed _
    rw [ahead_of_step? hs, reduce_cons, hbehind, cancel_escape]
    exact ih'

/-- From one position to another, `cs` is passed, which cancels, and then `char?` is
taken, which does not. Where nothing is taken, nothing is left. -/
structure Takes (t : Text) (p : Position) (cs : List Char) (char? : Option Char) (q : Position) :
    Prop where
  steps : Steps t p (cs ++ char?.toList) q
  passed : reduce cs = []
  kept : ∀ c ∈ char?, Kept c (t.ahead q.offset)
  ends : char? = none → t.ahead q.offset = []

/-- Reading does so. -/
theorem takes_read (t : Text) (c : Cursor) :
    ∃ cs, Takes t c.position cs (c.read t).1 (c.read t).2.position := by
  obtain ⟨cs, hsteps, hcs, hend⟩ := read_steps t c
  refine ⟨cs, hsteps, hcs, ?_, fun hnone => ahead_eq_nil_iff.mpr (hend hnone)⟩
  rintro char hchar ⟨rfl, hfeed⟩
  exact read_ne_lineFeed_of_backslash hchar ((read_fst_eq t _).trans hfeed)

namespace Takes

theorem ahead (h : Takes t p cs char? q) :
    t.ahead p.offset = cs ++ (char?.toList ++ t.ahead q.offset) := by
  rw [h.steps.ahead, List.append_assoc]

theorem head?_reduce_ahead (h : Takes t p cs char? q) :
    (reduce (t.ahead p.offset)).head? = char? := by
  rw [h.ahead, ← reduce_reduce_append, h.passed, List.nil_append]
  cases char? with
  | none => rw [h.ends rfl]; rfl
  | some c => rw [Option.toList_some, List.singleton_append, (h.kept c rfl).reduce_cons]; rfl

/-- There is only one way to do so. -/
theorem unique {char?' : Option Char} (h : Takes t p cs char? q) (h' : Takes t p ds char?' q') :
    char? = char?' ∧ q = q' := by
  obtain rfl : char? = char?' := h.head?_reduce_ahead.symm.trans h'.head?_reduce_ahead
  have hboth := h.ahead.symm.trans h'.ahead
  have hpassed : cs = ds := by
    cases char? with
    | none =>
      rw [h.ends rfl, h'.ends rfl] at hboth
      simpa using hboth
    | some c => exact (eq_of_kept hboth h.passed h'.passed (h.kept c rfl) (h'.kept c rfl)).1
  subst hpassed
  exact ⟨rfl, h.steps.unique h'.steps⟩

/-- So reading takes it. -/
theorem read_eq (h : Takes t c.position cs char? q) :
    (c.read t).1 = char? ∧ (c.read t).2.position = q := by
  obtain ⟨ds, hread⟩ := takes_read t c
  exact hread.unique h

/-- A text with the same characters ahead is read in the same way. -/
theorem transfer (h : Takes t p cs char? q) (hp : t.ahead p.offset = u.ahead p'.offset) :
    ∃ q', Takes u p' cs char? q' ∧ t.ahead q.offset = u.ahead q'.offset := by
  rw [h.steps.ahead] at hp
  obtain ⟨q', hsteps⟩ := exists_steps hp.symm
  have hq : t.ahead q.offset = u.ahead q'.offset :=
    List.append_cancel_left (hp.trans hsteps.ahead)
  exact ⟨q', ⟨hsteps, h.passed, hq ▸ h.kept, hq ▸ h.ends⟩, hq⟩

end Takes

end Cursor

end TextScan
