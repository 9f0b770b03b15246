import Mathlib.Data.List.DropRight
import TextScan.Proofs.Slices

/-! Lines and columns. A step moves the place by the character it takes and by
nothing else (`place_of_step?`). A place moved by the characters of a text, line
breaks unified, depends only on how many breaks there are and on what stands behind
the last of them (`passAll_unify`), and so does the place that reading has come to
(`position_readTimes`). -/

namespace TextScan

open LineBreaks

/-- Line and column, without the offset. -/
structure Place where
  line : Nat
  column : Nat
deriving DecidableEq

def Position.place (p : Position) : Place := ⟨p.line, p.column⟩

namespace Place

/-- The place behind a character, a line feed being the only line break. -/
def pass (p : Place) (c : Char) : Place :=
  if c = lineFeed then ⟨p.line + 1, 1⟩ else ⟨p.line, p.column + 1⟩

def passAll (p : Place) (cs : List Char) : Place := cs.foldl pass p

@[simp] theorem passAll_nil (p : Place) : p.passAll [] = p := rfl

@[simp] theorem passAll_cons (p : Place) (c : Char) (cs : List Char) :
    p.passAll (c :: cs) = (p.pass c).passAll cs := rfl

@[simp] theorem pass_lineFeed (p : Place) : p.pass lineFeed = ⟨p.line + 1, 1⟩ := if_pos rfl

theorem pass_of_ne {c : Char} (p : Place) (h : c ≠ lineFeed) :
    p.pass c = ⟨p.line, p.column + 1⟩ := if_neg h

end Place

namespace Cursor

variable {t : Text} {c next : Cursor} {char : Char}

/-- The place moves alike for a break of one byte and of two, whose second the column
does not count. -/
theorem place_of_step? (h : c.step? t = some (char, next)) :
    next.position.place = c.position.place.pass char := by
  obtain ⟨i, -, -, ⟨-, rfl, rfl⟩ | ⟨-, -, rfl⟩⟩ := step?_cases h
  · rfl
  · by_cases hfeed : char = lineFeed
    · rw [if_pos hfeed, hfeed]
      rfl
    · rw [if_neg hfeed, Place.pass_of_ne _ hfeed]
      rfl

theorem Steps.place {p q : Position} {cs : List Char} (h : Steps t p cs q) :
    q.place = p.place.passAll cs := by
  induction h with
  | refl => rfl
  | step first _ ih => rw [ih, place_of_step? first, Place.passAll_cons]

end Cursor

/-! ## Places by line breaks -/

namespace LineBreaks

variable {c : Char} {cs : List Char}

/-- How many line breaks there are, each carriage return and line feed pair being
one. -/
def breakCount : List Char → Nat
  | '\r' :: '\n' :: rest => breakCount rest + 1
  | c :: rest => if c = '\r' ∨ c = '\n' then breakCount rest + 1 else breakCount rest
  | [] => 0

/-- What stands behind the last line break. -/
def lastLine (cs : List Char) : List Char := cs.rtakeWhile fun c => c ≠ '\r' && c ≠ '\n'

@[simp] theorem breakCount_nil : breakCount [] = 0 := rfl

@[simp] theorem breakCount_pair (cs : List Char) :
    breakCount ('\r' :: '\n' :: cs) = breakCount cs + 1 := rfl

theorem breakCount_cons (h : ¬ (c = '\r' ∧ cs.head? = some '\n')) :
    breakCount (c :: cs) =
      if c = '\r' ∨ c = '\n' then breakCount cs + 1 else breakCount cs := by
  rw [breakCount]
  rintro rest rfl rfl
  exact h ⟨rfl, rfl⟩

theorem breakCount_eq_zero_iff : breakCount cs = 0 ↔ ∀ c ∈ cs, c ≠ '\r' ∧ c ≠ '\n' := by
  induction cs using break_induction with
  | nil => simp
  | pair cs ih => simp
  | ret cs h ih =>
    have hcount : breakCount ('\r' :: cs) = breakCount cs + 1 :=
      breakCount_cons fun hpair => h hpair.2
    simp [hcount]
  | keep c cs hc ih =>
    rw [breakCount_cons fun hpair => hc hpair.1, List.forall_mem_cons]
    by_cases hfeed : c = '\n' <;> simp [hc, hfeed, ih]

theorem lastLine_eq_self (h : breakCount cs = 0) : lastLine cs = cs := by
  refine List.rtakeWhile_eq_self_iff.mpr fun c hc => ?_
  simpa using breakCount_eq_zero_iff.mp h c hc

/-- Only what stands behind the last line break counts. -/
theorem lastLine_cons (h : c = '\r' ∨ c = '\n' ∨ breakCount cs ≠ 0) :
    lastLine (c :: cs) = lastLine cs := by
  by_cases hcs : breakCount cs = 0
  · -- from behind, everything is taken up to `c`, which is a break
    have hc : c = '\r' ∨ c = '\n' := by simpa [hcs] using h
    have hkeep : ∀ d ∈ cs.reverse, (d ≠ '\r' && d ≠ '\n') = true := by
      intro d hd
      simpa using breakCount_eq_zero_iff.mp hcs d (List.mem_reverse.mp hd)
    rw [lastLine, List.rtakeWhile, List.reverse_cons, List.takeWhile_append_of_pos hkeep,
      List.takeWhile_cons_of_neg (by simpa [or_iff_not_imp_left] using hc),
      List.append_nil, List.reverse_reverse, lastLine_eq_self hcs]
  · -- from behind, a break in `cs` comes before `c` is reached
    rw [lastLine, lastLine, List.rtakeWhile, List.rtakeWhile, List.reverse_cons,
      List.takeWhile_append, if_neg]
    intro hlength
    have hall := (List.takeWhile_prefix _).eq_of_length hlength
    refine hcs (breakCount_eq_zero_iff.mpr fun d hd => ?_)
    simpa using List.takeWhile_eq_self_iff.mp hall d (List.mem_reverse.mpr hd)

/-- The place behind a text, by the line breaks in it. -/
def placeBehind (p : Place) (cs : List Char) : Place :=
  ⟨p.line + breakCount cs,
    if breakCount cs = 0 then p.column + cs.length else 1 + (lastLine cs).length⟩

/-- A line break in front moves the place to the next line first. -/
theorem placeBehind_break {p : Place} {ds : List Char} (hcount : breakCount ds = breakCount cs + 1)
    (hlast : lastLine ds = lastLine cs) :
    placeBehind p ds = placeBehind ⟨p.line + 1, 1⟩ cs := by
  rw [placeBehind, placeBehind, hcount, hlast, if_neg (Nat.succ_ne_zero _), Nat.add_right_comm,
    Nat.add_assoc]
  by_cases hcs : breakCount cs = 0
  · rw [if_pos hcs, lastLine_eq_self hcs]
  · rw [if_neg hcs]

theorem placeBehind_keep {p : Place} (hreturn : c ≠ '\r') (hfeed : c ≠ '\n') :
    placeBehind p (c :: cs) = placeBehind ⟨p.line, p.column + 1⟩ cs := by
  have hcount : breakCount (c :: cs) = breakCount cs := by
    rw [breakCount_cons fun hpair => hreturn hpair.1, if_neg (by simp [hreturn, hfeed])]
  rw [placeBehind, placeBehind, hcount]
  by_cases hcs : breakCount cs = 0
  · rw [if_pos hcs, if_pos hcs, List.length_cons, Nat.add_right_comm, Nat.add_assoc]
  · rw [if_neg hcs, if_neg hcs, lastLine_cons (.inr (.inr hcs))]

/-- The place behind the characters of a text, line breaks unified. -/
theorem passAll_unify (p : Place) (cs : List Char) : p.passAll (unify cs) = placeBehind p cs := by
  induction cs using break_induction generalizing p with
  | nil => simp [placeBehind]
  | pair cs ih =>
    have hlast : lastLine ('\r' :: '\n' :: cs) = lastLine cs := by
      rw [lastLine_cons (.inl rfl), lastLine_cons (.inr (.inl rfl))]
    rw [unify_pair, Place.passAll_cons, Place.pass_lineFeed, ih,
      placeBehind_break (breakCount_pair cs) hlast]
  | ret cs h ih =>
    have hcount : breakCount ('\r' :: cs) = breakCount cs + 1 :=
      breakCount_cons fun hpair => h hpair.2
    rw [unify_return h, Place.passAll_cons, Place.pass_lineFeed, ih,
      placeBehind_break hcount (lastLine_cons (.inl rfl))]
  | keep c cs hc ih =>
    rw [unify_cons hc, Place.passAll_cons, ih]
    by_cases hfeed : c = '\n'
    · subst hfeed
      have hcount : breakCount ('\n' :: cs) = breakCount cs + 1 := breakCount_cons (by simp)
      rw [Place.pass_lineFeed, placeBehind_break hcount (lastLine_cons (.inr (.inl rfl)))]
    · rw [Place.pass_of_ne _ hfeed, placeBehind_keep hc hfeed]

end LineBreaks

namespace Scanner

open Cursor

/-- **Where reading has come to.** From any position, after any number of readings,
also at the end of input: the line is further by the line breaks passed, escaped or
not; the column counts what has been passed, from the last line break on if there
is one. What was only looked at takes no part in it. -/
theorem position_readTimes (t : Text) (p : Position) (n : Nat) :
    let q := ((startingAt t p).readTimes n).2.position
    let raw := t.between p.offset q.offset
    q.line = p.line + breakCount raw ∧
      q.column = if breakCount raw = 0 then p.column + raw.length
        else 1 + (lastLine raw).length := by
  intro q raw
  obtain ⟨cs, hsteps, -, -⟩ := readTimes_steps n (startingAt t p)
  have hplace : q.place = p.place.passAll (unify raw) := by
    rw [show unify raw = cs from hsteps.unify_between]
    exact hsteps.place
  rw [passAll_unify] at hplace
  exact ⟨congrArg Place.line hplace, congrArg Place.column hplace⟩

end Scanner

end TextScan
