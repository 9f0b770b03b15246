import TextScan.Cursor
import TextScan.Proofs.Decoding
import TextScan.Proofs.Normalization

/-! Reading, taken apart into single steps. Steps take the characters of the text
with its line breaks unified (`Steps.unify_decodeRange`). A character read is the
last one of the steps it took, and the others cancel (`read_steps`); a backslash
is read only where no break comes next (`read_ne_lineFeed_of_backslash`). -/

namespace TextScan.Cursor

open LineBreaks

variable {t : Text} {c next : Cursor} {char : Char} {j : Nat}

/-! ## One step -/

@[simp] theorem passReturn_offset (t : Text) (p : Position) : (passReturn t p).offset =
    if t.lineFeedAt p.offset then p.offset + 1 else p.offset := rfl

/-- Behind a carriage return, and behind the line feed that belongs to it. -/
theorem passReturn_advance_offset {p : Position} {i : Nat} (hp : p.offset = i) :
    (passReturn t (p.advance 1)).offset =
      (if t.lineFeedAt (i + 1 : Nat) then i + 2 else i + 1 : Nat) := by
  have hbehind : (p.advance 1).offset = (i + 1 : Nat) := by
    rw [Position.advance_offset, hp]
    rfl
  rw [passReturn_offset, hbehind]
  split <;> rfl

@[simp] theorem offset_ite_breakLine (b : Prop) [Decidable b] (p : Position) :
    (if b then p.breakLine else p).offset = p.offset := by
  split <;> rfl

/-- Behind any other character, also if the next line begins there. -/
theorem offset_of_keep {p : Position} {i : Nat} (hp : p.offset = i) (b : Prop) [Decidable b]
    (width : Nat) :
    (if b then (p.advance width).breakLine else p.advance width).offset = (i + width : Nat) := by
  rw [offset_ite_breakLine, Position.advance_offset, hp]
  rfl

/-- What one step can take: a carriage return, or a character as it stands. -/
theorem step?_cases (h : c.step? t = some (char, next)) :
    ∃ i : Nat, c.offset = i ∧ i < t.size ∧
      ((t.decodeAt i).1 = carriageReturn ∧ char = lineFeed ∧
          next = passReturn t (c.position.advance (t.decodeAt i).2) ∨
        (t.decodeAt i).1 = char ∧ char ≠ carriageReturn ∧
          next = { c with position :=
            if char = lineFeed then (c.position.advance (t.decodeAt i).2).breakLine
            else c.position.advance (t.decodeAt i).2 }) := by
  unfold step? at h
  split at h
  · contradiction
  · next i hi =>
    obtain ⟨hoffset, hlt⟩ := Text.index?_eq_some_iff.mp hi
    refine ⟨i, hoffset, hlt, ?_⟩
    split at h
    next x width hd =>
    rw [hd]
    split at h
    · next hx => cases h; exact Or.inr ⟨hx, by decide, by simp⟩
    · split at h
      · next hx => cases h; exact Or.inl ⟨hx, rfl, rfl⟩
      · next hfeed hreturn => cases h; exact Or.inr ⟨rfl, hreturn, by simp [hfeed]⟩

theorem step?_of_return {i : Nat} (hi : c.offset = i) (hlt : i < t.size)
    (h : t.decodeAt i = (carriageReturn, 1)) :
    c.step? t = some (lineFeed, passReturn t (c.position.advance 1)) := by
  rw [step?, Text.index?_eq_some_iff.mpr ⟨hi, hlt⟩]
  dsimp only
  rw [h]
  rfl

theorem step?_of_keep {i width : Nat} (hi : c.offset = i) (hlt : i < t.size)
    (h : t.decodeAt i = (char, width)) (hchar : char ≠ carriageReturn) :
    c.step? t = some (char, { c with
      position := if char = lineFeed then (c.position.advance width).breakLine
        else c.position.advance width }) := by
  rw [step?, Text.index?_eq_some_iff.mpr ⟨hi, hlt⟩]
  dsimp only
  rw [h]
  by_cases hfeed : char = lineFeed
  · subst hfeed
    rfl
  · simp [hfeed, hchar]

/-- A carriage return is taken with a line feed behind it. -/
theorem unify_decodeRange_return {i : Nat} (hx : (t.decodeAt i).1 = carriageReturn)
    (hj : (if t.lineFeedAt (i + 1 : Nat) then i + 2 else i + 1) ≤ j) :
    unify (t.decodeRange i j) = lineFeed ::
      unify (t.decodeRange (if t.lineFeedAt (i + 1 : Nat) then i + 2 else i + 1) j) := by
  have hwidth : t.decodeAt i = (carriageReturn, 1) := Text.decodeAt_of_fst_eq (by decide) hx
  have hi : i + (t.decodeAt i).2 ≤ j := by rw [hwidth]; split at hj <;> omega
  rw [Text.decodeRange_of_width_le hi, hwidth]
  split at hj
  · next hfeed =>
    have hnext : t.decodeAt (i + 1) = (lineFeed, 1) :=
      Text.decodeAt_eq_of_decode (Text.lineFeedAt_iff.mp hfeed)
    rw [if_pos hfeed, Text.decodeRange_of_width_le (by rw [hnext]; exact hj), hnext]
    exact unify_pair _
  · next hfeed =>
    rw [if_neg hfeed]
    refine unify_return fun hhead => hfeed ?_
    exact Text.lineFeedAt_iff.mpr (Text.decode_of_head?_decodeRange (by decide) hhead)

/-- A step takes the first character of any range that reaches as far. -/
theorem unify_decodeRange_of_step? (h : c.step? t = some (char, next))
    (hj : next.offset.toNat ≤ j) :
    unify (t.decodeRange c.offset.toNat j) =
      char :: unify (t.decodeRange next.offset.toNat j) := by
  obtain ⟨i, hi, _, ⟨hx, rfl, rfl⟩ | ⟨hx, hreturn, hnext⟩⟩ := step?_cases h
  · have hwidth : t.decodeAt i = (carriageReturn, 1) := Text.decodeAt_of_fst_eq (by decide) hx
    rw [hwidth, passReturn_advance_offset hi, Int.toNat_natCast] at hj ⊢
    rw [hi, Int.toNat_natCast]
    exact unify_decodeRange_return hx hj
  · have hstop : next.offset = (i + (t.decodeAt i).2 : Nat) := by
      rw [hnext]
      exact offset_of_keep hi _ _
    rw [hstop, Int.toNat_natCast] at hj ⊢
    rw [hi, Int.toNat_natCast, Text.decodeRange_of_width_le hj, hx, unify_cons hreturn]

/-! ## Several steps -/

/-- Single steps lead from one position to another and take these characters. -/
inductive Steps (t : Text) : Position → List Char → Position → Prop
  | refl (p : Position) : Steps t p [] p
  | step {c next : Cursor} {char : Char} {cs : List Char} {q : Position}
      (first : c.step? t = some (char, next)) (rest : Steps t next.position cs q) :
      Steps t c.position (char :: cs) q

namespace Steps

variable {p q r : Position} {cs ds : List Char}

theorem single (h : c.step? t = some (char, next)) : Steps t c.position [char] next.position :=
  .step h (.refl _)

theorem trans (h : Steps t p cs q) (h' : Steps t q ds r) : Steps t p (cs ++ ds) r := by
  induction h with
  | refl => exact h'
  | step first _ ih => exact .step first (ih h')

theorem split (h : Steps t p (cs ++ ds) r) : ∃ q, Steps t p cs q ∧ Steps t q ds r := by
  generalize htaken : cs ++ ds = taken at h
  induction h generalizing cs with
  | refl p =>
    obtain ⟨rfl, rfl⟩ := List.append_eq_nil_iff.mp htaken
    exact ⟨p, .refl p, .refl p⟩
  | @step c next char taken r first rest ih =>
    cases cs with
    | nil =>
      obtain rfl : ds = char :: taken := htaken
      exact ⟨c.position, .refl _, .step first rest⟩
    | cons d cs =>
      obtain ⟨rfl, htail⟩ := List.cons_eq_cons.mp htaken
      obtain ⟨q, hfront, hback⟩ := ih htail
      exact ⟨q, .step first hfront, hback⟩

theorem offset_le (h : Steps t p cs q) : p.offset ≤ q.offset := by
  induction h with
  | refl => exact Int.le_refl _
  | step first _ ih => exact Int.le_trans (Int.le_of_lt (offset_lt_of_step? first).2.1) ih

theorem offset_lt (h : Steps t p cs q) (hcs : cs ≠ []) : p.offset < q.offset := by
  cases h with
  | refl => exact absurd rfl hcs
  | step first rest => exact Int.lt_of_lt_of_le (offset_lt_of_step? first).2.1 rest.offset_le

theorem offset_le_size (h : Steps t p cs q) (hp : p.offset ≤ t.size) : q.offset ≤ t.size := by
  induction h with
  | refl => exact hp
  | step first _ ih => exact ih (offset_lt_of_step? first).2.2

/-- Outside the text there is nothing to take. -/
theorem eq_nil (h : Steps t p cs q) (hp : p.offset < 0 ∨ (t.size : Int) ≤ p.offset) :
    cs = [] ∧ q = p := by
  cases h with
  | refl => exact ⟨rfl, rfl⟩
  | step first _ =>
    have hinside := offset_lt_of_step? first
    simp only [offset] at hinside
    omega

theorem eq_of_nil (h : Steps t p [] q) : q = p := by
  cases h
  rfl

theorem exists_step? (h : Steps t p [char] q) :
    ∃ c next : Cursor, c.step? t = some (char, next) ∧ c.position = p ∧ q = next.position := by
  cases h with
  | step first rest => exact ⟨_, _, first, rfl, rest.eq_of_nil⟩

/-- The steps take the first characters of any range that reaches as far. -/
theorem unify_decodeRange (h : Steps t p cs q) (hj : q.offset.toNat ≤ j) :
    unify (t.decodeRange p.offset.toNat j) = cs ++ unify (t.decodeRange q.offset.toNat j) := by
  induction h with
  | refl => rfl
  | step first rest ih =>
    have hnext := Int.toNat_le_toNat rest.offset_le
    rw [unify_decodeRange_of_step? first (Nat.le_trans hnext hj), ih hj, List.cons_append]

theorem unify_decodeRange_self (h : Steps t p cs q) :
    unify (t.decodeRange p.offset.toNat q.offset.toNat) = cs := by
  rw [h.unify_decodeRange (Nat.le_refl _), Text.decodeRange_of_le (Nat.le_refl _), unify_nil,
    List.append_nil]

/-- Steps to the end of input take everything that comes. -/
theorem eq_unify_of_end {i : Nat} (h : Steps t p cs q) (hp : p.offset = i)
    (hend : (t.size : Int) ≤ q.offset) : cs = unify (t.decodeRange i t.size) := by
  by_cases hi : i < t.size
  · have hstop : q.offset = t.size := Int.le_antisymm (h.offset_le_size (by omega)) hend
    rw [← h.unify_decodeRange_self, hp, hstop, Int.toNat_natCast, Int.toNat_natCast]
  · rw [(h.eq_nil (by omega)).1, Text.decodeRange_of_le (Nat.le_of_not_lt hi), unify_nil]

end Steps

/-! ## One reading -/

/-- The cursor, with what has been read so far taken as altered. -/
def alter (c : Cursor) : Cursor := { c with altered := true }

/-- A character other than a backslash is read in a single step. -/
theorem read_of_step? (h : c.step? t = some (char, next)) (hc : char ≠ '\\') :
    c.read t = (some char, next) := by
  rw [read_eq, h]
  exact if_neg fun hboth => hc hboth.1

theorem read_of_step?_eq_none (h : c.step? t = none) : c.read t = (none, c) := by
  rw [read_eq, h]

/-- Reading finds nothing, takes a character that is no backslash, takes a backslash
no line break follows, or passes an escaped break and reads on. -/
@[elab_as_elim]
theorem read_induction {motive : Cursor → Option Char × Cursor → Prop}
    (nothing : ∀ c, c.step? t = none → motive c (none, c))
    (other : ∀ c char next, c.step? t = some (char, next) → char ≠ '\\' →
      motive c (some char, next))
    (literal : ∀ c next, c.step? t = some ('\\', next) → (next.read t).1 ≠ some lineFeed →
      motive next (next.read t) → motive c (some '\\', next))
    (escape : ∀ c next ahead, c.step? t = some ('\\', next) →
      next.read t = (some lineFeed, ahead) → motive next (some lineFeed, ahead) →
      motive ahead.alter (ahead.alter.read t) → motive c (ahead.alter.read t))
    (c : Cursor) : motive c (c.read t) := by
  have hread := read_eq t c
  split at hread
  · next hs =>
    rw [hread]
    exact nothing c hs
  · next char next hs =>
    have hnext := offset_lt_of_step? hs
    by_cases hc : char = '\\'
    · subst hc
      have hahead := read_induction nothing other literal escape next
      by_cases hfeed : (next.read t).1 = some lineFeed
      · have hle := offset_le_read t next
        have hpair : next.read t = (some lineFeed, (next.read t).2) := Prod.ext hfeed rfl
        rw [if_pos ⟨rfl, hfeed⟩] at hread
        rw [hread]
        rw [hpair] at hahead
        exact escape c next _ hs hpair hahead (read_induction nothing other literal escape _)
      · rw [if_neg fun h => hfeed h.2] at hread
        rw [hread]
        exact literal c next hs hfeed hahead
    · rw [if_neg fun h => hc h.1] at hread
      rw [hread]
      exact other c char next hs hc
termination_by (t.size - c.offset).toNat
decreasing_by
  · omega
  · simp only [offset, alter] at *
    omega

/-- The last step gives the character that is read; what the steps before it took
cancels. Where nothing is read, all of it cancels and nothing is left. -/
theorem read_steps (t : Text) (c : Cursor) :
    ∃ cs, Steps t c.position (cs ++ (c.read t).1.toList) (c.read t).2.position ∧
      reduce cs = [] ∧ ((c.read t).1 = none → (c.read t).2.step? t = none) := by
  refine read_induction (motive := fun c r => ∃ cs, Steps t c.position (cs ++ r.1.toList)
    r.2.position ∧ reduce cs = [] ∧ (r.1 = none → r.2.step? t = none)) ?_ ?_ ?_ ?_ c
  · intro c hs
    exact ⟨[], .refl _, rfl, fun _ => hs⟩
  · intro c char next hs _
    exact ⟨[], .single hs, rfl, nofun⟩
  · intro c next hs _ _
    exact ⟨[], .single hs, rfl, nofun⟩
  · rintro c next ahead hs - ⟨cs, hsteps, hcs, -⟩ ⟨ds, hsteps', hds, hend⟩
    refine ⟨'\\' :: (cs ++ lineFeed :: ds), ?_, ?_, hend⟩
    · simpa using Steps.step hs (hsteps.trans hsteps')
    · rw [reduce_cons, ← reduce_reduce_append, hcs, List.nil_append, reduce_cons, hds]
      rfl

/-- Inside the text reading moves on, whether it finds a character or not. -/
theorem offset_lt_read_of_inside (h : 0 ≤ c.offset) (hlt : c.offset < t.size) :
    c.offset < (c.read t).2.offset := by
  obtain ⟨cs, hsteps, -, hend⟩ := read_steps t c
  by_cases htaken : cs ++ (c.read t).1.toList = []
  · have hnone : (c.read t).1 = none := by simpa using (List.append_eq_nil_iff.mp htaken).2
    have hout := step?_eq_none_iff.mp (hend hnone)
    rw [htaken] at hsteps
    simp only [offset, hsteps.eq_of_nil] at *
    omega
  · exact hsteps.offset_lt htaken

/-! ## The flag -/

theorem step?_alter (t : Text) (c : Cursor) :
    c.alter.step? t = (c.step? t).map fun r => (r.1, r.2.alter) := by
  simp only [step?, alter, offset]
  cases t.index? c.position.offset with
  | none => rfl
  | some i =>
    dsimp only
    split
    · rfl
    · split <;> rfl

/-- The flag takes no part in reading, and reading never clears it. -/
theorem read_alter (t : Text) (c : Cursor) :
    c.alter.read t = ((c.read t).1, (c.read t).2.alter) := by
  refine read_induction (motive := fun c r => c.alter.read t = (r.1, r.2.alter)) ?_ ?_ ?_ ?_ c
  · intro c hs
    exact read_of_step?_eq_none (by rw [step?_alter, hs]; rfl)
  · intro c char next hs hc
    exact read_of_step? (by rw [step?_alter, hs]; rfl) hc
  · intro c next hs hfeed ih
    rw [read_eq, step?_alter, hs]
    exact if_neg fun h => hfeed (by rw [← h.2, ih])
  · intro c next ahead hs _ ih ih'
    rw [read_eq, step?_alter, hs]
    dsimp only [Option.map_some]
    rw [ih, if_pos ⟨rfl, rfl⟩]
    exact ih'

theorem alter_congr {d : Cursor} (h : c.position = d.position) : c.alter = d.alter := by
  rw [alter, alter, h]

theorem step?_congr {d : Cursor} (h : c.position = d.position) :
    (c.step? t).map (fun r => (r.1, r.2.position)) =
      (d.step? t).map (fun r => (r.1, r.2.position)) := by
  have hstep := congrArg (Option.map fun r : Char × Cursor => (r.1, r.2.position))
    (step?_alter t c)
  rw [alter_congr h, step?_alter, Option.map_map, Option.map_map] at hstep
  exact hstep.symm

theorem read_congr {d : Cursor} (h : c.position = d.position) :
    (c.read t).1 = (d.read t).1 ∧ (c.read t).2.position = (d.read t).2.position := by
  have hread := read_alter t c
  rw [alter_congr h, read_alter] at hread
  obtain ⟨hchar, hnext⟩ := Prod.ext_iff.mp hread
  exact ⟨hchar.symm, congrArg (·.position) hnext.symm⟩

/-! ## After a backslash -/

/-- A backslash is read only where no line break is read next. -/
theorem read_ne_lineFeed_of_backslash (h : (c.read t).1 = some '\\') :
    ((c.read t).2.read t).1 ≠ some lineFeed := by
  revert h
  refine read_induction (motive := fun _ r => r.1 = some '\\' →
    (r.2.read t).1 ≠ some lineFeed) ?_ ?_ ?_ ?_ c
  · exact fun c _ => nofun
  · exact fun c char next _ hc h => absurd (Option.some.inj h) hc
  · exact fun c next _ hfeed _ _ => hfeed
  · exact fun c next ahead _ _ _ ih => ih

/-- If the characters taken so far end in a backslash, no line break is read next. -/
def Settled (t : Text) (cs : List Char) (q : Position) : Prop :=
  cs.getLast? = some '\\' → ∀ c : Cursor, c.position = q → (c.read t).1 ≠ some lineFeed

theorem settled_read (t : Text) (c : Cursor) (cs : List Char) :
    Settled t (cs ++ (c.read t).1.toList) (c.read t).2.position := by
  intro hback d hd
  rw [(read_congr hd).1]
  cases hr : (c.read t).1 with
  | none =>
    obtain ⟨_, _, _, hend⟩ := read_steps t c
    rw [read_of_step?_eq_none (hend hr)]
    exact nofun
  | some char =>
    refine read_ne_lineFeed_of_backslash ?_
    rw [hr] at hback ⊢
    simpa using hback

variable {p q r : Position} {cs ds : List Char}

/-- No escaped break lies across a settled position. -/
theorem Settled.dropEscaped_append (h : Settled t cs q) (hsteps : Steps t q ds r) :
    dropEscaped (cs ++ ds) = dropEscaped cs ++ dropEscaped ds := by
  refine LineBreaks.dropEscaped_append fun ⟨hback, hfeed⟩ => ?_
  cases hsteps with
  | refl => exact nomatch hfeed
  | step first rest =>
    obtain rfl := Option.some.inj hfeed
    exact h hback _ rfl (by rw [read_of_step? first (by decide)])

end TextScan.Cursor
