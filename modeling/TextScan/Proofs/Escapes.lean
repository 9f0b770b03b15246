import Mathlib.Logic.Relation
import TextScan.LineBreaks

/-! Taking out escaped breaks. Where one is taken out, a backslash before it and
a line feed behind it can meet and make another. `reduce` takes those out too;
`dropEscaped` takes out only those of the text as it stands. In any order the
removals end in the same text (`reduce_reduce_append`), which is what a stack
machine computes from the left (`runStack_nil`). In front of the first character
that is kept there is only one part that cancels (`eq_of_kept`). -/

namespace TextScan.LineBreaks

/-! ## Neighbours -/

/-- Nowhere does `a` stand directly before `b`. -/
def Avoids (a b : Char) (cs : List Char) : Prop := ¬ [a, b] <:+: cs

instance (a b : Char) (cs : List Char) : Decidable (Avoids a b cs) :=
  inferInstanceAs (Decidable (¬ [a, b] <:+: cs))

/-- No escaped break: no backslash directly before a line feed. -/
abbrev EscapeFree (cs : List Char) : Prop := Avoids '\\' '\n' cs

variable {a b c : Char} {cs ds : List Char}

theorem avoids_nil : Avoids a b [] := by simp [Avoids]

theorem avoids_cons : Avoids a b (c :: cs) ↔ ¬ (c = a ∧ cs.head? = some b) ∧ Avoids a b cs := by
  simp only [Avoids, List.infix_cons_iff, List.cons_prefix_cons,
    List.singleton_prefix_iff_head?_eq_some, not_or, eq_comm]

theorem avoids_append : Avoids a b (cs ++ ds) ↔
    Avoids a b cs ∧ Avoids a b ds ∧ ¬ (cs.getLast? = some a ∧ ds.head? = some b) := by
  induction cs with
  | nil => simp [avoids_nil]
  | cons c cs ih =>
    rw [List.cons_append, avoids_cons, ih, avoids_cons]
    cases cs with
    | nil => simp [avoids_nil, and_comm]
    | cons d cs => simp [and_assoc]

theorem avoids_of_notMem (h : b ∉ cs) : Avoids a b cs :=
  fun hpair => h (hpair.subset (by simp))

theorem Avoids.left (h : Avoids a b (cs ++ ds)) : Avoids a b cs := (avoids_append.mp h).1

theorem Avoids.right (h : Avoids a b (cs ++ ds)) : Avoids a b ds := (avoids_append.mp h).2.1

/-! ## The reduced text -/

/-- `c` in front of `cs`, where a backslash and a line feed cancel. -/
def cancel (c : Char) (cs : List Char) : List Char :=
  if c = '\\' ∧ cs.head? = some '\n' then cs.tail else c :: cs

/-- A text without its escaped breaks, those included that appear only where others
have been taken out. -/
def reduce (cs : List Char) : List Char := cs.foldr cancel []

@[simp] theorem cancel_escape (cs : List Char) : cancel '\\' ('\n' :: cs) = cs := by simp [cancel]

theorem cancel_of_not (h : ¬ (c = '\\' ∧ cs.head? = some '\n')) : cancel c cs = c :: cs :=
  if_neg h

@[simp] theorem cancel_feed (cs : List Char) : cancel '\n' cs = '\n' :: cs :=
  cancel_of_not (by simp)

@[simp] theorem reduce_nil : reduce [] = [] := rfl

@[simp] theorem reduce_cons (c : Char) (cs : List Char) :
    reduce (c :: cs) = cancel c (reduce cs) := rfl

@[simp] theorem reduce_singleton (c : Char) : reduce [c] = [c] := by
  simp [cancel]

theorem escapeFree_reduce (cs : List Char) : EscapeFree (reduce cs) := by
  induction cs with
  | nil => exact avoids_nil
  | cons c cs ih =>
    rw [reduce_cons, cancel]
    split
    · cases hr : reduce cs with
      | nil => exact avoids_nil
      | cons d ds => rw [hr] at ih; exact (avoids_cons.mp ih).2
    · next hc => exact avoids_cons.mpr ⟨hc, ih⟩

theorem reduce_eq_self (h : EscapeFree cs) : reduce cs = cs := by
  induction cs with
  | nil => rfl
  | cons c cs ih =>
    obtain ⟨hc, htail⟩ := avoids_cons.mp h
    rw [reduce_cons, ih htail, cancel_of_not hc]

/-- Somewhere from a backslash to the line feed that it cancels with, another backslash or
this one stands directly before a line feed. -/
theorem not_escapeFree_of_reduce_eq_nil (h : reduce cs = []) :
    ¬ EscapeFree ('\\' :: (cs ++ '\n' :: ds)) := by
  intro hfree
  obtain ⟨hmeet, hrest⟩ := avoids_cons.mp hfree
  rw [reduce_eq_self hrest.left] at h
  subst h
  exact hmeet ⟨rfl, rfl⟩

theorem reduce_subset (cs : List Char) : reduce cs ⊆ cs := by
  induction cs with
  | nil => exact List.Subset.refl []
  | cons c cs ih =>
    rw [reduce_cons, cancel]
    split
    · exact fun d hd => List.mem_cons_of_mem c (ih (List.mem_of_mem_tail hd))
    · exact List.cons_subset_cons c ih

/-- It does not matter whether a front part is reduced first. -/
theorem reduce_reduce_append (cs ds : List Char) : reduce (reduce cs ++ ds) = reduce (cs ++ ds) := by
  induction cs with
  | nil => rfl
  | cons c cs ih =>
    rw [List.cons_append, reduce_cons, reduce_cons, ← ih]
    by_cases hc : c = '\\' ∧ (reduce cs).head? = some '\n'
    · obtain ⟨rfl, hhead⟩ := hc
      obtain ⟨rest, hrest⟩ := List.head?_eq_some_iff.mp hhead
      simp [hrest]
    · rw [cancel_of_not hc, List.cons_append, reduce_cons]

theorem reduce_append_reduce (cs ds : List Char) : reduce (cs ++ reduce ds) = reduce (cs ++ ds) := by
  simp only [reduce, List.foldr_append]
  exact congrArg (List.foldr cancel · cs) (reduce_eq_self (escapeFree_reduce ds))

/-- Taking out one escaped break changes nothing of the reduced text. -/
theorem reduce_escape (cs ds : List Char) :
    reduce (cs ++ '\\' :: '\n' :: ds) = reduce (cs ++ ds) := by
  rw [← reduce_append_reduce]
  simp [reduce_append_reduce]

/-- `ds` is `cs` without one of its escaped breaks. -/
def TakesOut (cs ds : List Char) : Prop :=
  ∃ front back, cs = front ++ '\\' :: '\n' :: back ∧ ds = front ++ back

theorem TakesOut.cons (h : TakesOut cs ds) : TakesOut (c :: cs) (c :: ds) := by
  obtain ⟨front, back, rfl, rfl⟩ := h
  exact ⟨c :: front, back, rfl, rfl⟩

/-- The reduced text comes about by taking out escaped breaks and nothing else. -/
theorem takesOut_reduce (cs : List Char) : Relation.ReflTransGen TakesOut cs (reduce cs) := by
  induction cs with
  | nil => exact .refl
  | cons c cs ih =>
    have hcons : Relation.ReflTransGen TakesOut (c :: cs) (c :: reduce cs) :=
      ih.lift (c :: ·) fun _ _ h => h.cons
    by_cases hc : c = '\\' ∧ (reduce cs).head? = some '\n'
    · obtain ⟨rfl, hhead⟩ := hc
      obtain ⟨rest, hrest⟩ := List.head?_eq_some_iff.mp hhead
      rw [hrest] at hcons
      rw [reduce_cons, hrest, cancel_escape]
      exact hcons.tail ⟨[], rest, rfl, rfl⟩
    · rwa [reduce_cons, cancel_of_not hc]

/-! ## The first character that is kept -/

variable {d : Char} {rest rest' : List Char}

/-- `c` in front of `rest` is not taken out of it. -/
def Kept (c : Char) (rest : List Char) : Prop := ¬ (c = '\\' ∧ (reduce rest).head? = some '\n')

theorem Kept.reduce_cons (h : Kept c rest) : reduce (c :: rest) = c :: reduce rest :=
  cancel_of_not h

/-- What is kept in front of a text is kept in front of its beginning alone. -/
theorem Kept.left (h : Kept c (cs ++ ds)) : Kept c cs := by
  rintro ⟨hback, hfeed⟩
  obtain ⟨rest, hrest⟩ := List.head?_eq_some_iff.mp hfeed
  refine h ⟨hback, ?_⟩
  rw [← reduce_reduce_append, hrest, List.cons_append, LineBreaks.reduce_cons, cancel_feed]
  rfl

/-- No character that is kept stands in a text that cancels. -/
theorem reduce_ne_nil_of_kept (hcs : reduce cs = []) (h : Kept c (ds ++ rest)) :
    reduce (cs ++ c :: ds) ≠ [] := by
  rw [← reduce_reduce_append, hcs, List.nil_append, h.left.reduce_cons]
  exact List.cons_ne_nil _ _

theorem eq_of_kept (heq : cs ++ c :: rest = ds ++ d :: rest') (hcs : reduce cs = [])
    (hds : reduce ds = []) (hc : Kept c rest) (hd : Kept d rest') :
    cs = ds ∧ c = d ∧ rest = rest' := by
  -- if one part were longer, it would hold the character kept behind the other
  rcases List.append_eq_append_iff.mp heq with ⟨mid, hmid, hrest⟩ | ⟨mid, hmid, hrest⟩
  · cases mid with
    | nil => simp_all
    | cons x mid =>
      obtain ⟨rfl, rfl⟩ := List.cons_eq_cons.mp hrest
      exact absurd (hmid ▸ hds) (reduce_ne_nil_of_kept hcs hc)
  · cases mid with
    | nil => simp_all
    | cons x mid =>
      obtain ⟨rfl, rfl⟩ := List.cons_eq_cons.mp hrest
      exact absurd (hmid ▸ hcs) (reduce_ne_nil_of_kept hds hd)

/-- A character of the reduced text stands in the text, between the parts that the
characters before it and behind it come from. -/
theorem exists_of_reduce_eq {front back : List Char} (h : reduce cs = front ++ d :: back) :
    ∃ pre post, cs = pre ++ d :: post ∧ reduce pre = front ∧ reduce post = back := by
  induction cs generalizing front with
  | nil => simp at h
  | cons c cs ih =>
    by_cases hc : c = '\\' ∧ (reduce cs).head? = some '\n'
    · obtain ⟨rfl, hhead⟩ := hc
      obtain ⟨tail, htail⟩ := List.head?_eq_some_iff.mp hhead
      rw [reduce_cons, htail, cancel_escape] at h
      obtain ⟨pre, post, rfl, hpre, hpost⟩ := @ih ('\n' :: front) (by rw [htail, h]; rfl)
      exact ⟨'\\' :: pre, post, rfl, by rw [reduce_cons, hpre, cancel_escape], hpost⟩
    · rw [reduce_cons, cancel_of_not hc] at h
      cases front with
      | nil =>
        obtain ⟨rfl, hback⟩ := List.cons_eq_cons.mp h
        exact ⟨[], cs, rfl, rfl, hback⟩
      | cons x front =>
        obtain ⟨rfl, hrest⟩ := List.cons_eq_cons.mp h
        obtain ⟨pre, post, rfl, hpre, hpost⟩ := ih hrest
        refine ⟨c :: pre, post, rfl, ?_, hpost⟩
        rw [reduce_cons, hpre, cancel_of_not]
        rintro ⟨hback, hfeed⟩
        refine hc ⟨hback, ?_⟩
        obtain ⟨tail, rfl⟩ := List.head?_eq_some_iff.mp hfeed
        rw [hrest]
        rfl

/-! ## Pairs -/

/-- Backslashes and line feeds in pairs, one behind the other, each around pairs of
its own. -/
inductive Paired : List Char → Prop
  | nil : Paired []
  | pair {cs ds : List Char} (inner : Paired cs) (behind : Paired ds) :
      Paired ('\\' :: (cs ++ '\n' :: ds))

theorem Paired.reduce_eq_nil (h : Paired cs) : reduce cs = [] := by
  induction h with
  | nil => rfl
  | @pair cs ds _ _ ihInner ihBehind =>
    have hfeed : reduce (cs ++ '\n' :: ds) = ['\n'] := by
      rw [← reduce_reduce_append, ihInner, List.nil_append, reduce_cons, ihBehind, cancel_feed]
    rw [reduce_cons, hfeed, cancel_escape]

theorem paired_of_reduce_eq_nil {cs : List Char} (h : reduce cs = []) : Paired cs := by
  cases cs with
  | nil => exact .nil
  | cons c cs =>
    by_cases hc : c = '\\' ∧ (reduce cs).head? = some '\n'
    · obtain ⟨rfl, hhead⟩ := hc
      obtain ⟨tail, htail⟩ := List.head?_eq_some_iff.mp hhead
      rw [reduce_cons, htail, cancel_escape] at h
      subst h
      obtain ⟨pre, post, rfl, hpre, hpost⟩ := exists_of_reduce_eq (show reduce cs = [] ++ '\n' :: [] from htail)
      exact .pair (paired_of_reduce_eq_nil hpre) (paired_of_reduce_eq_nil hpost)
    · rw [reduce_cons, cancel_of_not hc] at h
      exact absurd h (List.cons_ne_nil _ _)
termination_by cs.length
decreasing_by
  all_goals
    subst_vars
    simp only [List.length_cons, List.length_append]
    omega

/-- The texts of which nothing is left are the pairs. -/
theorem reduce_eq_nil_iff : reduce cs = [] ↔ Paired cs :=
  ⟨paired_of_reduce_eq_nil, Paired.reduce_eq_nil⟩

/-! ## Ends that cancel -/

/-- There is a line feed at the end, and what is left of the text before it ends with a
backslash, so that the two cancel. -/
def EndsEscaped (cs : List Char) : Prop :=
  cs.getLast? = some '\n' ∧ (reduce cs.dropLast).getLast? = some '\\'

instance (cs : List Char) : Decidable (EndsEscaped cs) :=
  inferInstanceAs (Decidable (_ ∧ _))

/-- Behind a reduced text only a line feed can cancel something. -/
theorem reduce_concat (h : ¬ ((reduce cs).getLast? = some '\\' ∧ c = '\n')) :
    reduce (cs ++ [c]) = reduce cs ++ [c] := by
  rw [← reduce_reduce_append]
  refine reduce_eq_self (avoids_append.mpr ⟨escapeFree_reduce cs, ?_, ?_⟩)
  · exact avoids_cons.mpr ⟨by simp, avoids_nil⟩
  · simpa using h

theorem EndsEscaped.exists_suffix (h : EndsEscaped cs) :
    ∃ ds, ds <:+ cs ∧ ds ≠ [] ∧ reduce ds = [] := by
  obtain ⟨hfeed, hback⟩ := h
  obtain ⟨front, rfl⟩ := List.getLast?_eq_some_iff.mp hfeed
  rw [List.dropLast_concat] at hback
  obtain ⟨kept, hkept⟩ := List.getLast?_eq_some_iff.mp hback
  obtain ⟨pre, post, rfl, -, hpost⟩ := exists_of_reduce_eq hkept
  refine ⟨'\\' :: (post ++ ['\n']), ⟨pre, by simp⟩, List.cons_ne_nil _ _, ?_⟩
  rw [reduce_cons, ← reduce_reduce_append, hpost, List.nil_append, reduce_singleton, cancel_escape]

theorem endsEscaped_of_suffix (h : ds <:+ cs) (hne : ds ≠ []) (hds : reduce ds = []) :
    EndsEscaped cs := by
  obtain ⟨pre, rfl⟩ := h
  obtain ⟨mid, d, rfl⟩ : ∃ mid d, ds = mid ++ [d] :=
    ⟨_, _, (List.dropLast_concat_getLast hne).symm⟩
  by_cases hmeet : (reduce mid).getLast? = some '\\' ∧ d = '\n'
  · obtain ⟨hback, rfl⟩ := hmeet
    obtain ⟨front, hfront⟩ := List.getLast?_eq_some_iff.mp hback
    have hreduce : reduce (pre ++ mid) = reduce (pre ++ front) ++ ['\\'] := by
      rw [← reduce_append_reduce, hfront, ← List.append_assoc]
      exact reduce_concat (by simp)
    rw [← List.append_assoc]
    exact ⟨by simp, by simp [hreduce]⟩
  · rw [reduce_concat hmeet] at hds
    exact absurd hds (by simp)

/-- Something at the end cancels as a whole just if the last line feed does. -/
theorem endsEscaped_iff : EndsEscaped cs ↔ ∃ ds, ds <:+ cs ∧ ds ≠ [] ∧ reduce ds = [] :=
  ⟨EndsEscaped.exists_suffix, fun ⟨_, hsuffix, hne, hds⟩ => endsEscaped_of_suffix hsuffix hne hds⟩

/-! ## The stack machine -/

/-- Reads from the left with the text so far on a stack, its last character on
top. A line feed takes a backslash off the stack and is dropped with it;
everything else goes onto the stack. -/
def runStack (stack : List Char) : List Char → List Char
  | [] => stack.reverse
  | c :: cs =>
    if c = '\n' ∧ stack.head? = some '\\' then runStack stack.tail cs
    else runStack (c :: stack) cs

/-- What is on the stack and what is still to be read keep their reduced text. -/
theorem runStack_eq {stack : List Char} (h : EscapeFree stack.reverse) (cs : List Char) :
    runStack stack cs = reduce (stack.reverse ++ cs) := by
  induction cs generalizing stack with
  | nil => rw [runStack, List.append_nil, reduce_eq_self h]
  | cons c cs ih =>
    rw [runStack]
    split
    · next hc =>
      obtain ⟨rfl, htop⟩ := hc
      obtain ⟨rest, rfl⟩ := List.head?_eq_some_iff.mp htop
      rw [List.reverse_cons] at h ⊢
      rw [List.tail_cons, ih h.left, List.append_assoc]
      exact (reduce_escape rest.reverse cs).symm
    · next hc =>
      have hpush : EscapeFree (c :: stack).reverse := by
        rw [List.reverse_cons]
        refine avoids_append.mpr ⟨h, by simp [avoids_cons, avoids_nil], ?_⟩
        rw [List.getLast?_reverse]
        exact fun hmeet => hc ⟨by simpa using hmeet.2, hmeet.1⟩
      rw [ih hpush, List.reverse_cons, List.append_assoc, List.singleton_append]

theorem runStack_nil (cs : List Char) : runStack [] cs = reduce cs := runStack_eq avoids_nil cs

end TextScan.LineBreaks
