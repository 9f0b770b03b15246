import Mathlib.Logic.Function.Iterate
import TextScan.Proofs.Escapes

/-! Normalizing line breaks, pass by pass. `unify` makes one line feed of every
break and `dropEscaped` takes out the escaped ones among them; a text that is
plain keeps as it is, so that looking first changes nothing (`normalize_eq`). One
application is a step towards the reduced text, and finitely many arrive there
(`exists_iterate_normalize`). -/

namespace TextScan.LineBreaks

variable {a b c : Char} {cs ds : List Char}

/-! ## One line feed for each break -/

/-- Every line break as one line feed. -/
def unify (cs : List Char) : List Char := returnsToFeeds (joinPairs cs)

@[simp] theorem unify_nil : unify [] = [] := rfl

@[simp] theorem unify_pair (cs : List Char) : unify ('\r' :: '\n' :: cs) = '\n' :: unify cs := rfl

theorem unify_return (h : cs.head? ≠ some '\n') : unify ('\r' :: cs) = '\n' :: unify cs := by
  cases cs with
  | nil => rfl
  | cons d ds =>
    have hd : d ≠ '\n' := by simpa using h
    simp [unify, joinPairs, returnsToFeeds, hd]

theorem unify_cons (h : c ≠ '\r') : unify (c :: cs) = c :: unify cs := by
  simp [unify, joinPairs, returnsToFeeds, h]

/-- A text is empty, begins with a line break that is not just a line feed, or
begins with a character that stays as it is. -/
@[elab_as_elim]
theorem break_induction {motive : List Char → Prop} (nil : motive [])
    (pair : ∀ cs, motive cs → motive ('\r' :: '\n' :: cs))
    (ret : ∀ cs, cs.head? ≠ some '\n' → motive cs → motive ('\r' :: cs))
    (keep : ∀ c cs, c ≠ '\r' → motive cs → motive (c :: cs))
    (cs : List Char) : motive cs := by
  induction cs using joinPairs.induct with
  | case1 cs ih => exact pair cs ih
  | case2 c cs h ih =>
    by_cases hc : c = '\r'
    · subst hc
      refine ret cs (fun hhead => ?_) ih
      obtain ⟨rest, rfl⟩ := List.head?_eq_some_iff.mp hhead
      exact h rest rfl rfl
    · exact keep c cs hc ih
  | case3 => exact nil

theorem return_notMem_unify (cs : List Char) : '\r' ∉ unify cs := by
  simp only [unify, returnsToFeeds, List.mem_map, not_exists, not_and]
  intro c _
  split
  · decide
  · assumption

theorem unify_eq_self (h : '\r' ∉ cs) : unify cs = cs := by
  induction cs with
  | nil => rfl
  | cons c cs ih =>
    have hc : c ≠ '\r' := fun he => h (he ▸ List.mem_cons_self)
    rw [unify_cons hc, ih fun hmem => h (List.mem_cons_of_mem c hmem)]

/-- A cut between a carriage return and its line feed only leaves one break more. -/
theorem unify_suffix_append (cs ds : List Char) : unify ds <:+ unify (cs ++ ds) := by
  induction cs using break_induction with
  | nil => exact List.suffix_refl _
  | pair cs ih => exact ih.trans (List.suffix_cons _ _)
  | ret cs h ih =>
    by_cases hmeet : (cs ++ ds).head? = some '\n'
    · cases cs with
      | nil =>
        obtain ⟨rest, rfl⟩ := List.head?_eq_some_iff.mp hmeet
        rw [unify_cons (by decide)]
        exact List.suffix_refl _
      | cons c cs => exact absurd hmeet h
    · rw [List.cons_append, unify_return hmeet]
      exact ih.trans (List.suffix_cons _ _)
  | keep c cs h ih =>
    rw [List.cons_append, unify_cons h]
    exact ih.trans (List.suffix_cons _ _)

/-! ## One pass over the escaped breaks -/

@[simp] theorem dropEscaped_nil : dropEscaped [] = [] := rfl

@[simp] theorem dropEscaped_escape (cs : List Char) :
    dropEscaped ('\\' :: '\n' :: cs) = dropEscaped cs := rfl

theorem dropEscaped_cons (h : ¬ (c = '\\' ∧ cs.head? = some '\n')) :
    dropEscaped (c :: cs) = c :: dropEscaped cs := by
  rw [dropEscaped]
  rintro rest rfl rfl
  exact h ⟨rfl, rfl⟩

/-- A text is empty, begins with an escaped break, or begins with a character that
is not half of one. -/
@[elab_as_elim]
theorem escape_induction {motive : List Char → Prop} (nil : motive [])
    (escape : ∀ cs, motive cs → motive ('\\' :: '\n' :: cs))
    (keep : ∀ c cs, ¬ (c = '\\' ∧ cs.head? = some '\n') → motive cs → motive (c :: cs))
    (cs : List Char) : motive cs := by
  induction cs using dropEscaped.induct with
  | case1 cs ih => exact escape cs ih
  | case2 c cs h ih =>
    refine keep c cs ?_ ih
    rintro ⟨rfl, hhead⟩
    obtain ⟨rest, rfl⟩ := List.head?_eq_some_iff.mp hhead
    exact h rest rfl rfl
  | case3 => exact nil

theorem reduce_dropEscaped (cs : List Char) : reduce (dropEscaped cs) = reduce cs := by
  induction cs using escape_induction with
  | nil => rfl
  | escape cs ih => simp [ih]
  | keep c cs h ih => rw [dropEscaped_cons h, reduce_cons, ih, reduce_cons]

theorem dropEscaped_eq_self (h : EscapeFree cs) : dropEscaped cs = cs := by
  induction cs with
  | nil => rfl
  | cons c cs ih =>
    obtain ⟨hc, hcs⟩ := avoids_cons.mp h
    rw [dropEscaped_cons hc, ih hcs]

theorem length_dropEscaped_le (cs : List Char) : (dropEscaped cs).length ≤ cs.length := by
  induction cs using escape_induction with
  | nil => exact Nat.le_refl 0
  | escape cs ih => simp only [dropEscaped_escape, List.length_cons]; omega
  | keep c cs h ih => simpa [dropEscaped_cons h] using ih

theorem length_dropEscaped_lt (h : ¬ EscapeFree cs) : (dropEscaped cs).length < cs.length := by
  induction cs using escape_induction with
  | nil => exact absurd avoids_nil h
  | escape cs ih =>
    have := length_dropEscaped_le cs
    simp only [dropEscaped_escape, List.length_cons]
    omega
  | keep c cs hc ih =>
    rw [dropEscaped_cons hc]
    simpa using ih fun hcs => h (avoids_cons.mpr ⟨hc, hcs⟩)

theorem dropEscaped_subset (cs : List Char) : dropEscaped cs ⊆ cs := by
  induction cs using escape_induction with
  | nil => exact List.Subset.refl []
  | escape cs ih =>
    exact fun c hc => List.mem_cons_of_mem _ (List.mem_cons_of_mem _ (ih hc))
  | keep c cs h ih => rw [dropEscaped_cons h]; exact List.cons_subset_cons c ih

/-- Two pieces are done one by one if no escaped break lies across the cut. -/
theorem dropEscaped_append (h : ¬ (cs.getLast? = some '\\' ∧ ds.head? = some '\n')) :
    dropEscaped (cs ++ ds) = dropEscaped cs ++ dropEscaped ds := by
  induction cs using escape_induction with
  | nil => rfl
  | escape cs ih =>
    refine ih ?_
    cases cs with
    | nil => simp
    | cons c cs => simpa using h
  | keep c cs hc ih =>
    cases cs with
    | nil =>
      rw [List.singleton_append, dropEscaped_cons (by simpa using h), dropEscaped_cons hc]
      rfl
    | cons d cs =>
      rw [List.cons_append, dropEscaped_cons (by simpa using hc), dropEscaped_cons hc,
        ih (by simpa using h), List.cons_append]

/-! ## Plain texts -/

theorem isPlain_cons : isPlain (c :: cs) = true ↔
    c ≠ '\r' ∧ ¬ (c = '\\' ∧ cs.head? = some '\n') ∧ isPlain cs = true := by
  by_cases hreturn : c = '\r'
  · subst hreturn
    simp [isPlain]
  · by_cases hescape : c = '\\' ∧ cs.head? = some '\n'
    · obtain ⟨rfl, hhead⟩ := hescape
      obtain ⟨rest, rfl⟩ := List.head?_eq_some_iff.mp hhead
      simp [isPlain]
    · rw [isPlain.eq_3 c cs hreturn fun rest hc hcs => hescape ⟨hc, by rw [hcs]; rfl⟩]
      exact ⟨fun h => ⟨hreturn, hescape, h⟩, fun h => h.2.2⟩

theorem isPlain_iff : isPlain cs = true ↔ '\r' ∉ cs ∧ EscapeFree cs := by
  induction cs with
  | nil => simp [isPlain, avoids_nil]
  | cons c cs ih =>
    rw [isPlain_cons, ih, List.mem_cons, not_or]
    constructor
    · rintro ⟨hc, hpair, hmem, hcs⟩
      exact ⟨⟨Ne.symm hc, hmem⟩, avoids_cons.mpr ⟨hpair, hcs⟩⟩
    · rintro ⟨⟨hc, hmem⟩, hescape⟩
      exact ⟨Ne.symm hc, (avoids_cons.mp hescape).1, hmem, (avoids_cons.mp hescape).2⟩

theorem isPlain_left (h : isPlain (cs ++ ds) = true) : isPlain cs = true := by
  obtain ⟨hreturn, hescape⟩ := isPlain_iff.mp h
  exact isPlain_iff.mpr ⟨fun hmem => hreturn (List.mem_append_left ds hmem), hescape.left⟩

theorem isPlain_right (h : isPlain (cs ++ ds) = true) : isPlain ds = true := by
  obtain ⟨hreturn, hescape⟩ := isPlain_iff.mp h
  exact isPlain_iff.mpr ⟨fun hmem => hreturn (List.mem_append_right cs hmem), hescape.right⟩

theorem escapeFree_unify (h : isPlain cs = true) : EscapeFree (unify cs) := by
  obtain ⟨hreturn, hescape⟩ := isPlain_iff.mp h
  rwa [unify_eq_self hreturn]

/-- Looking first whether anything has to change changes nothing. -/
theorem normalize_eq (cs : List Char) : normalize cs = dropEscaped (unify cs) := by
  rw [normalize]
  split
  · next h =>
    obtain ⟨hreturn, hescape⟩ := isPlain_iff.mp h
    rw [unify_eq_self hreturn, dropEscaped_eq_self hescape]
  · rfl

theorem return_notMem_normalize (cs : List Char) : '\r' ∉ normalize cs := by
  rw [normalize_eq]
  exact fun h => return_notMem_unify cs (dropEscaped_subset _ h)

theorem normalize_eq_dropEscaped (h : '\r' ∉ cs) : normalize cs = dropEscaped cs := by
  rw [normalize_eq, unify_eq_self h]

theorem normalize_eq_self (hreturn : '\r' ∉ cs) (hescape : EscapeFree cs) :
    normalize cs = cs := by
  rw [normalize_eq_dropEscaped hreturn, dropEscaped_eq_self hescape]

/-- Nothing changes exactly where nothing has to. -/
theorem normalize_eq_self_iff : normalize cs = cs ↔ isPlain cs = true := by
  constructor
  · intro h
    have hreturn : '\r' ∉ cs := h ▸ return_notMem_normalize cs
    refine isPlain_iff.mpr ⟨hreturn, ?_⟩
    by_contra hescape
    have hlt := length_dropEscaped_lt hescape
    rw [← normalize_eq_dropEscaped hreturn, h] at hlt
    exact Nat.lt_irrefl _ hlt
  · intro h
    exact if_pos h

/-! ## The limit of repeated normalization -/

theorem reduce_normalize (cs : List Char) : reduce (normalize cs) = reduce (unify cs) := by
  rw [normalize_eq, reduce_dropEscaped]

theorem normalize_eq_reduce_iff :
    normalize cs = reduce (unify cs) ↔ EscapeFree (normalize cs) := by
  rw [← reduce_normalize]
  exact ⟨fun h => h ▸ escapeFree_reduce _, fun h => (reduce_eq_self h).symm⟩

theorem normalize_reduce_unify (cs : List Char) :
    normalize (reduce (unify cs)) = reduce (unify cs) :=
  normalize_eq_self (fun h => return_notMem_unify cs (reduce_subset _ h)) (escapeFree_reduce _)

/-- A text that still has escaped breaks gets shorter each time. -/
theorem exists_iterate_of_notMem {cs : List Char} (h : '\r' ∉ cs) :
    ∃ n, normalize^[n] cs = reduce cs := by
  by_cases hescape : EscapeFree cs
  · exact ⟨0, (reduce_eq_self hescape).symm⟩
  · have hlt : (normalize cs).length < cs.length := by
      rw [normalize_eq_dropEscaped h]
      exact length_dropEscaped_lt hescape
    obtain ⟨n, hn⟩ := exists_iterate_of_notMem (return_notMem_normalize cs)
    refine ⟨n + 1, ?_⟩
    rw [Function.iterate_succ_apply, hn, reduce_normalize, unify_eq_self h]
termination_by cs.length

theorem exists_iterate_normalize (cs : List Char) : ∃ n, normalize^[n] cs = reduce (unify cs) := by
  obtain ⟨n, hn⟩ := exists_iterate_of_notMem (return_notMem_normalize cs)
  exact ⟨n + 1, by rw [Function.iterate_succ_apply, hn, reduce_normalize]⟩

/-! ## Texts without doubled backslashes -/

theorem head?_unify_eq_backslash_iff :
    (unify cs).head? = some '\\' ↔ cs.head? = some '\\' := by
  induction cs using break_induction with
  | nil => exact Iff.rfl
  | pair cs ih => simp
  | ret cs h ih => simp [unify_return h]
  | keep c cs h ih => simp [unify_cons h]

theorem avoids_unify (h : Avoids '\\' '\\' cs) : Avoids '\\' '\\' (unify cs) := by
  induction cs using break_induction with
  | nil => exact avoids_nil
  | pair cs ih =>
    rw [unify_pair]
    exact avoids_cons.mpr ⟨by simp, ih (avoids_cons.mp (avoids_cons.mp h).2).2⟩
  | ret cs hn ih =>
    rw [unify_return hn]
    exact avoids_cons.mpr ⟨by simp, ih (avoids_cons.mp h).2⟩
  | keep c cs hc ih =>
    obtain ⟨hpair, hcs⟩ := avoids_cons.mp h
    rw [unify_cons hc]
    exact avoids_cons.mpr ⟨by rwa [head?_unify_eq_backslash_iff], ih hcs⟩

/-- A new escaped break takes a backslash before one that is taken out. -/
theorem escapeFree_dropEscaped (h : Avoids '\\' '\\' cs) : EscapeFree (dropEscaped cs) := by
  induction cs using escape_induction with
  | nil => exact avoids_nil
  | escape cs ih => exact ih (avoids_cons.mp (avoids_cons.mp h).2).2
  | keep c cs hc ih =>
    obtain ⟨hpair, hcs⟩ := avoids_cons.mp h
    rw [dropEscaped_cons hc]
    refine avoids_cons.mpr ⟨?_, ih hcs⟩
    rintro ⟨rfl, hfeed⟩
    cases cs with
    | nil => simp at hfeed
    | cons d ds =>
      -- `d` is no backslash, so it is kept and comes first
      have hd : ¬ (d = '\\' ∧ ds.head? = some '\n') := fun hd => hpair ⟨rfl, by simp [hd.1]⟩
      rw [dropEscaped_cons hd] at hfeed
      exact hc ⟨rfl, by simpa using hfeed⟩

theorem escapeFree_normalize (h : Avoids '\\' '\\' cs) : EscapeFree (normalize cs) := by
  rw [normalize_eq]
  exact escapeFree_dropEscaped (avoids_unify h)

end TextScan.LineBreaks
