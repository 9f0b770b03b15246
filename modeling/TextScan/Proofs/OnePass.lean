import TextScan.Proofs.Normalization

/-! Normalizing in one pass. Of the three replacements in `flatten` each works on what the
one before has left. One reading from the left does the same (`flatten_eq_onePass`): it
takes a line break as one token, however it is written, and a backslash goes away with
the break that comes directly behind it, which is never part of another. -/

namespace TextScan.LineBreaks

/-- A text consists of line breaks and other characters. -/
inductive Token where
  | lineBreak
  | char (c : Char)

variable {c : Char} {cs rest behind : List Char} {token : Token}

/-- The token at the front of a text, with the text behind it. -/
def token? : List Char → Option (Token × List Char)
  | '\r' :: '\n' :: rest => some (.lineBreak, rest)
  | '\r' :: rest => some (.lineBreak, rest)
  | '\n' :: rest => some (.lineBreak, rest)
  | c :: rest => some (.char c, rest)
  | [] => none

theorem eq_nil_of_token? (h : token? cs = none) : cs = [] := by
  unfold token? at h
  split at h
  · exact nomatch h
  · exact nomatch h
  · exact nomatch h
  · exact nomatch h
  · rfl

theorem length_lt_of_token? (h : token? cs = some (token, rest)) : rest.length < cs.length := by
  unfold token? at h
  split at h
  · cases h
    simp only [List.length_cons]
    omega
  · cases h
    exact Nat.lt_succ_self _
  · cases h
    exact Nat.lt_succ_self _
  · cases h
    exact Nat.lt_succ_self _
  · exact nomatch h

/-- Drops each backslash with the line break that is the next token, writes every other
break as a line feed, and keeps the rest. -/
def onePass (cs : List Char) : List Char :=
  match _h : token? cs with
  | none => []
  | some (.lineBreak, rest) => '\n' :: onePass rest
  | some (.char c, rest) =>
    match _hrest : token? rest with
    | some (.lineBreak, behind) => if c = '\\' then onePass behind else c :: onePass rest
    | _ => c :: onePass rest
termination_by cs.length
decreasing_by
  · exact length_lt_of_token? _h
  · exact Nat.lt_trans (length_lt_of_token? _hrest) (length_lt_of_token? _h)
  · exact length_lt_of_token? _h
  · exact length_lt_of_token? _h

/-! ## Tokens of a text and its unified line breaks -/

theorem unify_of_lineBreak (h : token? cs = some (.lineBreak, rest)) :
    unify cs = '\n' :: unify rest := by
  unfold token? at h
  split at h
  · cases h
    exact unify_pair _
  · next hpair =>
    cases h
    refine unify_return fun hhead => ?_
    obtain ⟨behind, hbehind⟩ := List.head?_eq_some_iff.mp hhead
    exact hpair behind hbehind
  · cases h
    exact unify_cons (by decide)
  · exact nomatch h
  · exact nomatch h

theorem unify_of_char (h : token? cs = some (.char c, rest)) :
    c ≠ '\n' ∧ unify cs = c :: unify rest := by
  unfold token? at h
  split at h
  · exact nomatch h
  · exact nomatch h
  · exact nomatch h
  · next hreturn hfeed =>
    cases h
    exact ⟨hfeed, unify_cons hreturn⟩
  · exact nomatch h

theorem exists_lineBreak_of_head?_unify (h : (unify cs).head? = some '\n') :
    ∃ rest, token? cs = some (.lineBreak, rest) := by
  cases htoken : token? cs with
  | none =>
    rw [eq_nil_of_token? htoken] at h
    contradiction
  | some first =>
    obtain ⟨token, rest⟩ := first
    cases token with
    | lineBreak => exact ⟨rest, rfl⟩
    | char c =>
      obtain ⟨hfeed, hunify⟩ := unify_of_char htoken
      rw [hunify] at h
      exact absurd (Option.some.inj h) hfeed

theorem flatten_eq_onePass (cs : List Char) : flatten cs = onePass cs := by
  change dropEscaped (unify cs) = onePass cs
  fun_induction onePass cs with
  | case1 cs h => rw [eq_nil_of_token? h, unify_nil, dropEscaped_nil]
  | case2 cs rest h ih => rw [unify_of_lineBreak h, dropEscaped_cons (by simp), ih]
  | case3 cs rest behind hbehind h ih =>
    rw [(unify_of_char h).2, unify_of_lineBreak hbehind, dropEscaped_escape, ih]
  | case4 cs c rest h behind hbehind hc ih =>
    rw [(unify_of_char h).2, dropEscaped_cons fun hescape => hc hescape.1, ih]
  | case5 cs c rest h hbehind ih =>
    have hkeep : ¬ (c = '\\' ∧ (unify rest).head? = some '\n') := by
      intro hescape
      obtain ⟨behind, hbreak⟩ := exists_lineBreak_of_head?_unify hescape.2
      exact hbehind behind hbreak
    rw [(unify_of_char h).2, dropEscaped_cons hkeep, ih]

/-- **Three replacements are one pass**, which leaves no carriage return. A text is changed
just if it has a carriage return or a backslash directly before a line feed, so that
nothing depends on whether this has been looked for before. -/
theorem flatten_in_one_pass (cs : List Char) :
    flatten cs = onePass cs ∧ '\r' ∉ flatten cs ∧
      (isPlain cs = false ↔ '\r' ∈ cs ∨ ['\\', '\n'] <:+: cs) ∧
      (isPlain cs = false ↔ flatten cs ≠ cs) ∧ normalize cs = flatten cs := by
  have hnormalize : normalize cs = flatten cs := normalize_eq cs
  refine ⟨flatten_eq_onePass cs, ?_, ?_, ?_, hnormalize⟩
  · rw [← hnormalize]
    exact return_notMem_normalize cs
  · rw [← Bool.not_eq_true, isPlain_iff, not_and_or]
    exact or_congr not_not not_not
  · rw [← Bool.not_eq_true, ← normalize_eq_self_iff, hnormalize]

/-- A carriage return takes no part in the break behind an escaped one. -/
example : flatten ['\\', '\r', '\r', '\n', '\\', '\\', '\r', '\n', '\n'] = ['\n', '\\', '\n'] := by
  decide

end TextScan.LineBreaks
