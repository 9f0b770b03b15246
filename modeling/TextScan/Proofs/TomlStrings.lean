import TextScan.Toml.Quoted

/-! Strings in quotes. Whatever a string is made of, and whichever style it is written in,
the reader gives the string back and stops right behind its quotes
(`text?_writeText`). What follows must not begin with a quote, as one more would still
belong to a long string. -/

namespace TextScan.Toml

/-! ## Escapes -/

theorem hexDigit?_upperHexDigit : ∀ n < 16, hexDigit? (upperHexDigit n) = some n := by decide

theorem toNat_lt_of_isControl {c : Char} (h : isControl c = true) : c.toNat < 0x80 := by
  rcases Bool.or_eq_true_iff.mp h with hlow | hdel
  · have hlt : c.toNat < 0x20 := of_decide_eq_true hlow
    omega
  · obtain rfl := of_decide_eq_true hdel
    decide

theorem isText_iff {c : Char} : isText c = true ↔ c = '\t' ∨ isControl c = false := by
  simp [isText, isControl]

/-- Four digits are enough for the characters that are written by their number. -/
theorem scalar?_digits {c : Char} (h : c.toNat < 0x10000) :
    scalar? [upperHexDigit (c.toNat / 0x1000 % 16), upperHexDigit (c.toNat / 0x100 % 16),
      upperHexDigit (c.toNat / 0x10 % 16), upperHexDigit (c.toNat % 16)] = some c := by
  have hdigit (n : Nat) : hexDigit? (upperHexDigit (n % 16)) = some (n % 16) :=
    hexDigit?_upperHexDigit _ (Nat.mod_lt _ (by decide))
  have hvalue : 16 * (16 * (16 * (16 * 0 + c.toNat / 0x1000 % 16) + c.toNat / 0x100 % 16) +
      c.toNat / 0x10 % 16) + c.toNat % 16 = c.toNat := by omega
  refine scalar?_of_value ?_
  simp only [List.foldlM_cons, List.foldlM_nil, hdigit, Option.map_eq_map, Option.map_some,
    Option.bind_eq_bind, Option.bind_some, Option.pure_def, hvalue]

theorem escape?_of_mem_escapes :
    ∀ e ∈ escapes, ∀ rest, escape? (e.1 :: rest) = some (e.2, rest) := by
  simp [escapes, escape?, List.lookup_cons]

/-- Whether a character is written with a backslash in a short string. -/
def IsEscaped (c : Char) : Prop := needsEscape c = true ∨ c = '"'

/-- An escape is a backslash and something that is read as the character; no white space
follows the backslash, so that it does not join two lines. -/
theorem exists_escapeOf {c : Char} (h : IsEscaped c) :
    ∃ d ds, escapeOf c = '\\' :: d :: ds ∧ isSpace d = false ∧ d ≠ '\n' ∧ d ≠ '\r' ∧
      ∀ rest, escape? (d :: ds ++ rest) = some (c, rest) := by
  unfold escapeOf
  split
  · next letter named hfind =>
    have hmem := List.mem_of_find?_eq_some hfind
    obtain rfl : named = c := by simpa using List.find?_some hfind
    have hletter : ∀ e ∈ escapes, isSpace e.1 = false ∧ e.1 ≠ '\n' ∧ e.1 ≠ '\r' := by decide
    obtain ⟨hspace, hfeed, hreturn⟩ := hletter _ hmem
    exact ⟨letter, [], rfl, hspace, hfeed, hreturn, escape?_of_mem_escapes _ hmem⟩
  · next hfind =>
    -- a quote or a backslash has a letter, so this is a control character
    have hcontrol : isControl c = true := by
      rcases h with hneeds | rfl
      · rcases Bool.or_eq_true_iff.mp hneeds with hcontrol | hbackslash
        · exact hcontrol
        · obtain rfl := of_decide_eq_true hbackslash
          exact absurd hfind (by decide)
      · exact absurd hfind (by decide)
    have hlt := toNat_lt_of_isControl hcontrol
    refine ⟨'u', _, rfl, by decide, by decide, by decide, fun rest => ?_⟩
    simp [escape?, scalar?_digits (c := c) (by omega)]

theorem basicChar?_escapeOf {c : Char} (h : IsEscaped c) (rest : List Char) :
    basicChar? (escapeOf c ++ rest) = some (c, rest) := by
  obtain ⟨d, ds, hescape, -, -, -, hread⟩ := exists_escapeOf h
  rw [hescape]
  exact hread rest

theorem basicChar?_of_not_isEscaped {c : Char} (h : ¬ IsEscaped c) (rest : List Char) :
    basicChar? (c :: rest) = some (c, rest) := by
  simp only [IsEscaped, needsEscape, Bool.or_eq_true, decide_eq_true_eq, not_or,
    Bool.not_eq_true] at h
  obtain ⟨⟨hcontrol, hbackslash⟩, hquote⟩ := h
  have htext : isText c = true := isText_iff.mpr (.inr hcontrol)
  simp [basicChar?, htext, hquote]

/-! ## Strings in one line -/

theorem basic?_cons {cs rest : List Char} {c : Char} (hhead : cs.head? ≠ some '"')
    (hread : basicChar? cs = some (c, rest)) :
    basic? cs = (basic? rest).map fun (s, rest) => (c :: s, rest) := by
  rw [basic?, if_neg hhead]
  split
  · next c' rest' h =>
    obtain ⟨rfl, rfl⟩ : c' = c ∧ rest' = rest := by simpa [hread] using h.symm
    rfl
  · next h => simp [hread] at h

theorem basic?_writeBasic (s rest : List Char) :
    basic? (writeBasic s ++ '"' :: rest) = some (s, rest) := by
  induction s with
  | nil =>
    rw [basic?]
    simp [writeBasic]
  | cons c s ih =>
    have hwrite : writeBasic (c :: s) ++ '"' :: rest =
        (if needsEscape c || c = '"' then escapeOf c else [c]) ++ (writeBasic s ++ '"' :: rest) := by
      simp [writeBasic]
    rw [hwrite]
    split
    · next h =>
      have hescaped : IsEscaped c := by simpa [IsEscaped] using h
      obtain ⟨d, ds, hescape, -⟩ := exists_escapeOf hescaped
      rw [basic?_cons (by simp [hescape]) (basicChar?_escapeOf hescaped _), ih]
      rfl
    · next h =>
      have hplain : ¬ IsEscaped c := by simpa [IsEscaped] using h
      have hquote : c ≠ '"' := fun hquote => hplain (.inr hquote)
      rw [List.singleton_append,
        basic?_cons (by simpa using hquote) (basicChar?_of_not_isEscaped hplain _), ih]
      rfl

theorem literal?_append {s : List Char} (h : ∀ c ∈ s, isText c = true ∧ c ≠ '\x27')
    (rest : List Char) : literal? (s ++ '\x27' :: rest) = some (s, rest) := by
  induction s with
  | nil => rfl
  | cons c s ih =>
    obtain ⟨⟨htext, hquote⟩, hs⟩ := List.forall_mem_cons.mp h
    rw [List.cons_append]
    simp [literal?, htext, ih hs]

/-! ## Strings of several lines -/

variable {quote : Char} {s rest : List Char}

/-- Two quotes at most stand before the three that end a long string. -/
theorem closing?_replicate {n : Nat} (hn : n ≤ 2) (hrest : rest.head? ≠ some quote) :
    closing? quote (List.replicate n quote ++ quote :: quote :: quote :: rest) =
      some (List.replicate n quote, rest) := by
  obtain rfl | rfl | rfl : n = 0 ∨ n = 1 ∨ n = 2 := by omega
  all_goals
    rcases rest with _ | ⟨d, _ | ⟨e, rest⟩⟩ <;> simp_all [closing?, List.replicate]

theorem closing?_eq_none {cs : List Char} (h : ¬ [quote, quote, quote] <+: cs) :
    closing? quote cs = none := by
  unfold closing?
  split
  · next a b c rest =>
    refine if_neg ?_
    rintro ⟨rfl, rfl, rfl⟩
    exact h ⟨rest, rfl⟩
  · rfl

/-- A long string does not end within its text, if that is not made of quotes alone and
does not begin with three. -/
theorem closing?_append (hrun : ¬ [quote, quote, quote] <+: s)
    (hs : s ≠ List.replicate s.length quote) (rest : List Char) :
    closing? quote (s ++ rest) = none := by
  refine closing?_eq_none fun hprefix => ?_
  rcases List.prefix_or_prefix_of_prefix hprefix (List.prefix_append s rest) with h | h
  · exact hrun h
  · refine hs (List.eq_replicate_iff.mpr ⟨rfl, fun c hc => ?_⟩)
    simpa using h.subset hc

/-! ### With escapes -/

/-- How the next character of a long string is written behind `run` quotes. -/
theorem writeLong_cons_cases (run : Nat) (c : Char) (s : List Char) :
    (c = '"' ∧ run < 2 ∧ writeLong run (c :: s) = '"' :: writeLong (run + 1) s) ∨
    (IsEscaped c ∧ writeLong run (c :: s) = escapeOf c ++ writeLong 0 s) ∨
    (c ≠ '"' ∧ (c = '\n' ∨ ¬ IsEscaped c) ∧ writeLong run (c :: s) = c :: writeLong 0 s) := by
  rw [writeLong]
  by_cases hquote : c = '"'
  · rw [if_pos hquote]
    split
    · next hrun => exact .inl ⟨hquote, hrun, rfl⟩
    · exact .inr (.inl ⟨.inr hquote, rfl⟩)
  · rw [if_neg hquote]
    split
    · next h =>
      obtain ⟨hneeds, -⟩ := Bool.and_eq_true_iff.mp h
      exact .inr (.inl ⟨.inl hneeds, rfl⟩)
    · next h =>
      refine .inr (.inr ⟨hquote, ?_, rfl⟩)
      by_cases hfeed : c = '\n'
      · exact .inl hfeed
      · exact .inr fun hescaped => h (by simpa [hfeed, IsEscaped, hquote] using hescaped)

/-- Behind `run` quotes there are not three of them until an escape, another character or
the end. -/
theorem not_prefix_writeLong {n run : Nat} (hn : 3 ≤ n + run) (hpos : 0 < n) (s : List Char) :
    ¬ List.replicate n '"' <+: writeLong run s := by
  induction n generalizing run s with
  | zero => contradiction
  | succ n ih =>
    intro hprefix
    cases s with
    | nil => simp [writeLong] at hprefix
    | cons c s =>
      rw [List.replicate_succ] at hprefix
      rcases writeLong_cons_cases run c s with ⟨-, hrun, h⟩ | ⟨hescaped, h⟩ | ⟨hquote, -, h⟩
      · rw [h, List.cons_prefix_cons] at hprefix
        exact ih (by omega) (by omega) s hprefix.2
      · obtain ⟨d, ds, hescape, -⟩ := exists_escapeOf hescaped
        rw [h, hescape, List.cons_append, List.cons_prefix_cons] at hprefix
        exact absurd hprefix.1 (by decide)
      · rw [h, List.cons_prefix_cons] at hprefix
        exact hquote hprefix.1.symm

/-- Quotes alone are only written for quotes. -/
theorem eq_replicate_of_writeLong {n run : Nat}
    (h : writeLong run s = List.replicate n '"') : s = List.replicate n '"' := by
  induction s generalizing n run with
  | nil => exact h
  | cons c s ih =>
    cases n with
    | zero =>
      rcases writeLong_cons_cases run c s with ⟨-, -, hw⟩ | ⟨hescaped, hw⟩ | ⟨-, -, hw⟩
      · simp [hw] at h
      · obtain ⟨d, ds, hescape, -⟩ := exists_escapeOf hescaped
        simp [hw, hescape] at h
      · simp [hw] at h
    | succ n =>
      rw [List.replicate_succ] at h ⊢
      rcases writeLong_cons_cases run c s with ⟨rfl, -, hw⟩ | ⟨hescaped, hw⟩ | ⟨hquote, -, hw⟩
      · rw [hw] at h
        rw [ih (List.cons.inj h).2]
      · obtain ⟨d, ds, hescape, -⟩ := exists_escapeOf hescaped
        rw [hw, hescape] at h
        exact absurd (List.cons.inj h).1 (by decide)
      · rw [hw] at h
        exact absurd (List.cons.inj h).1 hquote

theorem basicPiece?_escapeOf {c : Char} (h : IsEscaped c) (rest : List Char) :
    basicPiece? (escapeOf c ++ rest) = some ([c], rest) := by
  obtain ⟨d, ds, hescape, hspace, hfeed, hreturn, hread⟩ := exists_escapeOf h
  have hline : continuation? (d :: ds ++ rest) = none := by
    simp [continuation?, skipSpaces, hspace, newline?, hfeed, hreturn]
  rw [hescape]
  simp only [List.cons_append] at hline hread ⊢
  simp [basicPiece?, newline?, hline, hread]

theorem basicPiece?_of_not_isEscaped {c : Char} (h : c = '\n' ∨ ¬ IsEscaped c)
    (rest : List Char) : basicPiece? (c :: rest) = some ([c], rest) := by
  rcases h with rfl | h
  · rfl
  · have hfeed : c ≠ '\n' := by rintro rfl; exact h (.inl rfl)
    have hreturn : c ≠ '\r' := by rintro rfl; exact h (.inl rfl)
    have hbackslash : c ≠ '\\' := by rintro rfl; exact h (.inl rfl)
    have hquote : c ≠ '"' := by rintro rfl; exact h (.inr rfl)
    simp [basicPiece?, newline?, hfeed, hreturn, hbackslash, hquote,
      basicChar?_of_not_isEscaped h]

theorem longBasic?_append {cs after piece : List Char} (hopen : closing? '"' cs = none)
    (hread : basicPiece? cs = some (piece, after)) :
    longBasic? cs = (longBasic? after).map fun (s, rest) => (piece ++ s, rest) := by
  rw [longBasic?, hopen]
  dsimp only
  split
  · next piece' after' h =>
    obtain ⟨rfl, rfl⟩ : piece' = piece ∧ after' = after := by simpa [hread] using h.symm
    rfl
  · next h => simp [hread] at h

/-- The quotes at the end of a string are read together with those that close it. -/
theorem longBasic?_of_quotes {run : Nat}
    (h : writeLong run s = List.replicate (writeLong run s).length '"')
    (hrest : rest.head? ≠ some '"') :
    longBasic? (writeLong run s ++ '"' :: '"' :: '"' :: rest) = some (s, rest) := by
  generalize hn : (writeLong run s).length = n at h
  have hle : n ≤ 2 := by
    refine Nat.le_of_not_lt fun hlt => ?_
    have hprefix : List.replicate n '"' <+: writeLong run s := ⟨[], by rw [List.append_nil, h]⟩
    exact not_prefix_writeLong (by omega) (by omega) s hprefix
  rw [h, eq_replicate_of_writeLong h, longBasic?, closing?_replicate hle hrest]

theorem longBasic?_writeLong (run : Nat) (s : List Char) (hrest : rest.head? ≠ some '"') :
    longBasic? (writeLong run s ++ '"' :: '"' :: '"' :: rest) = some (s, rest) := by
  induction s generalizing run with
  | nil => exact longBasic?_of_quotes rfl hrest
  | cons c s ih =>
    by_cases hall : writeLong run (c :: s) = List.replicate (writeLong run (c :: s)).length '"'
    · exact longBasic?_of_quotes hall hrest
    · have hopen := closing?_append (not_prefix_writeLong (n := 3) (by omega) (by decide) _) hall
        ('"' :: '"' :: '"' :: rest)
      rcases writeLong_cons_cases run c s with ⟨rfl, -, h⟩ | ⟨hescaped, h⟩ | ⟨-, hplain, h⟩
      · rw [h, List.cons_append] at hopen ⊢
        have hpiece (rest : List Char) : basicPiece? ('"' :: rest) = some (['"'], rest) := rfl
        rw [longBasic?_append hopen (hpiece _), ih]
        rfl
      · rw [h, List.append_assoc] at hopen ⊢
        rw [longBasic?_append hopen (basicPiece?_escapeOf hescaped _), ih]
        rfl
      · rw [h, List.cons_append] at hopen ⊢
        rw [longBasic?_append hopen (basicPiece?_of_not_isEscaped hplain _), ih]
        rfl

/-! ### Without escapes -/

theorem le_longestRun (quote : Char) (run : Nat) (s : List Char) :
    run ≤ longestRun quote run s := by
  cases s with
  | nil => exact Nat.le_refl run
  | cons c s => exact Nat.le_max_left ..

theorem add_le_longestRun (quote : Char) (run n : Nat) (s : List Char) :
    run + n ≤ longestRun quote run (List.replicate n quote ++ s) := by
  induction n generalizing run with
  | zero => exact le_longestRun quote run _
  | succ n ih =>
    have h := ih (run + 1)
    rw [List.replicate_succ, List.cons_append, longestRun, if_pos rfl]
    omega

theorem not_prefix_of_longestRun {run : Nat} (h : longestRun quote run s ≤ 2) :
    ¬ [quote, quote, quote] <+: s := by
  rintro ⟨after, rfl⟩
  have hrun := add_le_longestRun quote run 3 after
  simp only [List.replicate] at hrun
  omega

theorem longLiteral?_cons {c : Char} {cs : List Char}
    (hopen : closing? '\x27' (c :: cs) = none) (hreturn : c ≠ '\r')
    (htext : isText c = true ∨ c = '\n') :
    longLiteral? (c :: cs) = (longLiteral? cs).map fun (s, rest) => (c :: s, rest) := by
  have hshows : (isText c || decide (c = '\n')) = true := by simpa using htext
  rw [longLiteral?, hopen]
  · dsimp only
    rw [if_pos hshows]
  · intro after hc
    exact absurd hc hreturn

theorem longLiteral?_append (run : Nat) (hrun : longestRun '\x27' run s ≤ 2)
    (htext : ∀ c ∈ s, c ≠ '\r' ∧ (isText c = true ∨ c = '\n'))
    (hrest : rest.head? ≠ some '\x27') :
    longLiteral? (s ++ '\x27' :: '\x27' :: '\x27' :: rest) = some (s, rest) := by
  induction s generalizing run with
  | nil =>
    have hclose := closing?_replicate (n := 0) (by omega) hrest
    rw [List.replicate_zero, List.nil_append] at hclose
    rw [longLiteral?.eq_def, List.nil_append, hclose]
  | cons c s ih =>
    by_cases hall : c :: s = List.replicate (c :: s).length '\x27'
    · generalize (c :: s).length = n at hall
      have hle := add_le_longestRun '\x27' run n []
      rw [List.append_nil, ← hall] at hle
      rw [longLiteral?.eq_def, hall, closing?_replicate (by omega) hrest]
    · have hopen := closing?_append (not_prefix_of_longestRun hrun) hall
        ('\x27' :: '\x27' :: '\x27' :: rest)
      obtain ⟨⟨hreturn, hshows⟩, hs⟩ := List.forall_mem_cons.mp htext
      have hnext := Nat.le_trans (Nat.le_max_right ..) hrun
      rw [List.cons_append] at hopen ⊢
      rw [longLiteral?_cons hopen hreturn hshows, ih _ hnext hs]
      rfl

/-! ## Strings in any style -/

/-- A string is written without escapes only where it shows as it is. -/
theorem shows_styleOf {s : List Char} (h : styleOf s = .literal ∨ styleOf s = .longLiteral) :
    (styleOf s).shows s = true := by
  unfold styleOf at h ⊢
  cases hfind : QuoteStyle.all.find? (·.shows s) with
  | some style =>
    have hshows := List.find?_some hfind
    exact hshows
  | none =>
    rw [hfind] at h
    split at h <;> simp at h

/-- Without such controls as need an escape, all characters may stand in a string that
has no escapes, a line break only over several lines. -/
theorem isText_of_hasControl (h : hasControl s = false) :
    ∀ c ∈ s, c ≠ '\r' ∧ (isText c = true ∨ c = '\n') := by
  intro c hc
  have hshown : ¬ (isControl c = true ∧ c ≠ '\t' ∧ c ≠ '\n') := by
    simpa [and_assoc] using List.any_eq_false.mp h c hc
  refine ⟨?_, ?_⟩
  · rintro rfl
    exact hshown (by decide)
  · by_cases hcontrol : isControl c = true
    · by_cases htab : c = '\t'
      · exact .inl (isText_iff.mpr (.inl htab))
      · exact .inr (Decidable.byContradiction fun hfeed => hshown ⟨hcontrol, htab, hfeed⟩)
    · exact .inl (isText_iff.mpr (.inr (Bool.eq_false_iff.mpr hcontrol)))

theorem text?_basic (s : List Char) (hrest : rest.head? ≠ some '"') :
    text? ('"' :: (writeBasic s ++ '"' :: rest)) = some (s, rest) := by
  have hread := basic?_writeBasic s rest
  rw [text?, hread]
  -- two quotes would be the empty string with a third one behind it
  intro after hopen
  rw [hopen, basic?] at hread
  obtain ⟨-, rfl⟩ : [] = s ∧ '"' :: after = rest := by simpa using hread
  exact hrest rfl

theorem text?_literal (h : QuoteStyle.literal.shows s = true)
    (hrest : rest.head? ≠ some '\x27') :
    text? ('\x27' :: (s ++ '\x27' :: rest)) = some (s, rest) := by
  obtain ⟨hcontrol, hquote, hfeed⟩ : hasControl s = false ∧ '\x27' ∉ s ∧ '\n' ∉ s := by
    simpa [QuoteStyle.shows] using h
  have htext : ∀ c ∈ s, isText c = true ∧ c ≠ '\x27' := by
    intro c hc
    have hshown := (isText_of_hasControl hcontrol c hc).2
    refine ⟨hshown.resolve_right ?_, ?_⟩
    · exact fun h => hfeed (h ▸ hc)
    · exact fun h => hquote (h ▸ hc)
  have hread := literal?_append htext rest
  rw [text?, hread]
  intro after hopen
  rw [hopen, literal?] at hread
  obtain ⟨-, rfl⟩ : [] = s ∧ '\x27' :: after = rest := by simpa using hread
  exact hrest rfl

/-- The line break that opens a long string is dropped, and none is where it has none. -/
theorem dropFirstNewline_openingBreak {w : List Char}
    (h : '\n' ∉ s → ∀ c, w.head? = some c → c ≠ '\n' ∧ c ≠ '\r') :
    dropFirstNewline (openingBreak s ++ w) = w := by
  unfold openingBreak
  split
  · rfl
  · next hfeed =>
    have hfeed : '\n' ∉ s := by simpa using hfeed
    cases w with
    | nil => rfl
    | cons c w =>
      obtain ⟨hc, hreturn⟩ := h hfeed c rfl
      simp [dropFirstNewline, newline?, hc, hreturn]

theorem head?_writeLong (hfeed : '\n' ∉ s) {c : Char}
    (h : (writeLong 0 s ++ '"' :: rest).head? = some c) : c ≠ '\n' ∧ c ≠ '\r' := by
  cases s with
  | nil =>
    obtain rfl : '"' = c := by simpa [writeLong] using h
    decide
  | cons d s =>
    rcases writeLong_cons_cases 0 d s with ⟨-, -, hw⟩ | ⟨hescaped, hw⟩ | ⟨-, hplain, hw⟩
    · obtain rfl : '"' = c := by simpa [hw] using h
      decide
    · obtain ⟨e, es, hescape, -⟩ := exists_escapeOf hescaped
      obtain rfl : '\\' = c := by simpa [hw, hescape] using h
      decide
    · obtain rfl : d = c := by simpa [hw] using h
      have hd : d ≠ '\n' := fun hd => hfeed (hd ▸ List.mem_cons_self)
      refine ⟨hd, ?_⟩
      rintro rfl
      exact hplain.resolve_left hd (.inl rfl)

theorem text?_longBasic (s : List Char) (hrest : rest.head? ≠ some '"') :
    text? ('"' :: '"' :: '"' :: (openingBreak s ++
      (writeLong 0 s ++ '"' :: '"' :: '"' :: rest))) = some (s, rest) := by
  rw [text?, dropFirstNewline_openingBreak fun hfeed _ => head?_writeLong hfeed]
  exact longBasic?_writeLong 0 s hrest

theorem text?_longLiteral (h : QuoteStyle.longLiteral.shows s = true)
    (hrest : rest.head? ≠ some '\x27') :
    text? ('\x27' :: '\x27' :: '\x27' :: (openingBreak s ++
      (s ++ '\x27' :: '\x27' :: '\x27' :: rest))) = some (s, rest) := by
  obtain ⟨hcontrol, hrun⟩ : hasControl s = false ∧ longestRun '\x27' 0 s ≤ 2 := by
    simpa [QuoteStyle.shows] using h
  have htext := isText_of_hasControl hcontrol
  rw [text?, dropFirstNewline_openingBreak]
  · exact longLiteral?_append 0 hrun htext hrest
  · intro hfeed c hc
    cases s with
    | nil =>
      obtain rfl : '\x27' = c := by simpa using hc
      decide
    | cons d s =>
      obtain rfl : d = c := by simpa using hc
      exact ⟨fun hd => hfeed (hd ▸ List.mem_cons_self), (htext d List.mem_cons_self).1⟩

/-- **Strings are read as they were written**, in whichever style, up to what follows. -/
theorem text?_writeText (s : List Char)
    (hrest : ∀ quote ∈ ['"', '\x27'], rest.head? ≠ some quote) :
    text? (writeText s ++ rest) = some (s, rest) := by
  have hdouble := hrest '"' (by simp)
  have hsingle := hrest '\x27' (by simp)
  have hshows := shows_styleOf (s := s)
  unfold writeText
  cases hstyle : styleOf s with
  | basic => simpa using text?_basic s hdouble
  | literal => simpa using text?_literal (hstyle ▸ hshows (.inl hstyle)) hsingle
  | longBasic => simpa using text?_longBasic s hdouble
  | longLiteral => simpa using text?_longLiteral (hstyle ▸ hshows (.inr hstyle)) hsingle

end TextScan.Toml
