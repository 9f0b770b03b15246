import Mathlib.Algebra.Group.Int.Defs
import Mathlib.Algebra.Group.Nat.Defs
import TextScan.Number

/-! Decimal numbers as they may be written. Digits are read to their value where it is
within the bound (`digits_eq_ok_iff`), so that what is read as a count or as an offset is
just what may be written for it. -/

namespace TextScan.Number

variable {bound limit start n : Nat} {i : Int} {c : Char} {ds text : List Char}
  {overflow e : NumberError}

/-- One or more decimal digits and their value. Zeros in front do not count. -/
structure IsNumeral (ds : List Char) (n : Nat) : Prop where
  ne_nil : ds ≠ []
  isDigit : ∀ d ∈ ds, d.isDigit = true
  value : Nat.ofDigitChars 10 ds 0 = n

namespace IsNumeral

theorem isDigit_head (h : IsNumeral (c :: ds) n) : c.isDigit = true :=
  h.isDigit c List.mem_cons_self

theorem toDigits (n : Nat) : IsNumeral (Nat.toDigits 10 n) n where
  ne_nil := Nat.toDigits_ne_nil
  isDigit _ h := Nat.isDigit_of_mem_toDigits (by decide) (by decide) h
  value := Nat.ofDigitChars_toDigits (by decide) (by decide)

end IsNumeral

theorem le_ofDigitChars (ds : List Char) (start : Nat) : start ≤ Nat.ofDigitChars 10 ds start := by
  induction ds generalizing start with
  | nil => exact Nat.le_refl _
  | cons d ds ih =>
    rw [Nat.ofDigitChars_cons]
    exact Nat.le_trans (by omega) (ih _)

/-- Digits are appended to a value up to the bound, which it does not come back from. -/
theorem digits_eq_ok_iff (hstart : start ≤ bound) :
    digits bound overflow start ds = .ok n ↔
      (∀ d ∈ ds, d.isDigit = true) ∧ Nat.ofDigitChars 10 ds start = n ∧ n ≤ bound := by
  induction ds generalizing start with
  | nil =>
    simp only [digits, Except.ok.injEq, List.not_mem_nil, Nat.ofDigitChars_nil]
    constructor
    · intro hvalue
      exact ⟨nofun, hvalue, hvalue ▸ hstart⟩
    · exact fun h => h.2.1
  | cons d ds ih =>
    rw [digits, Nat.ofDigitChars_cons, List.forall_mem_cons]
    split
    · next hdigit =>
      dsimp only
      split
      · next hbound => rw [ih hbound, and_iff_right hdigit]
      · next hbound =>
        refine ⟨nofun, fun h => absurd ?_ hbound⟩
        obtain ⟨-, rfl, hle⟩ := h
        exact Nat.le_trans (le_ofDigitChars ds _) hle
    · next hdigit => exact ⟨nofun, fun h => absurd h.1.1 hdigit⟩

theorem digits_zero_eq_ok_iff (hne : ds ≠ []) :
    digits bound overflow 0 ds = .ok n ↔ IsNumeral ds n ∧ n ≤ bound := by
  rw [digits_eq_ok_iff (Nat.zero_le bound)]
  exact ⟨fun h => ⟨⟨hne, h.1, h.2.1⟩, h.2.2⟩, fun h => ⟨h.1.isDigit, h.1.value, h.2⟩⟩

/-! ## Signs -/

/-- A number without a minus sign as it may be written: digits behind an optional plus sign,
with a value below the limit. -/
inductive IsUnsigned (limit : Nat) : List Char → Nat → Prop
  | plain {ds : List Char} {n : Nat} (h : IsNumeral ds n) (hn : n < limit) :
      IsUnsigned limit ds n
  | plus {ds : List Char} {n : Nat} (h : IsNumeral ds n) (hn : n < limit) :
      IsUnsigned limit ('+' :: ds) n

/-- An offset as it may be written. There is one more below zero than above. -/
inductive IsOffset : List Char → Int → Prop
  | unsigned {text : List Char} {n : Nat} (h : IsUnsigned (2 ^ 63) text n) : IsOffset text n
  | minus {ds : List Char} {n : Nat} (h : IsNumeral ds n) (hn : n ≤ 2 ^ 63) :
      IsOffset ('-' :: ds) (-n)

theorem isDigit_or_of_isNumeral {sign : Char} (hsign : sign ∈ ['+', '-']) (h : IsNumeral ds n)
    (hc : c ∈ sign :: ds) : c.isDigit = true ∨ c ∈ ['+', '-'] := by
  obtain rfl | hc := List.mem_cons.mp hc
  · exact .inr hsign
  · exact .inl (h.isDigit c hc)

theorem IsUnsigned.isDigit_or (h : IsUnsigned limit text n) (hc : c ∈ text) :
    c.isDigit = true ∨ c ∈ ['+', '-'] := by
  cases h with
  | plain h hn => exact .inl (h.isDigit c hc)
  | plus h hn => exact isDigit_or_of_isNumeral (by simp) h hc

theorem IsOffset.isDigit_or (h : IsOffset text i) (hc : c ∈ text) :
    c.isDigit = true ∨ c ∈ ['+', '-'] := by
  cases h with
  | unsigned h => exact h.isDigit_or hc
  | minus h hn => exact isDigit_or_of_isNumeral (by simp) h hc

theorem isUnsigned_plus_iff : IsUnsigned limit ('+' :: ds) n ↔ IsNumeral ds n ∧ n < limit := by
  refine ⟨fun h => ?_, fun h => .plus h.1 h.2⟩
  cases h with
  | plain h hn => exact nomatch h.isDigit_head
  | plus h hn => exact ⟨h, hn⟩

theorem isUnsigned_iff (text : List Char) (hplus : ∀ rest, text ≠ '+' :: rest) :
    IsUnsigned limit text n ↔ IsNumeral text n ∧ n < limit := by
  refine ⟨fun h => ?_, fun h => .plain h.1 h.2⟩
  cases h with
  | plain h hn => exact ⟨h, hn⟩
  | plus h hn => exact absurd rfl (hplus _)

theorem not_isUnsigned_nil : ¬ IsUnsigned limit [] n := by
  intro h
  cases h with
  | plain h hn => exact h.ne_nil rfl

theorem not_isUnsigned_plus : ¬ IsUnsigned limit ['+'] n :=
  fun h => (isUnsigned_plus_iff.mp h).1.ne_nil rfl

theorem isOffset_minus_iff :
    IsOffset ('-' :: ds) i ↔ ∃ n : Nat, (IsNumeral ds n ∧ n ≤ 2 ^ 63) ∧ -(n : Int) = i := by
  constructor
  · intro h
    cases h with
    | unsigned h =>
      have hnumeral := (isUnsigned_iff ('-' :: ds) nofun).mp h
      exact nomatch hnumeral.1.isDigit_head
    | minus h hn => exact ⟨_, ⟨h, hn⟩, rfl⟩
  · intro h
    obtain ⟨n, ⟨h, hn⟩, rfl⟩ := h
    exact .minus h hn

theorem isOffset_iff (text : List Char) (hminus : ∀ rest, text ≠ '-' :: rest) :
    IsOffset text i ↔ ∃ n : Nat, IsUnsigned (2 ^ 63) text n ∧ (n : Int) = i := by
  constructor
  · intro h
    cases h with
    | unsigned h => exact ⟨_, h, rfl⟩
    | minus h hn => exact absurd rfl (hminus _)
  · intro h
    obtain ⟨n, h, rfl⟩ := h
    exact .unsigned h

/-! ## Reading -/

theorem le_maxCount_iff : n ≤ maxCount ↔ n < 2 ^ 64 := Nat.lt_succ_iff.symm

theorem le_maxOffset_iff : n ≤ maxOffset ↔ n < 2 ^ 63 := Nat.lt_succ_iff.symm

theorem parseCount_eq_ok_iff : parseCount text = .ok n ↔ IsUnsigned (2 ^ 64) text n := by
  fun_cases parseCount text with
  | case1 => exact ⟨nofun, fun h => absurd h not_isUnsigned_nil⟩
  | case2 => exact ⟨nofun, fun h => absurd h not_isUnsigned_plus⟩
  | case3 rest hrest =>
    rw [isUnsigned_plus_iff, digits_zero_eq_ok_iff hrest, le_maxCount_iff]
  | case4 cs hne hsign hplus =>
    rw [isUnsigned_iff _ hplus, digits_zero_eq_ok_iff hne, le_maxCount_iff]

theorem map_digits_eq_ok_iff {f : Nat → Int} (hne : ds ≠ []) :
    (digits bound overflow 0 ds).map f = .ok i ↔ ∃ n, (IsNumeral ds n ∧ n ≤ bound) ∧ f n = i := by
  constructor
  · intro h
    cases hdigits : digits bound overflow 0 ds with
    | error e => exact nomatch hdigits ▸ h
    | ok n =>
      rw [hdigits] at h
      exact ⟨n, (digits_zero_eq_ok_iff hne).mp hdigits, Except.ok.inj h⟩
  · intro h
    obtain ⟨n, h, rfl⟩ := h
    rw [(digits_zero_eq_ok_iff hne).mpr h]
    rfl

theorem parseOffset_eq_ok_iff : parseOffset text = .ok i ↔ IsOffset text i := by
  fun_cases parseOffset text with
  | case1 =>
    rw [isOffset_iff [] nofun]
    exact ⟨nofun, fun h => absurd h.choose_spec.1 not_isUnsigned_nil⟩
  | case2 =>
    rw [isOffset_iff ['+'] nofun]
    exact ⟨nofun, fun h => absurd h.choose_spec.1 not_isUnsigned_plus⟩
  | case3 =>
    rw [isOffset_minus_iff]
    exact ⟨nofun, fun h => absurd rfl h.choose_spec.1.1.ne_nil⟩
  | case4 rest hrest =>
    rw [isOffset_iff ('+' :: rest) nofun, map_digits_eq_ok_iff hrest]
    simp only [isUnsigned_plus_iff, le_maxOffset_iff]
    rfl
  | case5 rest hrest =>
    rw [isOffset_minus_iff, map_digits_eq_ok_iff hrest]
    rfl
  | case6 cs hne hsign hsign' hplus hminus =>
    rw [isOffset_iff _ hminus, map_digits_eq_ok_iff hne]
    simp only [isUnsigned_iff _ hplus, le_maxOffset_iff]
    rfl

theorem not_isUnsigned_of_parseCount (h : parseCount text = .error e) (n : Nat) :
    ¬ IsUnsigned (2 ^ 64) text n :=
  fun hunsigned => nomatch h.symm.trans (parseCount_eq_ok_iff.mpr hunsigned)

theorem not_isOffset_of_parseOffset (h : parseOffset text = .error e) (i : Int) :
    ¬ IsOffset text i :=
  fun hoffset => nomatch h.symm.trans (parseOffset_eq_ok_iff.mpr hoffset)

/-! ## Printed numbers -/

theorem isUnsigned_repr (h : n < 2 ^ 64) : IsUnsigned (2 ^ 64) n.repr.toList n := by
  rw [Nat.toList_repr]
  exact .plain (.toDigits n) h

theorem isOffset_repr (hlow : -2 ^ 63 ≤ i) (hhigh : i < 2 ^ 63) : IsOffset i.repr.toList i := by
  rw [Int.repr_eq_if]
  split
  · next hsign =>
    obtain ⟨n, rfl⟩ := Int.eq_ofNat_of_zero_le hsign
    rw [Int.toNat_natCast, Nat.toList_repr]
    exact .unsigned (.plain (.toDigits n) (by omega))
  · next hsign =>
    obtain ⟨n, rfl⟩ := Int.exists_eq_neg_ofNat (by omega : i ≤ 0)
    rw [Int.neg_neg, Int.toNat_natCast, String.toList_append, Nat.toList_repr]
    exact .minus (.toDigits n) (by omega)

end TextScan.Number
