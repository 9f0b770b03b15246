import TextScan.Dump
import TextScan.Fields
import TextScan.Toml.Text

/-! Printed characters and positions, read back. Whatever characters are taken to show, each
is known from its quoted form (`read?_char`), in which no tab and no line break stands
(`notMem_char`). A position is made of digits and a few marks, at which it is cut into its
numbers, so that with its offset it is known as well (`position_injective`). -/

namespace TextScan

/-! ## Hexadecimal digits -/

namespace Toml

theorem hexDigit?_digitChar : ∀ n < 16, hexDigit? n.digitChar = some n := by decide

/-- The digits of a number have its value. -/
theorem value_toDigits (n : Nat) :
    (Nat.toDigits 16 n).foldlM (fun n c => (16 * n + ·) <$> hexDigit? c) 0 = some n := by
  induction n using Nat.strongRecOn with
  | ind n ih =>
    rw [Nat.toDigits_eq_if (by decide)]
    split
    · next h => simp [hexDigit?_digitChar n h]
    · next h =>
      have hlast := hexDigit?_digitChar (n % 16) (Nat.mod_lt n (by decide))
      rw [List.foldlM_append, ih (n / 16) (by omega)]
      simp [hlast, Nat.div_add_mod]

theorem scalar?_toDigits (c : Char) : scalar? (Nat.toDigits 16 c.toNat) = some c :=
  scalar?_of_value (value_toDigits c.toNat)

theorem exists_digitChar_of_mem_toDigits {n : Nat} {d : Char} (h : d ∈ Nat.toDigits 16 n) :
    ∃ m < 16, d = m.digitChar := by
  induction n using Nat.strongRecOn with
  | ind n ih =>
    rw [Nat.toDigits_eq_if (by decide)] at h
    split at h
    · next hlt => exact ⟨n, hlt, List.mem_singleton.mp h⟩
    · next hlt =>
      rcases List.mem_append.mp h with hfront | hlast
      · exact ih (n / 16) (by omega) hfront
      · exact ⟨n % 16, Nat.mod_lt n (by decide), List.mem_singleton.mp hlast⟩

end Toml

/-! ## Quoted characters -/

namespace Quote

/-- What a letter behind a backslash stands for. -/
def unescape : Char → Char
  | '0' => '\x00'
  | 't' => '\t'
  | 'n' => '\n'
  | 'r' => '\r'
  | c => c

/-- The character that is quoted: it stands between the apostrophes alone, behind a backslash,
or by its number if there is more. -/
def read? : List Char → Option Char
  | [_, c, _] => some c
  | _ :: _ :: letter :: _ :: digits =>
    if digits = [] then some (unescape letter)
    else Toml.scalar? (digits.takeWhile (· ≠ '\x7d'))
  | _ => none

theorem read?_number (c : Char) : read? ('\x27' :: number c ++ ['\x27']) = some c := by
  have hdigits : ∀ d ∈ Nat.toDigits 16 c.toNat, (d ≠ '\x7d' : Bool) = true := by
    intro d hd
    obtain ⟨m, hm, rfl⟩ := Toml.exists_digitChar_of_mem_toDigits hd
    have hbrace : ∀ m < 16, (Nat.digitChar m ≠ '\x7d' : Bool) = true := by decide
    exact hbrace m hm
  have hnumber : '\x27' :: number c ++ ['\x27'] =
      '\x27' :: '\\' :: 'u' :: '\x7b' :: (Nat.toDigits 16 c.toNat ++ ['\x7d', '\x27']) := by
    simp [number]
  have hmore : Nat.toDigits 16 c.toNat ++ ['\x7d', '\x27'] ≠ [] := by simp
  rw [hnumber]
  refine (if_neg hmore).trans ?_
  rw [List.takeWhile_append_of_pos hdigits]
  simp [Toml.scalar?_toDigits]

/-- A character is written with a backslash and a letter that stands for it, as it is, or by
its number. -/
theorem escape_cases (shown : Char → Bool) (c : Char) :
    (∃ letter, escape shown '\x27' c = ['\\', letter] ∧ unescape letter = c ∧
      letter ∉ ['\t', '\n']) ∨
    (escape shown '\x27' c = [c] ∧ c ∉ ['\t', '\n']) ∨
    escape shown '\x27' c = number c := by
  unfold escape
  split
  · next h => exact .inl ⟨'0', rfl, h.symm, by decide⟩
  split
  · next h => exact .inl ⟨'t', rfl, h.symm, by decide⟩
  split
  · next h => exact .inl ⟨'n', rfl, h.symm, by decide⟩
  split
  · next h => exact .inl ⟨'r', rfl, h.symm, by decide⟩
  split
  · next h =>
    obtain rfl | rfl : c = '\\' ∨ c = '\x27' := by simpa using h
    · exact .inl ⟨'\\', rfl, rfl, by decide⟩
    · exact .inl ⟨'\x27', rfl, rfl, by decide⟩
  split
  · next htab hfeed _ _ _ => exact .inr (.inl ⟨rfl, by simp [htab, hfeed]⟩)
  · exact .inr (.inr rfl)

/-- **Quoted characters are read as they were**, whichever of them show. -/
theorem read?_char (shown : Char → Bool) (c : Char) : read? (char shown c) = some c := by
  unfold char
  rcases escape_cases shown c with ⟨letter, hescape, hletter, -⟩ | ⟨hescape, -⟩ | hescape
  · rw [hescape]
    exact congrArg some hletter
  · rw [hescape]
    rfl
  · rw [hescape]
    exact read?_number c

theorem char_injective (shown : Char → Bool) : (char shown).Injective := by
  intro c d h
  refine Option.some.inj ?_
  rw [← read?_char shown c, h, read?_char shown d]

theorem notMem_number {separator : Char} (h : separator ∈ ['\t', '\n']) (c : Char) :
    separator ∉ number c := by
  intro hmem
  rcases List.mem_append.mp hmem with hfront | hbrace
  · simp only [List.mem_cons] at hfront
    rcases hfront with rfl | rfl | rfl | hdigit
    · exact absurd h (by decide)
    · exact absurd h (by decide)
    · exact absurd h (by decide)
    · obtain ⟨m, hm, rfl⟩ := Toml.exists_digitChar_of_mem_toDigits hdigit
      have hother : ∀ m < 16, Nat.digitChar m ∉ ['\t', '\n'] := by decide
      exact hother m hm h
  · obtain rfl := List.mem_singleton.mp hbrace
    exact absurd h (by decide)

/-- Tabs and line breaks are written with a backslash. -/
theorem notMem_char {separator : Char} (h : separator ∈ ['\t', '\n']) (shown : Char → Bool)
    (c : Char) : separator ∉ char shown c := by
  have hbackslash : separator ≠ '\\' := ne_of_mem_of_not_mem h (by decide)
  have hquote : separator ≠ '\x27' := ne_of_mem_of_not_mem h (by decide)
  have hescape : separator ∉ escape shown '\x27' c := by
    rcases escape_cases shown c with ⟨letter, hescape, -, hletter⟩ | ⟨hescape, hc⟩ | hescape
    · simp [hescape, hbackslash, ne_of_mem_of_not_mem h hletter]
    · simp [hescape, ne_of_mem_of_not_mem h hc]
    · rw [hescape]
      exact notMem_number h c
  simp [char, hescape, hquote]

end Quote

/-! ## Positions -/

namespace Dump

theorem isDigit_of_mem_repr {n : Nat} {c : Char} (h : c ∈ n.repr.toList) : c.isDigit = true := by
  rw [Nat.toList_repr] at h
  exact Nat.isDigit_of_mem_toDigits (by decide) (by decide) h

theorem isDigit_or_of_mem_int_repr {i : Int} {c : Char} (h : c ∈ i.repr.toList) :
    c.isDigit = true ∨ c = '-' := by
  rw [Int.repr_eq_if] at h
  split at h
  · exact .inl (isDigit_of_mem_repr h)
  · rw [String.toList_append, List.mem_append] at h
    rcases h with hminus | hdigit
    · exact .inr (by simpa using hminus)
    · exact .inl (isDigit_of_mem_repr hdigit)

theorem ofDigitChars_repr (n : Nat) : Nat.ofDigitChars 10 n.repr.toList 0 = n := by
  rw [Nat.toList_repr, Nat.ofDigitChars_ten_toDigits]

/-- The number that digits stand for, behind a minus sign or alone. -/
def signed (cs : List Char) : Int :=
  if cs.head? = some '-' then -(Nat.ofDigitChars 10 cs.tail 0 : Int)
  else Nat.ofDigitChars 10 cs 0

theorem signed_repr (i : Int) : signed i.repr.toList = i := by
  rw [Int.repr_eq_if]
  split
  · next hsign =>
    have hhead : i.toNat.repr.toList.head? ≠ some '-' := fun hminus =>
      absurd (isDigit_of_mem_repr (List.mem_of_head? hminus)) (by decide)
    rw [signed, if_neg hhead, ofDigitChars_repr, Int.toNat_of_nonneg hsign]
  · next hsign =>
    have hminus : ("-" ++ (-i).toNat.repr).toList = '-' :: (-i).toNat.repr.toList := by simp
    rw [signed, hminus, List.head?_cons, if_pos rfl, List.tail_cons, ofDigitChars_repr]
    omega

theorem toList_toString (p : Position) :
    (toString p).toList = [':'].intercalate [p.line.repr.toList, p.column.repr.toList] := by
  change (p.line.repr ++ ":" ++ p.column.repr).toList = _
  simp

theorem isDigit_or_of_mem_toString {p : Position} {c : Char} (h : c ∈ (toString p).toList) :
    c.isDigit = true ∨ c = ':' := by
  rw [toList_toString] at h
  simp only [List.intercalate_cons_cons, List.intercalate_singleton, List.mem_append,
    List.mem_singleton] at h
  rcases h with (hline | hcolon) | hcolumn
  · exact .inl (isDigit_of_mem_repr hline)
  · exact .inr hcolon
  · exact .inl (isDigit_of_mem_repr hcolumn)

theorem toList_position (p : Position) :
    (position true p).toList = ['@'].intercalate [(toString p).toList, p.offset.repr.toList] := by
  change (toString p ++ "@" ++ p.offset.repr).toList = _
  simp

theorem isDigit_or_of_mem_position {offsets : Bool} {p : Position} {c : Char}
    (h : c ∈ (position offsets p).toList) : c.isDigit = true ∨ c ∈ [':', '@', '-'] := by
  have htoString (hplace : c ∈ (toString p).toList) : c.isDigit = true ∨ c ∈ [':', '@', '-'] :=
    (isDigit_or_of_mem_toString hplace).imp_right fun hcolon => by simp [hcolon]
  cases offsets with
  | false => exact htoString h
  | true =>
    rw [toList_position] at h
    simp only [List.intercalate_cons_cons, List.intercalate_singleton, List.mem_append,
      List.mem_singleton] at h
    rcases h with (hplace | hat) | hoffset
    · exact htoString hplace
    · exact .inr (by simp [hat])
    · exact (isDigit_or_of_mem_int_repr hoffset).imp_right fun hminus => by simp [hminus]

theorem fields_toString (p : Position) :
    fields ':' (toString p).toList = [p.line.repr.toList, p.column.repr.toList] := by
  rw [toList_toString]
  refine fields_intercalate (fun piece hpiece hcolon => ?_) (List.cons_ne_nil _ _)
  have hdigit : Char.isDigit ':' = true := by
    simp only [List.mem_cons, List.not_mem_nil, or_false] at hpiece
    rcases hpiece with rfl | rfl
    · exact isDigit_of_mem_repr hcolon
    · exact isDigit_of_mem_repr hcolon
  exact absurd hdigit (by decide)

theorem fields_position (p : Position) :
    fields '@' (position true p).toList = [(toString p).toList, p.offset.repr.toList] := by
  rw [toList_position]
  refine fields_intercalate (fun piece hpiece hat => ?_) (List.cons_ne_nil _ _)
  simp only [List.mem_cons, List.not_mem_nil, or_false] at hpiece
  rcases hpiece with rfl | rfl
  · exact absurd (isDigit_or_of_mem_toString hat) (by decide)
  · exact absurd (isDigit_or_of_mem_int_repr hat) (by decide)

/-- Positions with their offset are printed each in its own way. -/
theorem position_injective : (position true).Injective := by
  intro p q h
  have hparts := (fields_position p).symm.trans (h ▸ fields_position q)
  obtain ⟨hplace, hoffset⟩ : (toString p).toList = (toString q).toList ∧
      p.offset.repr.toList = q.offset.repr.toList := by simpa using hparts
  have hcounts := (fields_toString p).symm.trans (hplace ▸ fields_toString q)
  obtain ⟨hline, hcolumn⟩ : p.line.repr.toList = q.line.repr.toList ∧
      p.column.repr.toList = q.column.repr.toList := by simpa using hcounts
  cases p
  cases q
  simp only [Position.mk.injEq]
  refine ⟨?_, ?_, ?_⟩
  · simpa only [signed_repr] using congrArg signed hoffset
  · simpa only [ofDigitChars_repr] using congrArg (Nat.ofDigitChars 10 · 0) hline
  · simpa only [ofDigitChars_repr] using congrArg (Nat.ofDigitChars 10 · 0) hcolumn

end Dump

end TextScan
