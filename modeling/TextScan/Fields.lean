/-! Texts cut into fields at each separator. -/

namespace TextScan

/-- The pieces between separators, of which there is always one more. -/
def fields (separator : Char) : List Char → List (List Char)
  | [] => [[]]
  | c :: rest =>
    if c = separator then [] :: fields separator rest
    else
      match fields separator rest with
      | first :: others => (c :: first) :: others
      | [] => [[c]]

theorem fields_ne_nil (separator : Char) (cs : List Char) : fields separator cs ≠ [] := by
  cases cs with
  | nil => simp [fields]
  | cons c rest =>
    rw [fields]
    split
    · simp
    · split <;> simp

theorem fields_eq_splitOn (separator : Char) (cs : List Char) :
    fields separator cs = cs.splitOn separator := by
  induction cs with
  | nil => rfl
  | cons c rest ih =>
    obtain ⟨first, others, hrest⟩ := List.exists_cons_of_ne_nil (fields_ne_nil separator rest)
    rw [fields, List.splitOn_cons_eq_if_modifyHead, ← ih, hrest]
    by_cases h : c = separator
    · simp [h]
    · simp [h]

/-- A text is cut at each of its separators. -/
theorem fields_append_cons (separator : Char) (front back : List Char) :
    fields separator (front ++ separator :: back) =
      fields separator front ++ fields separator back := by
  simp only [fields_eq_splitOn]
  exact List.splitOnP_append_cons front back (beq_self_eq_true separator)

/-- Pieces that are put together with separators between them are cut apart again. -/
theorem fields_intercalate {separator : Char} {pieces : List (List Char)}
    (hfree : ∀ piece ∈ pieces, separator ∉ piece) (hne : pieces ≠ []) :
    fields separator ([separator].intercalate pieces) = pieces := by
  rw [fields_eq_splitOn, List.splitOn_intercalate separator hfree hne]

end TextScan
