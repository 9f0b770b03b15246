/-! Texts with byte offsets. A text is valid UTF-8 kept as an array of bytes,
so that an offset is an array index. An offset may fall inside a character or
outside the text: inside, each byte reads as one U+FFFD; outside there is
nothing to read. -/

namespace TextScan

/-- A line feed, the only line break a scanner produces. -/
abbrev lineFeed : Char := '\n'

/-- A carriage return, alone or before a line feed also a line break. -/
abbrev carriageReturn : Char := '\r'

/-- U+FFFD, which stands for bytes that are no character. -/
abbrev replacement : Char := '\uFFFD'

structure Text where
  bytes : ByteArray
  valid : bytes.IsValidUTF8

namespace Text

def ofString (s : String) : Text := ⟨s.toByteArray, s.isValidUTF8⟩

def toString (t : Text) : String := String.ofByteArray t.bytes t.valid

@[simp] theorem toString_ofString (s : String) : (ofString s).toString = s := rfl

@[simp] theorem ofString_toString (t : Text) : ofString t.toString = t := rfl

def size (t : Text) : Nat := t.bytes.size

/-- The byte index an offset stands for, if it lies inside the text. -/
def index? (t : Text) (offset : Int) : Option Nat :=
  if 0 ≤ offset ∧ offset < t.size then some offset.toNat else none

theorem index?_eq_some_iff {t : Text} {offset : Int} {i : Nat} :
    t.index? offset = some i ↔ offset = i ∧ i < t.size := by
  unfold index?
  split <;> simp <;> omega

theorem index?_eq_none_iff {t : Text} {offset : Int} :
    t.index? offset = none ↔ offset < 0 ∨ (t.size : Int) ≤ offset := by
  unfold index?
  split <;> simp <;> omega

/-- The character that starts at a byte, with its width. A byte that starts
none is a character of its own. -/
def decodeAt (t : Text) (i : Nat) : Char × Nat :=
  match t.bytes.utf8DecodeChar? i with
  | some c => (c, c.utf8Size)
  | none => (replacement, 1)

theorem decodeAt_width_pos (t : Text) (i : Nat) : 0 < (t.decodeAt i).2 := by
  unfold decodeAt
  split
  · exact Char.utf8Size_pos _
  · exact Nat.one_pos

theorem decodeAt_width_le (t : Text) {i : Nat} (h : i < t.size) :
    i + (t.decodeAt i).2 ≤ t.size := by
  unfold decodeAt
  split
  · exact ByteArray.le_size_of_utf8DecodeChar?_eq_some (by assumption)
  · exact h

/-- The characters of the bytes from `i` to `j`, in front of which stand those of
`acc`: one U+FFFD for each byte of a character that started before `i`, and one
for a character that is cut at `j`. -/
def decodeOnto (t : Text) (acc : Array Char) (i j : Nat) : Array Char :=
  if i < j then
    match t.bytes.utf8DecodeChar? i with
    | some c => if i + c.utf8Size ≤ j then decodeOnto t (acc.push c) (i + c.utf8Size) j
        else acc.push replacement
    | none => decodeOnto t (acc.push replacement) (i + 1) j
  else acc
termination_by j - i
decreasing_by
  · have := Char.utf8Size_pos c; omega
  · omega

/-- The characters of the bytes from `i` to `j`. -/
def decodeRange (t : Text) (i j : Nat) : List Char := (t.decodeOnto #[] i j).toList

theorem decodeOnto_eq (t : Text) (acc : Array Char) (i j : Nat) :
    t.decodeOnto acc i j = acc ++ t.decodeOnto #[] i j := by
  rw [decodeOnto, decodeOnto.eq_1 t #[]]
  split
  · split
    · next c _ =>
      have hc := Char.utf8Size_pos c
      split
      · rw [decodeOnto_eq t (acc.push c), decodeOnto_eq t (#[].push c)]
        simp
      · simp
    · rw [decodeOnto_eq t (acc.push replacement), decodeOnto_eq t (#[].push replacement)]
      simp
  · simp
termination_by j - i

theorem decodeRange_of_le {t : Text} {i j : Nat} (h : j ≤ i) : t.decodeRange i j = [] := by
  rw [decodeRange, decodeOnto, if_neg (by omega)]

theorem decodeRange_of_lt {t : Text} {i j : Nat} (h : i < j) :
    t.decodeRange i j =
      match t.bytes.utf8DecodeChar? i with
      | some c => if i + c.utf8Size ≤ j then c :: t.decodeRange (i + c.utf8Size) j
          else [replacement]
      | none => replacement :: t.decodeRange (i + 1) j := by
  conv => lhs; rw [decodeRange, decodeOnto, if_pos h]
  split
  · split
    · rw [decodeOnto_eq]; simp [decodeRange]
    · rfl
  · rw [decodeOnto_eq]; simp [decodeRange]

/-- Whether the byte at `offset` is a line feed. -/
def lineFeedAt (t : Text) (offset : Int) : Bool :=
  match t.index? offset with
  | some i => t.bytes[i]? == some 0x0A
  | none => false

theorem lt_size_of_lineFeedAt {t : Text} {offset : Int} (h : t.lineFeedAt offset = true) :
    0 ≤ offset ∧ offset < t.size := by
  unfold lineFeedAt at h
  split at h
  · next i hi =>
    obtain ⟨rfl, hlt⟩ := index?_eq_some_iff.mp hi
    omega
  · contradiction

end Text

end TextScan
