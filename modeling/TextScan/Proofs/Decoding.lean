import TextScan.Text

/-! Ranges and single characters. Decoding a range goes on from one character to
the next (`decodeRange_of_width_le`), a byte within a character starts none
(`decode_within_width`), and the range of all bytes is the text itself
(`decodeRange_zero_size`). -/

namespace TextScan.Text

variable {t : Text} {i j k : Nat} {c : Char}

/-! ## Bytes of a character -/

theorem encode_of_decode (h : t.bytes.utf8DecodeChar? i = some c) :
    (String.utf8EncodeChar c).toByteArray = t.bytes.extract i (i + c.utf8Size) := by
  have hencode := ByteArray.utf8EncodeChar_utf8DecodeChar (b := t.bytes) (i := i) (h := by simp [h])
  simpa only [ByteArray.utf8DecodeChar, h, Option.get_some] using hencode

theorem getElem_of_decode (h : t.bytes.utf8DecodeChar? i = some c) (hk : k < c.utf8Size) :
    ∃ (hlt : i + k < t.bytes.size) (hk' : k < (String.utf8EncodeChar c).length),
      t.bytes[i + k] = (String.utf8EncodeChar c)[k] := by
  have hle := ByteArray.le_size_of_utf8DecodeChar?_eq_some h
  have hlen : k < (String.utf8EncodeChar c).length := by simpa using hk
  refine ⟨by omega, hlen, ?_⟩
  simp only [List.getElem_eq_getElem_toByteArray, encode_of_decode h, ByteArray.getElem_extract]

theorem decode_within (h : t.bytes.utf8DecodeChar? i = some c) (hpos : 0 < k)
    (hk : k < c.utf8Size) : t.bytes.utf8DecodeChar? (i + k) = none := by
  obtain ⟨hlt, hlen, hbyte⟩ := getElem_of_decode h hk
  cases hd : t.bytes.utf8DecodeChar? (i + k) with
  | none => rfl
  | some d =>
    have hfirst := ByteArray.isUTF8FirstByte_of_isSome_utf8DecodeChar? (Option.isSome_of_eq_some hd)
    rw [hbyte, UInt8.isUTF8FirstByte_getElem_utf8EncodeChar] at hfirst
    omega

theorem decode_eq_lineFeed_iff :
    t.bytes.utf8DecodeChar? i = some lineFeed ↔ t.bytes[i]? = some 0x0A := by
  constructor
  · intro h
    obtain ⟨hlt, _, hbyte⟩ := getElem_of_decode (k := 0) h (by decide)
    rw [getElem?_pos t.bytes i hlt]
    exact congrArg some hbyte
  · intro h
    obtain ⟨hlt, hbyte⟩ := getElem?_eq_some_iff.mp h
    rw [ByteArray.utf8DecodeChar?_eq_utf8DecodeChar?_extract,
      ByteArray.extract_eq_extract_append_extract (i + 1) (by omega) (by omega),
      ByteArray.extract_add_one (by omega), hbyte]
    exact ByteArray.utf8DecodeChar?_utf8EncodeChar_append (c := '\n')

theorem lineFeedAt_iff : t.lineFeedAt i = true ↔ t.bytes.utf8DecodeChar? i = some lineFeed := by
  rw [decode_eq_lineFeed_iff, lineFeedAt]
  by_cases h : i < t.size
  · simp [index?_eq_some_iff.mpr ⟨rfl, h⟩]
  · rw [index?_eq_none_iff.mpr (Or.inr (by omega)), getElem?_neg t.bytes i h]
    simp

/-! ## Characters at an offset -/

theorem decodeAt_eq_of_decode (h : t.bytes.utf8DecodeChar? i = some c) :
    t.decodeAt i = (c, c.utf8Size) := by
  simp [decodeAt, h]

theorem decodeAt_fst_eq_iff (hc : c ≠ replacement) :
    (t.decodeAt i).1 = c ↔ t.bytes.utf8DecodeChar? i = some c := by
  rw [decodeAt]
  split
  · next d hd => simp [hd]
  · next hn => simp [hn, hc.symm]

theorem decodeAt_of_fst_eq (hc : c ≠ replacement) (h : (t.decodeAt i).1 = c) :
    t.decodeAt i = (c, c.utf8Size) :=
  decodeAt_eq_of_decode ((decodeAt_fst_eq_iff hc).mp h)

theorem decode_within_width (hpos : 0 < k) (hk : k < (t.decodeAt i).2) :
    t.bytes.utf8DecodeChar? (i + k) = none := by
  cases h : t.bytes.utf8DecodeChar? i with
  | none => simp only [decodeAt, h] at hk; omega
  | some c =>
    rw [decodeAt_eq_of_decode h] at hk
    exact decode_within h hpos hk

/-! ## Characters of a range -/

theorem decodeRange_of_width_le (h : i + (t.decodeAt i).2 ≤ j) :
    t.decodeRange i j = (t.decodeAt i).1 :: t.decodeRange (i + (t.decodeAt i).2) j := by
  have hpos := decodeAt_width_pos t i
  rw [decodeRange_of_lt (by omega)]
  cases hd : t.bytes.utf8DecodeChar? i with
  | none => simp [decodeAt, hd]
  | some c =>
    rw [decodeAt_eq_of_decode hd] at h ⊢
    exact if_pos h

theorem decodeRange_width (t : Text) (i : Nat) :
    t.decodeRange i (i + (t.decodeAt i).2) = [(t.decodeAt i).1] := by
  rw [decodeRange_of_width_le (Nat.le_refl _), decodeRange_of_le (Nat.le_refl _)]

/-- A range is cut in two behind its first character. -/
theorem decodeRange_append_width (hj : i + (t.decodeAt i).2 ≤ j) :
    t.decodeRange i j =
      t.decodeRange i (i + (t.decodeAt i).2) ++ t.decodeRange (i + (t.decodeAt i).2) j := by
  rw [decodeRange_of_width_le hj, decodeRange_width, List.singleton_append]

/-- The same behind a carriage return and the line feed that belongs to it. -/
theorem decodeRange_append_return (hx : (t.decodeAt i).1 = carriageReturn)
    (hj : (if t.lineFeedAt (i + 1 : Nat) then i + 2 else i + 1) ≤ j) :
    t.decodeRange i j =
      t.decodeRange i (if t.lineFeedAt (i + 1 : Nat) then i + 2 else i + 1) ++
        t.decodeRange (if t.lineFeedAt (i + 1 : Nat) then i + 2 else i + 1) j := by
  have hreturn {k : Nat} (hk : i + 1 ≤ k) :
      t.decodeRange i k = t.decodeRange i (i + 1) ++ t.decodeRange (i + 1) k := by
    have hcut := decodeRange_append_width (t := t) (i := i) (j := k)
    rw [decodeAt_of_fst_eq (by decide) hx] at hcut
    exact hcut hk
  split at hj
  · next hfeed =>
    have hcut := decodeRange_append_width (t := t) (i := i + 1) (j := j)
    rw [decodeAt_eq_of_decode (lineFeedAt_iff.mp hfeed)] at hcut
    rw [if_pos hfeed, hreturn (by omega), hreturn (k := i + 2) (by omega), List.append_assoc]
    exact congrArg (t.decodeRange i (i + 1) ++ ·) (hcut hj)
  · next hfeed =>
    rw [if_neg hfeed]
    exact hreturn hj

/-- A character that is cut at the end of the range. -/
theorem decodeRange_of_lt_width (h : i < j) (hcut : j < i + (t.decodeAt i).2) :
    t.decodeRange i j = [replacement] := by
  rw [decodeRange_of_lt h]
  cases hd : t.bytes.utf8DecodeChar? i with
  | none => simp only [decodeAt, hd] at hcut; omega
  | some c =>
    rw [decodeAt_eq_of_decode hd] at hcut
    exact if_neg (Nat.not_le_of_lt hcut)

/-- A range is cut in two where a character starts. -/
theorem decodeRange_append {i j k : Nat} (hij : i ≤ j) (hjk : j ≤ k)
    (hj : (t.bytes.utf8DecodeChar? j).isSome) :
    t.decodeRange i k = t.decodeRange i j ++ t.decodeRange j k := by
  by_cases hlt : i < j
  · have hpos := decodeAt_width_pos t i
    have hwidth : i + (t.decodeAt i).2 ≤ j := by
      refine Nat.le_of_not_lt fun hcut => ?_
      obtain ⟨w, rfl⟩ := Nat.exists_eq_add_of_lt hlt
      have hnone : t.bytes.utf8DecodeChar? (i + (w + 1)) = none :=
        decode_within_width (by omega) (by omega)
      rw [Nat.add_assoc, hnone] at hj
      exact nomatch hj
    rw [decodeRange_of_width_le (Nat.le_trans hwidth hjk), decodeRange_of_width_le hwidth,
      decodeRange_append hwidth hjk hj, List.cons_append]
  · obtain rfl : i = j := by omega
    rw [decodeRange_of_le (Nat.le_refl _), List.nil_append]
termination_by j - i

theorem decode_of_head?_decodeRange (hc : c ≠ replacement)
    (h : (t.decodeRange i j).head? = some c) : t.bytes.utf8DecodeChar? i = some c := by
  by_cases hlt : i < j
  · rw [decodeRange_of_lt hlt] at h
    split at h
    · next d hd =>
      split at h
      · simp only [List.head?_cons] at h
        rw [hd, h]
      · exact absurd (by simpa using h.symm) hc
    · exact absurd (by simpa using h.symm) hc
  · simp [decodeRange_of_le (Nat.le_of_not_lt hlt)] at h

theorem decodeRange_utf8Encode (pre : ByteArray) (cs : List Char)
    (h : t.bytes = pre ++ cs.utf8Encode) : t.decodeRange pre.size t.size = cs := by
  induction cs generalizing pre with
  | nil =>
    refine decodeRange_of_le ?_
    simp [size, h]
  | cons c cs ih =>
    have hdecode : t.bytes.utf8DecodeChar? pre.size = some c := by
      rw [ByteArray.utf8DecodeChar?_eq_utf8DecodeChar?_extract, h,
        ByteArray.extract_append_eq_right rfl (by simp)]
      simp
    have hle := ByteArray.le_size_of_utf8DecodeChar?_eq_some hdecode
    rw [decodeRange_of_width_le (by rw [decodeAt_eq_of_decode hdecode]; exact hle),
      decodeAt_eq_of_decode hdecode]
    have hsize : pre.size + c.utf8Size = (pre ++ [c].utf8Encode).size := by
      simp [List.utf8Encode_singleton]
    rw [hsize, ih _ (by rw [h, List.utf8Encode_cons, ByteArray.append_assoc])]

theorem decodeRange_zero_size (t : Text) : t.decodeRange 0 t.size = t.toString.toList := by
  have hbytes : t.bytes = ByteArray.empty ++ t.toString.toList.utf8Encode := by
    rw [ByteArray.empty_append]
    exact (congrArg String.toByteArray (String.ofList_toList (s := t.toString))).symm
  exact decodeRange_utf8Encode ByteArray.empty _ hbytes

/-- The characters between two offsets, as far as these reach into the text; none
where the first lies outside or behind the second. -/
def between (t : Text) (start stop : Int) : List Char :=
  if 0 ≤ start ∧ start < t.size then t.decodeRange start.toNat (min stop.toNat t.size) else []

theorem between_of_inside {start stop : Int} (h : 0 ≤ start) (hlt : start < t.size)
    (hstop : stop ≤ t.size) : t.between start stop = t.decodeRange start.toNat stop.toNat := by
  rw [between, if_pos ⟨h, hlt⟩, Nat.min_eq_left (by omega)]

theorem between_of_outside {start stop : Int} (h : start < 0 ∨ (t.size : Int) ≤ start) :
    t.between start stop = [] := by
  rw [between, if_neg (by omega)]

theorem between_zero_size (t : Text) : t.between 0 t.size = t.toString.toList := by
  rw [← decodeRange_zero_size]
  by_cases h : 0 < t.size
  · exact between_of_inside (Int.le_refl 0) (by omega) (Int.le_refl _)
  · rw [between_of_outside (by omega), decodeRange_of_le (by omega)]

end TextScan.Text
