import TextScan.Config.Toml
import TextScan.Proofs.TomlStrings

/-! Documents line by line. A document that is made of headers and pairs with bare keys, each
on a line of its own, is read as these statements one after the other; what a value has
to be written like for this is `IsWritten`, and all flags and strings are. The document
of a configuration is made of such lines, so it is read as that configuration
(`ofToml?_toToml`), and so is the standard document (`ofToml?_standardToml`). -/

namespace TextScan.Toml

variable {key w rest : List Char} {v : Value}

/-! ## Keys -/

/-- A key that needs no quotes. -/
def IsBareKey (key : List Char) : Prop := key ≠ [] ∧ ∀ c ∈ key, isBare c = true

instance : Decidable (IsBareKey key) :=
  decidable_of_iff (key ≠ [] ∧ key.all isBare = true) (and_congr_right' List.all_eq_true)

theorem ne_of_isBare {c d : Char} (hc : isBare c = true) (hd : isBare d = false) : c ≠ d := by
  rintro rfl
  exact Bool.false_ne_true (hd.symm.trans hc)

theorem isSpace_of_isBare {c : Char} (hc : isBare c = true) : isSpace c = false := by
  have hspace : c ≠ ' ' := ne_of_isBare hc (by decide)
  have htab : c ≠ '\t' := ne_of_isBare hc (by decide)
  simp [isSpace, hspace, htab]

theorem IsBareKey.exists_cons (h : IsBareKey key) :
    ∃ c cs, key = c :: cs ∧ isBare c = true := by
  obtain ⟨c, cs, rfl⟩ := List.exists_cons_of_ne_nil h.1
  exact ⟨c, cs, rfl, h.2 c List.mem_cons_self⟩

theorem keyPart?_append (hkey : IsBareKey key)
    (hrest : ∀ c, rest.head? = some c → isBare c = false) :
    keyPart? (key ++ rest) = some (String.ofList key, rest) := by
  have htake : (key ++ rest).takeWhile isBare = key := by
    rw [List.takeWhile_append_of_pos hkey.2]
    cases rest with
    | nil => simp
    | cons d rest => simp [hrest d rfl]
  have hdrop : (key ++ rest).dropWhile isBare = rest := by
    rw [List.dropWhile_append_of_pos hkey.2]
    cases rest with
    | nil => rfl
    | cons d rest => simp [hrest d rfl]
  obtain ⟨c, cs, hcons, hc⟩ := hkey.exists_cons
  rw [keyPart?]
  · simp [htake, hdrop, hkey.1]
  · intro after hopen
    rw [hcons] at hopen
    exact ne_of_isBare hc (by decide) (List.cons.inj hopen).1
  · intro after hopen
    rw [hcons] at hopen
    exact ne_of_isBare hc (by decide) (List.cons.inj hopen).1

theorem skipSpaces_append (hkey : IsBareKey key) (rest : List Char) :
    skipSpaces (key ++ rest) = key ++ rest := by
  obtain ⟨c, cs, rfl, hc⟩ := hkey.exists_cons
  simp [skipSpaces, isSpace_of_isBare hc]

theorem skipSpaces_replicate (n : Nat) (rest : List Char) :
    skipSpaces (List.replicate n ' ' ++ rest) = skipSpaces rest := by
  have hspaces : ∀ c ∈ List.replicate n ' ', isSpace c = true := by
    intro c hc
    rw [List.eq_of_mem_replicate hc]
    rfl
  exact List.dropWhile_append_of_pos hspaces

/-- A bare key with no dot behind it is a key of one part. -/
theorem key?_append (hkey : IsBareKey key) (hrest : ∀ c, rest.head? = some c → isBare c = false)
    (hdot : (skipSpaces rest).head? ≠ some '.') :
    key? (key ++ rest) = some ([String.ofList key], skipSpaces rest) := by
  rw [key?, maxDepth, keyWithin?, skipSpaces_append hkey, keyPart?_append hkey hrest]
  dsimp only [Option.bind_eq_bind, Option.bind_some]
  split
  · next h => simp [h] at hdot
  · rfl

/-! ## Lines -/

def headerLine (key : List Char) : List Char := '[' :: (key ++ [']', '\n'])

/-- A key with so many spaces behind it, and its value. -/
def pairLine (gap : Nat) (key w : List Char) : List Char :=
  key ++ (List.replicate gap ' ' ++ '=' :: ' ' :: (w ++ ['\n']))

/-- A way to write a value that the reader understands at the end of a line. -/
structure IsWritten (v : Value) (w : List Char) : Prop where
  head : ∀ c, w.head? = some c → isSpace c = false
  read : ∀ rest, value? maxDepth (w ++ '\n' :: rest) = some (v, '\n' :: rest)

theorem statement?_headerLine (hkey : IsBareKey key) (rest : List Char) :
    statement? (headerLine key ++ rest) = some (.header [String.ofList key], rest) := by
  have hread : key? (key ++ ']' :: '\n' :: rest) =
      some ([String.ofList key], ']' :: '\n' :: rest) :=
    key?_append hkey (by simp; decide) (by simp [skipSpaces, isSpace])
  have hline : headerLine key ++ rest = '[' :: (key ++ ']' :: '\n' :: rest) := by
    simp [headerLine]
  rw [hline, statement?]
  · rw [hread]
    rfl
  · intro after hopen
    obtain ⟨c, cs, hcons, hc⟩ := hkey.exists_cons
    rw [hcons] at hopen
    exact ne_of_isBare hc (by decide) (List.cons.inj hopen).1

theorem statement?_pairLine (hkey : IsBareKey key) (hw : IsWritten v w) (gap : Nat)
    (rest : List Char) :
    statement? (pairLine gap key w ++ rest) = some (.pair [String.ofList key] v, rest) := by
  have hgap (rest : List Char) :
      skipSpaces (List.replicate gap ' ' ++ '=' :: rest) = '=' :: rest := skipSpaces_replicate ..
  have hread (rest : List Char) : key? (key ++ (List.replicate gap ' ' ++ '=' :: rest)) =
      some ([String.ofList key], '=' :: rest) := by
    rw [key?_append hkey _ (by simp [hgap]), hgap]
    cases gap with
    | zero => simp; decide
    | succ gap => simp [List.replicate_succ]; decide
  have hspace : skipSpaces (' ' :: (w ++ '\n' :: rest)) = w ++ '\n' :: rest := by
    cases w with
    | nil => rfl
    | cons c w =>
      have hblank : isSpace ' ' = true := rfl
      simp [skipSpaces, hblank, hw.head c rfl]
  have hline : pairLine gap key w ++ rest =
      key ++ (List.replicate gap ' ' ++ '=' :: ' ' :: (w ++ '\n' :: rest)) := by
    simp [pairLine]
  obtain ⟨c, cs, hcons, hc⟩ := hkey.exists_cons
  rw [hline, statement?]
  · simp only [hread, Option.bind_eq_bind, Option.bind_some, char?, if_true, hspace, hw.read]
    rfl
  · intro after hopen
    rw [hcons] at hopen
    exact ne_of_isBare hc (by decide) (List.cons.inj hopen).1
  · intro after hopen
    rw [hcons] at hopen
    exact ne_of_isBare hc (by decide) (List.cons.inj hopen).1

theorem endLine?_cons {c : Char} (hspace : isSpace c = false) (hcomment : c ≠ '#')
    (hfeed : c ≠ '\n') (hreturn : c ≠ '\r') (cs : List Char) : endLine? (c :: cs) = none := by
  simp [endLine?, skipSpaces, hspace, hcomment, newline?, hfeed, hreturn]

/-- A statement at the front of a text, which is not blank there, is the first one of all. -/
theorem statements?_cons {n : Nat} {cs after : List Char} {st : Statement}
    (hend : endLine? cs = none) (hspace : skipSpaces cs = cs)
    (h : statement? cs = some (st, after)) :
    statements? (n + 1) cs = (statements? n after).map (st :: ·) := by
  have hne : cs ≠ [] := by
    rintro rfl
    exact nomatch hend
  rw [statements?]
  simp only [List.isEmpty_iff, hne, if_false, hend, hspace, h, Option.bind_eq_bind,
    Option.bind_some]
  cases statements? n after <;> rfl

theorem statements?_headerLine (hkey : IsBareKey key) (n : Nat) (rest : List Char) :
    statements? (n + 1) (headerLine key ++ rest) =
      (statements? n rest).map (.header [String.ofList key] :: ·) := by
  refine statements?_cons ?_ rfl (statement?_headerLine hkey rest)
  exact endLine?_cons (by decide) (by decide) (by decide) (by decide) _

theorem statements?_pairLine (hkey : IsBareKey key) (hw : IsWritten v w) (n gap : Nat)
    (rest : List Char) :
    statements? (n + 1) (pairLine gap key w ++ rest) =
      (statements? n rest).map (.pair [String.ofList key] v :: ·) := by
  refine statements?_cons ?_ ?_ (statement?_pairLine hkey hw gap rest)
  · obtain ⟨c, cs, rfl, hc⟩ := hkey.exists_cons
    exact endLine?_cons (isSpace_of_isBare hc) (ne_of_isBare hc (by decide))
      (ne_of_isBare hc (by decide)) (ne_of_isBare hc (by decide)) _
  · rw [pairLine, List.append_assoc]
    exact skipSpaces_append hkey _

theorem statements?_lineFeed (n : Nat) (rest : List Char) :
    statements? (n + 1) ('\n' :: rest) = statements? n rest := rfl

/-! ## Values -/

theorem value?_of_head {cs : List Char} {c : Char} (hhead : cs.head? = some c) (harray : c ≠ '[')
    (htable : c ≠ '\x7b') : value? maxDepth cs = scalarValue? cs := by
  obtain ⟨cs, rfl⟩ := List.head?_eq_some_iff.mp hhead
  rw [maxDepth, value?]
  · intro after h
    exact harray (List.cons.inj h).1
  · intro after h
    exact htable (List.cons.inj h).1

theorem isWritten_flagName (b : Bool) :
    IsWritten (.boolean b) (Config.flagName b).toList := by
  cases b with
  | false =>
    refine ⟨fun c hc => ?_, fun rest => ?_⟩
    · obtain rfl : 'f' = c := Option.some.inj hc
      rfl
    · rw [value?_of_head rfl (by decide) (by decide)]
      rfl
  | true =>
    refine ⟨fun c hc => ?_, fun rest => ?_⟩
    · obtain rfl : 't' = c := Option.some.inj hc
      rfl
    · rw [value?_of_head rfl (by decide) (by decide)]
      rfl

theorem head?_writeText (s : List Char) :
    ∃ quote ∈ ['"', '\x27'], (writeText s).head? = some quote := by
  unfold writeText
  cases styleOf s with
  | basic | longBasic => exact ⟨'"', by decide, rfl⟩
  | literal | longLiteral => exact ⟨'\x27', by decide, rfl⟩

theorem isWritten_writeText (s : List Char) :
    IsWritten (.string (String.ofList s)) (writeText s) := by
  obtain ⟨quote, hquote, hhead⟩ := head?_writeText s
  obtain ⟨hspace, harray, htable, htrue, hfalse⟩ : isSpace quote = false ∧ quote ≠ '[' ∧
      quote ≠ '\x7b' ∧ quote ≠ 't' ∧ quote ≠ 'f' := by
    obtain rfl | rfl : quote = '"' ∨ quote = '\x27' := by simpa using hquote
    · decide
    · decide
  refine ⟨fun c hc => ?_, fun rest => ?_⟩
  · obtain rfl := Option.some.inj (hc.symm.trans hhead)
    exact hspace
  · have hread : text? (writeText s ++ '\n' :: rest) = some (s, '\n' :: rest) :=
      text?_writeText s (by simp)
    obtain ⟨w, hw⟩ := List.head?_eq_some_iff.mp hhead
    rw [hw] at hread ⊢
    rw [value?_of_head rfl harray htable, scalarValue?, hread]
    · intro after h
      exact htrue (List.cons.inj h).1
    · intro after h
      exact hfalse (List.cons.inj h).1

end TextScan.Toml

/-! ## The document of a configuration -/

namespace TextScan.Config

open Toml

/-- A document with all settings, each key with a gap of its own. -/
def linesOf (c : Config) (mode showEnd offsets start : Nat) : List Char :=
  headerLine "output".toList ++ (pairLine mode "Mode".toList (writeText c.mode.name.toList) ++
    (pairLine showEnd "ShowEof".toList (flagName c.showEnd).toList ++
      (pairLine offsets "Offsets".toList (flagName c.offsets).toList ++
        '\n' :: (headerLine "scan".toList ++
          (pairLine start "Start".toList (writeText c.start.toList) ++ [])))))

/-- Literal pieces of text are cut where a key, a value or a line ends. -/
theorem toList_toToml (c : Config) : c.toToml.toList = c.linesOf 1 1 1 1 := by
  have hmode : writeText c.mode.name.toList = '"' :: c.mode.name.toList ++ ['"'] := by
    cases c.mode <;> decide +kernel
  have houtput : "[output]\nMode = \"".toList =
      headerLine "output".toList ++ "Mode".toList ++ [' ', '=', ' ', '"'] := by decide +kernel
  have hshowEnd : "\"\nShowEof = ".toList =
      '"' :: '\n' :: "ShowEof".toList ++ [' ', '=', ' '] := by decide +kernel
  have hoffsets : "\nOffsets = ".toList =
      '\n' :: "Offsets".toList ++ [' ', '=', ' '] := by decide +kernel
  have hscan : "\n\n[scan]\nStart = ".toList =
      '\n' :: '\n' :: headerLine "scan".toList ++ "Start".toList ++ [' ', '=', ' '] := by
    decide +kernel
  have hend : "\n".toList = ['\n'] := by decide +kernel
  unfold toToml linesOf
  simp only [String.toList_append, String.toList_ofList, houtput, hshowEnd, hoffsets, hscan, hend,
    hmode, pairLine, List.replicate_one, List.append_assoc, List.cons_append, List.nil_append,
    List.append_nil]

theorem toList_standardToml : standardToml.toList = linesOf {} 4 1 1 3 := by decide +kernel

variable {c : Config} {mode showEnd offsets start : Nat}

theorem statements?_linesOf {cs : List Char} (h : cs = c.linesOf mode showEnd offsets start) :
    statements? cs.length cs = some
      [.header ["output"], .pair ["Mode"] (.string c.mode.name),
        .pair ["ShowEof"] (.boolean c.showEnd), .pair ["Offsets"] (.boolean c.offsets),
        .header ["scan"], .pair ["Start"] (.string c.start)] := by
  have hlong : 7 ≤ cs.length := by
    have hheader : (headerLine "output".toList).length = 9 := by decide +kernel
    rw [h, linesOf, List.length_append, hheader]
    omega
  obtain ⟨n, hn⟩ := Nat.exists_eq_add_of_le' hlong
  have hend : statements? n [] = some [] := by cases n <;> rfl
  rw [hn, h, linesOf,
    statements?_headerLine (by decide +kernel),
    statements?_pairLine (by decide +kernel) (isWritten_writeText _),
    statements?_pairLine (by decide +kernel) (isWritten_flagName _),
    statements?_pairLine (by decide +kernel) (isWritten_flagName _),
    statements?_lineFeed,
    statements?_headerLine (by decide +kernel),
    statements?_pairLine (by decide +kernel) (isWritten_writeText _), hend]
  simp only [Option.map_some, String.ofList_toList]

/-- The tables of a configuration's document. -/
def tables (c : Config) : Entries :=
  [("output", .table .header [("Mode", .string c.mode.name), ("ShowEof", .boolean c.showEnd),
    ("Offsets", .boolean c.offsets)]),
   ("scan", .table .header [("Start", .string c.start)])]

theorem read?_of_linesOf {document : String}
    (h : document.toList = c.linesOf mode showEnd offsets start) :
    read? document = some c.tables := by
  have hstatements := statements?_linesOf h
  obtain ⟨cs, hcs⟩ : ∃ cs, document.toList = '[' :: cs := ⟨_, h⟩
  rw [hcs] at hstatements
  unfold read?
  rw [hcs]
  refine (congrArg (· >>= _) hstatements).trans ?_
  rfl

theorem ofEntries?_tables (c : Config) : ofEntries? c.tables = some c := by
  have houtput : section? "output" ["Mode", "ShowEof", "Offsets"] c.tables =
      some [some (.string c.mode.name), some (.boolean c.showEnd), some (.boolean c.offsets)] := rfl
  have hscan : section? "scan" ["Start"] c.tables = some [some (.string c.start)] := rfl
  have hmode : modeOf? (.string c.mode.name) = some c.mode := Mode.ofName?_name c.mode
  unfold ofEntries?
  rw [houtput, hscan]
  simp only [Option.bind_eq_bind, Option.bind_some, setting?, hmode]
  rfl

theorem ofToml?_of_linesOf {document : String}
    (h : document.toList = c.linesOf mode showEnd offsets start) : ofToml? document = some c := by
  rw [ofToml?, read?_of_linesOf h]
  exact ofEntries?_tables c

/-- Configurations are read as they were written. -/
theorem ofToml?_toToml (c : Config) : ofToml? c.toToml = some c :=
  ofToml?_of_linesOf (toList_toToml c)

/-- The document of a new file holds the configuration that stands in for a missing one. -/
theorem ofToml?_standardToml : ofToml? standardToml = some {} :=
  ofToml?_of_linesOf toList_standardToml

end TextScan.Config
