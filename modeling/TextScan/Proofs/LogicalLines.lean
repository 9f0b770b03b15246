import Mathlib.Data.List.Basic
import TextScan.Proofs.Printing
import TextScan.Proofs.Tiling

/-! Logical lines. The lines of a scanner are its spans, cut behind each line feed, and
the text of a line is put together from the slices of its spans one by one
(`lined_lines`). A dump by lines has one entry for each line of what is read, and
reducing the texts of the entries gives what is read; without reducing them it does
so in the texts that have no line feed in the slice of any other character
(`linesAgree_iff`). -/

namespace TextScan

open LineBreaks

/-- The slice of a span alone. -/
def Span.slice (t : Text) (s : Span) : List Char := normalize (s.raw t)

/-- The lines of some spans: these are cut behind each line feed, and at the end if
anything is left there. -/
inductive Lined (t : Text) : List Span → List Line → Prop
  | nil : Lined t [] []
  | unfinished {spans : List Span} {start : Position}
      (hspans : ∀ span ∈ spans, span.char? ≠ some lineFeed)
      (hstart : spans.head?.map Span.start = some start) :
      Lined t spans [⟨start, spans.flatMap (·.slice t)⟩]
  | finished {spans rest : List Span} {ending : Span} {start : Position} {lines : List Line}
      (hspans : ∀ span ∈ spans, span.char? ≠ some lineFeed)
      (hending : ending.char? = some lineFeed)
      (hstart : (spans ++ [ending]).head?.map Span.start = some start)
      (hrest : Lined t rest lines) :
      Lined t (spans ++ ending :: rest) (⟨start, spans.flatMap (·.slice t)⟩ :: lines)

theorem Lined.eq_nil {t : Text} {lines : List Line} (h : Lined t [] lines) : lines = [] := by
  generalize hnil : ([] : List Span) = spans at h
  cases h with
  | nil => rfl
  | unfinished _ hstart => exact nomatch hnil ▸ hstart
  | finished => exact absurd hnil.symm (by simp)

/-! ## The lines of a scanner -/

namespace Scanner

open Cursor

variable {s : Scanner}

theorem reduce_slice_readSpan (s : Scanner) :
    reduce (s.readSpan.1.slice s.text) = s.readSpan.1.char?.toList :=
  (reduce_normalize _).trans s.reduce_unify_read

theorem reduce_slice_of_mem_readAll (s : Scanner) :
    ∀ span ∈ s.readAll.1, reduce (span.slice s.text) = span.char?.toList := by
  refine (List.forall_mem_append.mp (forall_mem_readAll fun d htext => ?_)).1
  rw [← htext]
  exact reduce_slice_readSpan d

/-- What is read up to a character are the first spans of all, and the slice of what
they were read from goes span by span. -/
theorem exists_spans_readUntil (stop : Char) (s : Scanner) :
    let last := (s.readUntil stop).2
    ∃ spans, s.readAll.1 = spans ++ last.readAll.1 ∧
      spans.map Span.char? = (s.readUntil stop).1.map some ∧
      (∀ span ∈ spans, span.char? ≠ some stop) ∧
      normalize (s.text.between s.position.offset last.position.offset) =
        spans.flatMap (·.slice s.text) ∧
      ∀ c, last.read.1 = some c → c = stop := by
  refine readUntil_induction stop (motive := fun s r => ∃ spans,
    s.readAll.1 = spans ++ r.2.readAll.1 ∧ spans.map Span.char? = r.1.map some ∧
      (∀ span ∈ spans, span.char? ≠ some stop) ∧
      normalize (s.text.between s.position.offset r.2.position.offset) =
        spans.flatMap (·.slice s.text) ∧
      ∀ c, r.2.read.1 = some c → c = stop) ?_ ?_ s
  · intro s hstop
    exact ⟨[], rfl, rfl, nofun, (Steps.refl s.position).normalize_between, hstop⟩
  · rintro s c hchar hne ⟨spans, hall, hchars, hspans, hslice, hstop⟩
    have hfirst : s.readSpan.1.char? = some c := hchar
    refine ⟨s.readSpan.1 :: spans, ?_, ?_, ?_, ?_, hstop⟩
    · rw [readAll_of_read_eq_some hchar, hall, List.cons_append]
    · rw [List.map_cons, List.map_cons, hfirst, hchars]
    · refine List.forall_mem_cons.mpr ⟨?_, hspans⟩
      rw [hfirst]
      exact fun h => hne (Option.some.inj h)
    · obtain ⟨n, hn⟩ := exists_readTimes_readUntil stop s.read.2
      obtain ⟨cs, hsteps, -, -⟩ := readTimes_steps n s.read.2
      rw [hn] at hsteps
      rw [read_text] at hslice
      rw [List.flatMap_cons, ← hslice]
      exact normalize_between_append s 1 hsteps

/-- There is no line where there is no span; otherwise the spans up to a line feed, or
all, make a line. -/
theorem readLine?_cases (s : Scanner) :
    (s.readLine? = none ∧ s.readAll.1 = []) ∨
    ∃ spans next, s.readLine? = some (⟨s.position, spans.flatMap (·.slice s.text)⟩, next) ∧
      next.text = s.text ∧ (∀ span ∈ spans, span.char? ≠ some lineFeed) ∧
      (spans ≠ [] ∧ s.readAll.1 = spans ∧ next.readAll.1 = [] ∨
        ∃ ending, ending.char? = some lineFeed ∧
          s.readAll.1 = spans ++ ending :: next.readAll.1) := by
  obtain ⟨n, hn⟩ := exists_readTimes_readUntil lineFeed s.mark
  obtain ⟨spans, hall, hchars, hspans, hslice, hstop⟩ := exists_spans_readUntil lineFeed s.mark
  have hread := slice_readTimes s n
  have htext := readTimes_text n s.mark
  rw [hn] at hread htext
  replace hslice := hread.trans hslice
  have hmark : s.mark.readAll.1 = s.readAll.1 := readAll_congr rfl rfl
  rw [hmark] at hall
  generalize hlast : s.mark.readUntil lineFeed = r at *
  obtain ⟨cs, last⟩ := r
  cases hending : last.read.1 with
  | some c =>
    obtain rfl := hstop c hending
    refine .inr ⟨spans, last.read.2, ?_, htext, hspans, .inr ⟨last.readSpan.1, hending, ?_⟩⟩
    · simp [readLine?, hlast, hending, hslice]
    · rw [hall, readAll_of_read_eq_some hending]
  | none =>
    rw [readAll_of_read_eq_none hending, List.append_nil] at hall
    by_cases hnil : spans = []
    · subst hnil
      obtain rfl : cs = [] := by simpa using hchars.symm
      refine .inl ⟨?_, hall⟩
      simp [readLine?, hlast, hending]
    · have hcs : cs ≠ [] := by
        rintro rfl
        exact hnil (List.map_eq_nil_iff.mp hchars)
      refine .inr ⟨spans, last.read.2, ?_, htext, hspans, .inl ⟨hnil, hall, ?_⟩⟩
      · simp [readLine?, hlast, hcs, hslice]
      · exact readAll_of_read_eq_none (by rw [read_of_end (end_of_read hending)])

theorem start_head?_readAll (h : s.readAll.1 ≠ []) :
    s.readAll.1.head?.map Span.start = some s.position := by
  cases hread : s.read.1 with
  | none => exact absurd (readAll_of_read_eq_none hread) h
  | some c =>
    rw [readAll_of_read_eq_some hread]
    rfl

theorem lined_lines (s : Scanner) : Lined s.text s.readAll.1 s.lines := by
  rw [lines_eq]
  rcases readLine?_cases s with ⟨hline, hall⟩ | ⟨spans, next, hline, htext, hspans, hends⟩
  · rw [hline, hall]
    exact .nil
  · have hlt := remaining_readLine?_lt hline
    have hrest := lined_lines next
    rw [htext] at hrest
    rw [hline]
    dsimp only
    rcases hends with ⟨hne, hall, hnil⟩ | ⟨ending, hending, hall⟩
    · have hstart := start_head?_readAll (s := s) (by rwa [hall])
      rw [hnil] at hrest
      rw [hall] at hstart ⊢
      rw [hrest.eq_nil]
      exact .unfinished hspans hstart
    · have hstart := start_head?_readAll (s := s) (by simp [hall])
      rw [hall] at hstart ⊢
      refine .finished hspans hending ?_ hrest
      cases spans <;> exact hstart
termination_by s.remaining

end Scanner

/-! ## What the texts of lines have to do with what is read -/

/-- With a line feed behind the last line too, if there is one. -/
def closeLast (cs : List Char) : List Char :=
  if cs = [] ∨ cs.getLast? = some lineFeed then cs else cs ++ [lineFeed]

theorem closeLast_append_feed (cs ds : List Char) :
    closeLast (cs ++ lineFeed :: ds) = cs ++ lineFeed :: closeLast ds := by
  cases ds with
  | nil => simp [closeLast]
  | cons d ds =>
    have hlast : (cs ++ lineFeed :: d :: ds).getLast? = (d :: ds).getLast? := by
      simp [List.getLast?_append, List.getLast?_cons]
    rw [closeLast, closeLast, hlast]
    by_cases hfeed : (d :: ds).getLast? = some lineFeed
    · simp [hfeed]
    · simp [hfeed]

theorem closeLast_of_notMem {cs : List Char} (hne : cs ≠ []) (h : lineFeed ∉ cs) :
    closeLast cs = cs ++ [lineFeed] := by
  refine if_neg ?_
  rintro (hnil | hlast)
  · exact hne hnil
  · exact h (List.mem_of_getLast? hlast)

/-- One line feed for each. -/
theorem count_flatMap_eq_length {α : Type} {as : List α} {write : α → List Char}
    (h : ∀ a ∈ as, (write a).count lineFeed = 1) :
    (as.flatMap write).count lineFeed = as.length := by
  have hone : as.map (List.count lineFeed ∘ write) = as.map fun _ => 1 := List.map_congr_left h
  rw [List.count_flatMap, hone, List.map_const', List.sum_replicate_nat, Nat.mul_one]

open Scanner (chars)

variable {t : Text} {spans : List Span} {lines : List Line}

theorem notMem_flatMap_slice_iff (hspans : ∀ span ∈ spans, span.char? ≠ some lineFeed) :
    lineFeed ∉ spans.flatMap (·.slice t) ↔
      ∀ span ∈ spans, span.char? ≠ some lineFeed → lineFeed ∉ span.slice t := by
  rw [List.mem_flatMap]
  constructor
  · exact fun h span hspan _ hmem => h ⟨span, hspan, hmem⟩
  · rintro h ⟨span, hspan, hmem⟩
    exact h span hspan (hspans span hspan) hmem

/-- The slice of a span that reduces to its character is the character or has a line feed
that an escape has left. -/
theorem notMem_slice_iff {span : Span} (hne : span.char? ≠ some lineFeed)
    (hread : reduce (span.slice t) = span.char?.toList) :
    lineFeed ∉ span.slice t ↔ span.slice t = span.char?.toList := by
  constructor
  · intro h
    rw [← hread, reduce_eq_self (avoids_of_notMem h)]
  · intro h
    rw [h, Option.mem_toList]
    exact hne

theorem chars_append (spans rest : List Span) :
    chars (spans ++ rest) = chars spans ++ chars rest :=
  List.filterMap_append

theorem chars_cons (span : Span) (spans : List Span) :
    chars (span :: spans) = span.char?.toList ++ chars spans := by
  cases hchar : span.char? with
  | none => exact List.filterMap_cons_none hchar
  | some c => exact List.filterMap_cons_some hchar

theorem notMem_chars (hspans : ∀ span ∈ spans, span.char? ≠ some lineFeed) :
    lineFeed ∉ chars spans := by
  rw [chars, List.mem_filterMap]
  rintro ⟨span, hspan, hfeed⟩
  exact hspans span hspan hfeed

theorem reduce_flatMap_slice (hspans : ∀ span ∈ spans, span.char? ≠ some lineFeed)
    (hread : ∀ span ∈ spans, reduce (span.slice t) = span.char?.toList) :
    reduce (spans.flatMap (·.slice t)) = chars spans := by
  induction spans with
  | nil => rfl
  | cons span spans ih =>
    have hfree : EscapeFree (chars (span :: spans)) := avoids_of_notMem (notMem_chars hspans)
    obtain ⟨hspan, hread⟩ := List.forall_mem_cons.mp hread
    rw [List.flatMap_cons, ← reduce_reduce_append, hspan, ← reduce_append_reduce,
      ih (List.forall_mem_cons.mp hspans).2 hread, ← chars_cons, reduce_eq_self hfree]

theorem chars_ne_nil (hne : spans ≠ []) (hchars : ∀ span ∈ spans, span.isEnd = false) :
    chars spans ≠ [] := by
  obtain ⟨span, spans, rfl⟩ := List.exists_cons_of_ne_nil hne
  obtain ⟨c, hc⟩ := Option.isSome_iff_exists.mp
    (Option.isNone_eq_false_iff.mp (hchars span List.mem_cons_self))
  rw [chars_cons, hc]
  exact List.cons_ne_nil _ _

/-- Reduced, the texts of the lines are what is read, cut behind each line feed. -/
theorem Lined.closeLast_chars (h : Lined t spans lines)
    (hchars : ∀ span ∈ spans, span.isEnd = false)
    (hread : ∀ span ∈ spans, reduce (span.slice t) = span.char?.toList) :
    closeLast (chars spans) = lines.flatMap (fun line => reduce line.text ++ [lineFeed]) ∧
      ∀ line ∈ lines, lineFeed ∉ reduce line.text := by
  induction h with
  | nil => exact ⟨rfl, nofun⟩
  | @unfinished spans start hspans hstart =>
    have hne : spans ≠ [] := by
      rintro rfl
      exact nomatch hstart
    have hreduce := reduce_flatMap_slice hspans hread
    rw [List.flatMap_singleton, List.forall_mem_singleton, hreduce]
    exact ⟨closeLast_of_notMem (chars_ne_nil hne hchars) (notMem_chars hspans),
      notMem_chars hspans⟩
  | @finished spans rest ending start lines hspans hending _ _ ih =>
    obtain ⟨hread, hreadRest⟩ := List.forall_mem_append.mp hread
    have hreduce := reduce_flatMap_slice hspans hread
    obtain ⟨hclose, hlines⟩ := ih
      (List.forall_mem_cons.mp (List.forall_mem_append.mp hchars).2).2
      (List.forall_mem_cons.mp hreadRest).2
    rw [List.flatMap_cons, List.forall_mem_cons, hreduce, chars_append, chars_cons, hending]
    refine ⟨?_, notMem_chars hspans, hlines⟩
    rw [← hclose, List.append_assoc]
    exact closeLast_append_feed _ _

/-- There is a line for each line feed that is read, and one more for what is left. -/
theorem Lined.length_eq (h : Lined t spans lines) (hchars : ∀ span ∈ spans, span.isEnd = false)
    (hread : ∀ span ∈ spans, reduce (span.slice t) = span.char?.toList) :
    lines.length = (closeLast (chars spans)).count lineFeed := by
  obtain ⟨hclose, hlines⟩ := h.closeLast_chars hchars hread
  rw [hclose]
  refine (count_flatMap_eq_length fun line hline => ?_).symm
  rw [List.count_append, List.count_eq_zero.mpr (hlines line hline), List.count_singleton_self]

theorem Lined.notMem_text_iff_notMem_slice (h : Lined t spans lines) :
    (∀ line ∈ lines, lineFeed ∉ line.text) ↔
      ∀ span ∈ spans, span.char? ≠ some lineFeed → lineFeed ∉ span.slice t := by
  induction h with
  | nil => exact ⟨nofun, nofun⟩
  | unfinished hspans _ =>
    rw [List.forall_mem_singleton]
    exact notMem_flatMap_slice_iff hspans
  | finished hspans hending _ _ ih =>
    rw [List.forall_mem_cons, List.forall_mem_append, List.forall_mem_cons, ih]
    refine and_congr (notMem_flatMap_slice_iff hspans) ?_
    exact ⟨fun h => ⟨fun hne => absurd hending hne, h⟩, And.right⟩

/-- The text of no line has a line feed if the slice of each character but line feeds is
the character alone. -/
theorem Lined.notMem_text_iff (h : Lined t spans lines)
    (hread : ∀ span ∈ spans, reduce (span.slice t) = span.char?.toList) :
    (∀ line ∈ lines, lineFeed ∉ line.text) ↔
      ∀ span ∈ spans, span.char? ≠ some lineFeed → span.slice t = span.char?.toList := by
  rw [h.notMem_text_iff_notMem_slice]
  exact forall₂_congr fun span hspan => imp_congr_right fun hne =>
    notMem_slice_iff hne (hread span hspan)

/-! ## Dumps by lines and by characters -/

namespace Dump

theorem lineFeed_notMem_position (offsets : Bool) (p : Position) :
    lineFeed ∉ (position offsets p).toList := fun hmem =>
  absurd (isDigit_or_of_mem_position hmem) (by decide)

theorem count_textLine (offsets : Bool) (line : Line) :
    (textLine offsets line).toList.count lineFeed = line.text.count lineFeed + 1 := by
  have hposition := List.count_eq_zero.mpr (lineFeed_notMem_position offsets line.start)
  simp +decide [textLine, hposition]

/-- The dumps by lines and by characters of a text from a position agree: by lines there
is one physical line for each of the dump by characters, none of the entries has a
line feed in its text, and the texts with a line feed behind each are the dump by
characters. -/
structure LinesAgree (shown : Char → Bool) (showEnd offsets : Bool) (p : Position) (t : Text) :
    Prop where
  count : (render shown ⟨.lines, showEnd, offsets, p⟩ t).toList.count lineFeed =
    (closeLast (render shown ⟨.chars, showEnd, offsets, p⟩ t).toList).count lineFeed
  single : ∀ line ∈ (Scanner.startingAt t p).lines, lineFeed ∉ line.text
  texts : (Scanner.startingAt t p).lines.flatMap (fun line => line.text ++ [lineFeed]) =
    closeLast (render shown ⟨.chars, showEnd, offsets, p⟩ t).toList

variable {p : Position}

theorem count_render_lines (shown : Char → Bool) (showEnd offsets : Bool)
    (h : ∀ line ∈ (Scanner.startingAt t p).lines, lineFeed ∉ line.text) :
    (render shown ⟨.lines, showEnd, offsets, p⟩ t).toList.count lineFeed =
      (Scanner.startingAt t p).lines.length := by
  change (String.join ((Scanner.startingAt t p).lines.map (textLine offsets))).toList.count
    lineFeed = _
  rw [String.toList_join, List.flatMap_map]
  refine count_flatMap_eq_length fun line hline => ?_
  rw [count_textLine, List.count_eq_zero.mpr (h line hline)]

/-- **One line for each line.** A dump by lines has an entry for each line of the dump by
characters, and reduced, the texts of the entries are that dump. As they stand they are
it, each on one physical line, if the slice of each character but line feeds is the
character alone, and in no other texts. -/
theorem linesAgree_iff (shown : Char → Bool) (showEnd offsets : Bool) (p : Position) (t : Text) :
    let lines := (Scanner.startingAt t p).lines
    let content := closeLast (render shown ⟨.chars, showEnd, offsets, p⟩ t).toList
    lines.length = content.count lineFeed ∧
      content = lines.flatMap (fun line => reduce line.text ++ [lineFeed]) ∧
      (LinesAgree shown showEnd offsets p t ↔
        ∀ span ∈ (Scanner.startingAt t p).readAll.1, span.char? ≠ some lineFeed →
          span.slice t = span.char?.toList) := by
  intro lines content
  have hlined : Lined t _ lines := (Scanner.startingAt t p).lined_lines
  have hchars := (Scanner.isEnd_readAll (Scanner.startingAt t p)).1
  have hread := (Scanner.startingAt t p).reduce_slice_of_mem_readAll
  have hcontent : content = closeLast (chars (Scanner.startingAt t p).readAll.1) :=
    congrArg closeLast String.toList_ofList
  have hlength : lines.length = content.count lineFeed := by
    rw [hcontent]
    exact hlined.length_eq hchars hread
  have htexts : content = lines.flatMap fun line => reduce line.text ++ [lineFeed] := by
    rw [hcontent]
    exact (hlined.closeLast_chars hchars hread).1
  refine ⟨hlength, htexts, ?_⟩
  rw [← hlined.notMem_text_iff hread]
  refine ⟨fun h => h.single, fun h => ⟨?_, h, ?_⟩⟩
  · exact (count_render_lines shown showEnd offsets h).trans hlength
  · refine Eq.trans (List.flatMap_congr fun line hline => ?_) htexts.symm
    rw [reduce_eq_self (avoids_of_notMem (h line hline))]

/-- Two backslashes before two line feeds cancel, but a slice leaves one each, so that the
line of a single character behind them takes two physical lines. -/
theorem render_of_nested_escape :
    let t := Text.ofString "\\\\\n\na"
    let shown : Char → Bool := fun _ => true
    render shown ⟨.chars, false, true, .origin⟩ t = "a" ∧
      render shown ⟨.lines, false, true, .origin⟩ t = "1:1@0\t\\\na\n" ∧
      ¬ LinesAgree shown false true .origin t := by
  intro t shown
  have hlines : (Scanner.startingAt t .origin).lines.map (·.text) = [['\\', '\n', 'a']] := by
    decide +kernel
  refine ⟨by decide +kernel, by decide +kernel, fun h => ?_⟩
  have hsingle : ∀ text ∈ (Scanner.startingAt t .origin).lines.map (·.text), lineFeed ∉ text :=
    List.forall_mem_map.mpr h.single
  rw [hlines, List.forall_mem_singleton] at hsingle
  exact hsingle (by decide)

end Dump

end TextScan
