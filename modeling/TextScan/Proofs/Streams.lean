import Mathlib.Data.List.ReduceOption
import TextScan.Proofs.Reading
import TextScan.Stream

/-! Streams move by move. What a consumer that is still there has received and what it
can still receive are together all spans of the text, whatever moves are made and in
whatever order (`Account.moves?`), so its calls are answered with one span after the
other, and with nothing only behind the last (`answers_of_moves?`). The producer has
read at most one span more than it has handed over (`count_produce_of_moves?`). Once
the consumer has left, no call is answered any more and few moves are left to make
(`moves?_of_left`). -/

namespace TextScan

/-- The spans that a producer can still hand over. -/
def Producer.pending : Producer → List Span
  | .reading s => s.readAll.1
  | .offering span s => span :: s.readAll.1
  | .done => []

/-- How many readings of a producer have not been handed over. -/
def Producer.held : Producer → Nat
  | .reading _ => 0
  | .offering _ _ | .done => 1

namespace Producer

theorem advance_of_end {s : Scanner} (h : s.readSpan.1.isEnd) : (reading s).advance = .done :=
  if_pos h

theorem advance_of_not_end {s : Scanner} (h : ¬ s.readSpan.1.isEnd) :
    (reading s).advance = .offering s.readSpan.1 s.readSpan.2 :=
  if_neg h

theorem pending_advance (p : Producer) : p.advance.pending = p.pending := by
  cases p with
  | reading s =>
    rw [pending, Scanner.readAll_eq]
    by_cases hend : s.readSpan.1.isEnd
    · rw [advance_of_end hend, if_pos hend]
      rfl
    · rw [advance_of_not_end hend, if_neg hend]
      rfl
  | offering span s => rfl
  | done => rfl

theorem held_le (p : Producer) : p.held ≤ 1 := by
  cases p with
  | reading s => exact Nat.zero_le _
  | offering span s => exact Nat.le_refl _
  | done => exact Nat.le_refl _

theorem held_advance (s : Scanner) : (reading s).advance.held = 1 := by
  by_cases hend : s.readSpan.1.isEnd
  · rw [advance_of_end hend]
    rfl
  · rw [advance_of_not_end hend]
    rfl

end Producer

namespace Stream

variable {st st' : Stream} {m : Move} {ms : List Move} {now later : List (Option Span)}
  {spans : List Span}

/-! ## What a move does -/

/-- The kinds of moves, with the answers to calls in them. Between two calls the
consumer can turn to anything, and the producer takes no part in it. -/
inductive Makes : Stream → Move → List (Option Span) → Stream → Prop
  | produce (s : Scanner) (c : Consumer) :
      Makes ⟨.reading s, c⟩ .produce [] ⟨(Producer.reading s).advance, c⟩
  | handOver (span : Span) (s : Scanner) :
      Makes ⟨.offering span s, .waiting⟩ .handOver [some span] ⟨.reading s, .free⟩
  | runOut : Makes ⟨.done, .waiting⟩ .runOut [none] ⟨.done, .free⟩
  | turn (p : Producer) (c : Consumer) {m : Move} (hm : m ≠ .produce) :
      Makes ⟨p, .free⟩ m [] ⟨p, c⟩
  | giveUp (span : Span) (s : Scanner) {c : Consumer} (hc : c.attends = false) :
      Makes ⟨.offering span s, c⟩ .giveUp [] ⟨.done, c⟩
  | join : Makes ⟨.done, .cancelling⟩ .join [] ⟨.done, .gone⟩

theorem makes_of_move? (h : st.move? m = some (now, st')) : Makes st m now st' := by
  obtain ⟨producer, consumer⟩ := st
  cases m with
  | produce => cases producer <;> cases h; exact .produce _ _
  | ask => cases consumer <;> cases h; exact .turn _ _ nofun
  | handOver => cases producer <;> cases consumer <;> cases h; exact .handOver _ _
  | runOut => cases producer <;> cases consumer <;> cases h; exact .runOut
  | leave => cases consumer <;> cases h; exact .turn _ _ nofun
  | cancel => cases consumer <;> cases h; exact .turn _ _ nofun
  | giveUp => cases producer <;> cases consumer <;> cases h <;> exact .giveUp _ _ rfl
  | join => cases producer <;> cases consumer <;> cases h; exact .join

/-- Only where the producer is done and the consumer gone there is nothing to do. -/
theorem exists_move? (st : Stream) : (∃ m, (st.move? m).isSome) ∨ st = ⟨.done, .gone⟩ := by
  obtain ⟨producer, consumer⟩ := st
  cases consumer with
  | free => exact .inl ⟨.leave, rfl⟩
  | waiting =>
    cases producer with
    | reading s => exact .inl ⟨.produce, rfl⟩
    | offering span s => exact .inl ⟨.handOver, rfl⟩
    | done => exact .inl ⟨.runOut, rfl⟩
  | cancelling =>
    cases producer with
    | reading s => exact .inl ⟨.produce, rfl⟩
    | offering span s => exact .inl ⟨.giveUp, rfl⟩
    | done => exact .inl ⟨.join, rfl⟩
  | gone =>
    cases producer with
    | reading s => exact .inl ⟨.produce, rfl⟩
    | offering span s => exact .inl ⟨.giveUp, rfl⟩
    | done => exact .inr rfl

/-- What holds of moves one after the other if it holds of none and of one more in
front. -/
theorem moves?_induction {motive : Stream → List Move → List (Option Span) → Stream → Prop}
    (nil : ∀ st, motive st [] [] st)
    (cons : ∀ st m ms now later next last, Makes st m now next →
      motive next ms later last → motive st (m :: ms) (now ++ later) last)
    (h : st.moves? ms = some (later, st')) : motive st ms later st' := by
  induction ms generalizing st later with
  | nil =>
    cases h
    exact nil _
  | cons m ms ih =>
    obtain ⟨⟨now, next⟩, hmove, hrest⟩ := Option.bind_eq_some_iff.mp h
    obtain ⟨⟨more, last⟩, hmoves, hlast⟩ := Option.bind_eq_some_iff.mp hrest
    cases hlast
    exact cons st m ms now more next _ (makes_of_move? hmove) (ih hmoves)

/-! ## What is received -/

/-- The calls for a span have been answered with the spans from the first on, and with
nothing only behind the last. While the consumer is there, what it has received and what
is pending are all. -/
def Account (spans : List Span) (answers : List (Option Span)) (st : Stream) : Prop :=
  ∃ received empty, answers = received.map some ++ List.replicate empty none ∧
    received <+: spans ∧ (0 < empty → received = spans) ∧
    (st.consumer.attends = true → received ++ st.producer.pending = spans)

theorem Account.makes {answers : List (Option Span)} (h : Account spans answers st)
    (hmakes : Makes st m now st') : Account spans (answers ++ now) st' := by
  obtain ⟨received, empty, rfl, hprefix, hempty, hpending⟩ := h
  cases hmakes with
  | produce s c =>
    refine ⟨received, empty, by simp, hprefix, hempty, fun hc => ?_⟩
    rw [Producer.pending_advance]
    exact hpending hc
  | handOver span s =>
    have hall : received ++ span :: s.readAll.1 = spans := hpending rfl
    have hzero : empty = 0 := by
      by_contra hne
      rw [hempty (Nat.pos_of_ne_zero hne)] at hall
      simp at hall
    subst hzero
    rw [List.append_cons] at hall
    exact ⟨received ++ [span], 0, by simp, ⟨s.readAll.1, hall⟩, nofun, fun _ => hall⟩
  | runOut =>
    have hall : received ++ [] = spans := hpending rfl
    refine ⟨received, empty + 1, ?_, hprefix, fun _ => ?_, fun _ => hall⟩
    · rw [List.append_assoc, ← List.replicate_succ']
    · rwa [List.append_nil] at hall
  | turn p c hm => exact ⟨received, empty, by simp, hprefix, hempty, fun _ => hpending rfl⟩
  | giveUp span s hc =>
    refine ⟨received, empty, by simp, hprefix, hempty, fun hattends => ?_⟩
    exact nomatch hc.symm.trans hattends
  | join => exact ⟨received, empty, by simp, hprefix, hempty, nofun⟩

theorem Account.moves? {answers : List (Option Span)} (h : Account spans answers st)
    (hmoves : st.moves? ms = some (later, st')) : Account spans (answers ++ later) st' := by
  revert answers
  refine moves?_induction (motive := fun st _ later st' => ∀ {answers : List (Option Span)},
    Account spans answers st → Account spans (answers ++ later) st') ?_ ?_ hmoves
  · intro st answers h
    rwa [List.append_nil]
  · intro st m ms now later next last hmakes ih answers h
    rw [← List.append_assoc]
    exact ih (h.makes hmakes)

theorem account_ofText (t : Text) : Account (Scanner.ofText t).readAll.1 [] (ofText t) :=
  ⟨[], 0, rfl, List.nil_prefix, nofun, fun _ => rfl⟩

/-! ## How far the producer is ahead -/

theorem count_produce_of_makes (h : Makes st m now st') :
    [m].count .produce + st.producer.held = now.reduceOption.length + st'.producer.held := by
  cases h with
  | produce s c => rw [Producer.held_advance]; rfl
  | turn p c hm => simp [hm]
  | handOver span s => rfl
  | runOut => rfl
  | giveUp span s hc => rfl
  | join => rfl

/-- What the producer has read it has handed over, or holds. -/
theorem count_produce_of_moves? (h : st.moves? ms = some (later, st')) :
    ms.count .produce + st.producer.held = later.reduceOption.length + st'.producer.held := by
  refine moves?_induction (motive := fun st ms later st' =>
    ms.count .produce + st.producer.held = later.reduceOption.length + st'.producer.held)
    ?_ ?_ h
  · intro st
    rfl
  · intro st m ms now later next last hmakes ih
    have hfirst := count_produce_of_makes hmakes
    rw [← List.singleton_append, List.count_append, List.reduceOption_append, List.length_append]
    omega

/-! ## When the consumer has left -/

/-- The moves that are left to make when the consumer has left. -/
def leftover (st : Stream) : Nat :=
  (match st.producer with
    | .reading _ => 2
    | .offering _ _ => 1
    | .done => 0) +
  (if st.consumer = .cancelling then 1 else 0)

theorem leftover_le (st : Stream) : st.leftover ≤ 3 := by
  rw [leftover]
  split <;> split <;> omega

/-- Nothing holds the producer back. -/
theorem move?_giveUp {span : Span} {s : Scanner} (h : st.producer = .offering span s)
    (hleft : st.consumer.attends = false) :
    st.move? .giveUp = some ([], ⟨.done, st.consumer⟩) := by
  obtain ⟨producer, consumer⟩ := st
  subst h
  cases consumer with
  | free => exact nomatch hleft
  | waiting => exact nomatch hleft
  | cancelling => rfl
  | gone => rfl

theorem makes_of_left (h : Makes st m now st') (hleft : st.consumer.attends = false) :
    now = [] ∧ st'.consumer.attends = false ∧ st'.leftover < st.leftover := by
  cases h with
  | produce s c =>
    refine ⟨rfl, hleft, ?_⟩
    by_cases hend : s.readSpan.1.isEnd
    · simp [leftover, Producer.advance_of_end hend]
    · simp [leftover, Producer.advance_of_not_end hend]
  | handOver span s => exact nomatch hleft
  | runOut => exact nomatch hleft
  | turn p c hm => exact nomatch hleft
  | giveUp span s hc => exact ⟨rfl, hleft, by simp [leftover]⟩
  | join => exact ⟨rfl, rfl, by decide⟩

theorem moves?_of_left (h : st.moves? ms = some (later, st'))
    (hleft : st.consumer.attends = false) : later = [] ∧ ms.length ≤ st.leftover := by
  revert hleft
  refine moves?_induction (motive := fun st ms later _ => st.consumer.attends = false →
    later = [] ∧ ms.length ≤ st.leftover) ?_ ?_ h
  · intro st _
    exact ⟨rfl, Nat.zero_le _⟩
  · intro st m ms now later next last hmakes ih hleft
    obtain ⟨rfl, hnext, hlt⟩ := makes_of_left hmakes hleft
    obtain ⟨rfl, hlength⟩ := ih hnext
    exact ⟨rfl, by rw [List.length_cons]; omega⟩

/-! ## Calls -/

theorem next_of_end {s : Scanner} {c : Consumer} (h : s.readSpan.1.isEnd) :
    next ⟨.reading s, c⟩ = (none, ⟨.done, c⟩) := by
  rw [next, Producer.advance_of_end h]

theorem next_of_not_end {s : Scanner} {c : Consumer} (h : ¬ s.readSpan.1.isEnd) :
    next ⟨.reading s, c⟩ = (some s.readSpan.1, ⟨.reading s.readSpan.2, c⟩) := by
  rw [next, Producer.advance_of_not_end h]

theorem next_fst (st : Stream) : st.next.1 = st.producer.pending.head? := by
  obtain ⟨producer, consumer⟩ := st
  cases producer with
  | reading s =>
    rw [Producer.pending, Scanner.readAll_eq]
    by_cases hend : s.readSpan.1.isEnd
    · rw [next_of_end hend, if_pos hend]
      rfl
    · rw [next_of_not_end hend, if_neg hend]
      rfl
  | offering span s => rfl
  | done => rfl

/-- A call for a span comes to its end by moves. -/
theorem exists_moves?_next (h : st.consumer = .free) :
    ∃ ms, st.moves? ms = some ([st.next.1], st.next.2) := by
  obtain ⟨producer, consumer⟩ := st
  subst h
  cases producer with
  | reading s =>
    by_cases hend : s.readSpan.1.isEnd
    · rw [next_of_end hend]
      exact ⟨[.ask, .produce, .runOut], by simp [moves?, move?, Producer.advance_of_end hend]⟩
    · rw [next_of_not_end hend]
      exact ⟨[.ask, .produce, .handOver], by simp [moves?, move?, Producer.advance_of_not_end hend]⟩
  | offering span s => exact ⟨[.ask, .handOver], rfl⟩
  | done => exact ⟨[.ask, .runOut], rfl⟩

theorem exists_moves?_cancel (h : st.consumer = .free) :
    ∃ ms, st.moves? ms = some ([], st.cancel) := by
  obtain ⟨producer, consumer⟩ := st
  subst h
  cases producer with
  | reading s =>
    by_cases hend : s.readSpan.1.isEnd
    · have hadvance := Producer.advance_of_end hend
      exact ⟨[.cancel, .produce, .join],
        by simp [moves?, move?, cancel, hadvance, Producer.giveUp]⟩
    · have hadvance := Producer.advance_of_not_end hend
      exact ⟨[.cancel, .produce, .giveUp, .join],
        by simp [moves?, move?, cancel, hadvance, Producer.giveUp]⟩
  | offering span s => exact ⟨[.cancel, .giveUp, .join], rfl⟩
  | done => exact ⟨[.cancel, .join], rfl⟩

/-- **Streams.** Whatever moves have been made: the calls for a span have been answered
with the spans of the text from the first on, and with nothing only behind the last,
and the end of input is none of them. The producer has read at most one span more, the
next call is answered with the next span, and a cancelled stream ends. Once the consumer
has left, an offer can be given up, no call is answered, and at most three moves are
left to make. Some move is always possible, until the producer is done and the consumer
gone. -/
theorem answers_of_moves? (t : Text) (h : (ofText t).moves? ms = some (later, st)) :
    let spans := (Scanner.ofText t).readAll.1
    (∀ span ∈ spans, span.isEnd = false) ∧
    ∃ k empty, k ≤ spans.length ∧
      later = (spans.take k).map some ++ List.replicate empty none ∧
      (0 < empty → k = spans.length) ∧
      ms.count .produce ≤ k + 1 ∧
      (st.consumer = .free → st.next.1 = spans[k]? ∧
        (∃ more, st.moves? more = some ([st.next.1], st.next.2)) ∧
        ∃ more, st.moves? more = some ([], st.cancel)) ∧
      (st.consumer.attends = false →
        (∀ span s, st.producer = .offering span s →
          st.move? .giveUp = some ([], ⟨.done, st.consumer⟩)) ∧
        ∀ more answers last, st.moves? more = some (answers, last) →
          answers = [] ∧ more.length ≤ 3) ∧
      ((∃ m, (st.move? m).isSome) ∨ st = ⟨.done, .gone⟩) := by
  intro spans
  obtain ⟨received, empty, hanswers, hprefix, hempty, hpending⟩ := (account_ofText t).moves? h
  rw [List.nil_append] at hanswers
  have hcount := count_produce_of_moves? h
  refine ⟨(Scanner.isEnd_readAll _).1, received.length, empty, hprefix.length_le, ?_, ?_, ?_, ?_,
    ?_, exists_move? st⟩
  · rw [← List.prefix_iff_eq_take.mp hprefix]
    exact hanswers
  · intro h
    rw [hempty h]
  · have hreceived : later.reduceOption.length = received.length := by
      rw [hanswers, List.reduceOption_append, List.reduceOption_replicate_none, List.append_nil,
        List.reduceOption, List.filterMap_map, Function.id_comp, List.filterMap_some]
    have hheld := st.producer.held_le
    have hstart : (ofText t).producer.held = 0 := rfl
    omega
  · intro hfree
    refine ⟨?_, exists_moves?_next hfree, exists_moves?_cancel hfree⟩
    have hall : received ++ st.producer.pending = spans := hpending (by rw [hfree]; rfl)
    rw [next_fst, ← hall, List.head?_eq_getElem?, List.getElem?_append_right (Nat.le_refl _),
      Nat.sub_self]
  · intro hleft
    refine ⟨fun span s hoffer => move?_giveUp hoffer hleft, fun more answers last hmore => ?_⟩
    obtain ⟨hanswers, hlength⟩ := moves?_of_left hmore hleft
    exact ⟨hanswers, Nat.le_trans hlength st.leftover_le⟩

/-- A consumer that cancels while the second span is held out has the first, and
nothing comes any more. -/
theorem answers_of_moves?_of_cancel :
    let t := Text.ofString "ab"
    let ms : List Move := [.ask, .produce, .handOver, .produce, .cancel]
    let first : Span := ⟨some 'a', ⟨0, 1, 1⟩, ⟨1, 1, 2⟩⟩
    ∃ st, (ofText t).moves? ms = some ([some first], st) ∧
      ∀ more answers last, st.moves? more = some (answers, last) →
        answers = [] ∧ more.length ≤ 3 := by
  intro t ms first
  have hanswers : ((ofText t).moves? ms).map (·.1) = some [some first] := by decide +kernel
  have hconsumer : ((ofText t).moves? ms).map (·.2.consumer) = some .cancelling := by
    decide +kernel
  obtain ⟨⟨later, st⟩, hmoves, rfl⟩ := Option.map_eq_some_iff.mp hanswers
  rw [hmoves] at hconsumer
  have hcancelling : st.consumer = .cancelling := Option.some_inj.mp hconsumer
  have hleft : st.consumer.attends = false := by
    rw [hcancelling]
    rfl
  obtain ⟨-, -, -, -, -, -, -, -, hend, -⟩ := answers_of_moves? t hmoves
  exact ⟨st, hmoves, (hend hleft).2⟩

end Stream

end TextScan
