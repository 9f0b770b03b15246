import TextScan.Scanner.Spans

/-! Streams: a producer reads the spans of a text and hands each to a consumer
that may leave at any moment. A span changes hands only when both are ready, so
the producer is never more than one span ahead, and an offer that nobody is left
to take ends it. The span of the end of input is never offered.

`Stream.move?` gives the single moves of the two parties, which may come in any
order; `Stream.next` and `Stream.cancel` are calls of the consumer with all the
moves that it waits for. -/

namespace TextScan

inductive Producer where
  /-- About to read. -/
  | reading (s : Scanner)
  /-- Holding a span out, until it is taken or nobody is left to take it. -/
  | offering (span : Span) (s : Scanner)
  | done

/-- The producer reads a span, or finds the end of input. -/
def Producer.advance : Producer → Producer
  | .reading s =>
    let (span, next) := s.readSpan
    if span.isEnd then .done else .offering span next
  | p => p

/-- The producer ends, if it holds out a span that nobody is left to take. -/
def Producer.giveUp : Producer → Producer
  | .offering _ _ => .done
  | p => p

inductive Consumer where
  /-- Between two calls. -/
  | free
  /-- Waiting for a span. -/
  | waiting
  /-- Has left, and waits until the producer is done. -/
  | cancelling
  | gone
deriving DecidableEq

/-- Whether the consumer has not left. -/
def Consumer.attends : Consumer → Bool
  | .free | .waiting => true
  | .cancelling | .gone => false

structure Stream where
  producer : Producer
  consumer : Consumer

namespace Stream

def ofText (text : Text) : Stream := ⟨.reading (.ofText text), .free⟩

inductive Move where
  /-- The producer reads. -/
  | produce
  /-- The consumer calls for a span. -/
  | ask
  /-- A span changes hands. -/
  | handOver
  /-- The consumer is told that there is none left. -/
  | runOut
  /-- The consumer drops the stream. -/
  | leave
  /-- The consumer leaves to wait for the end of the producer. -/
  | cancel
  /-- The producer finds that its offer cannot be taken any more. -/
  | giveUp
  /-- The consumer is told that the producer has ended. -/
  | join
deriving DecidableEq

/-- A move, if it is possible, with the answer to the call for a span that it ends, if
it ends one. -/
def move? (st : Stream) (m : Move) : Option (List (Option Span) × Stream) :=
  match m, st.producer, st.consumer with
  | .produce, .reading _, _ => some ([], { st with producer := st.producer.advance })
  | .ask, _, .free => some ([], { st with consumer := .waiting })
  | .handOver, .offering span s, .waiting => some ([some span], ⟨.reading s, .free⟩)
  | .runOut, .done, .waiting => some ([none], { st with consumer := .free })
  | .leave, _, .free => some ([], { st with consumer := .gone })
  | .cancel, _, .free => some ([], { st with consumer := .cancelling })
  | .giveUp, .offering _ _, .cancelling => some ([], { st with producer := .done })
  | .giveUp, .offering _ _, .gone => some ([], { st with producer := .done })
  | .join, .done, .cancelling => some ([], { st with consumer := .gone })
  | _, _, _ => none

/-- Moves one after the other, with all the answers to calls for a span. -/
def moves? (st : Stream) : List Move → Option (List (Option Span) × Stream)
  | [] => some ([], st)
  | m :: ms => do
    let (now, st) ← st.move? m
    let (later, st) ← st.moves? ms
    return (now ++ later, st)

/-- Waits for a span. There is none only when the producer is done. -/
def next (st : Stream) : Option Span × Stream :=
  match st.producer.advance with
  | .offering span s => (some span, { st with producer := .reading s })
  | p => (none, { st with producer := p })

/-- Leaves and waits until the producer has noticed. -/
def cancel (st : Stream) : Stream := ⟨st.producer.advance.giveUp, .gone⟩

/-- Receives up to `n` spans, behind those of `acc`. -/
def takeOnto (acc : Array Span) : Nat → Stream → Array Span × Stream
  | 0, st => (acc, st)
  | n + 1, st =>
    match st.next with
    | (some span, st) => takeOnto (acc.push span) n st
    | (none, st) => (acc, st)

def take (n : Nat) (st : Stream) : List Span × Stream :=
  let (acc, st) := st.takeOnto #[] n
  (acc.toList, st)

/-- Twice the bytes still to be read, and one for a span that is held out. -/
def work (st : Stream) : Nat :=
  match st.producer with
  | .reading s => 2 * s.remaining
  | .offering _ s => 2 * s.remaining + 1
  | .done => 0

theorem work_next_lt {st : Stream} (h : st.next.1.isSome) : st.next.2.work < st.work := by
  obtain ⟨producer, consumer⟩ := st
  cases producer with
  | reading s =>
    simp only [next, Producer.advance] at h ⊢
    by_cases hend : s.readSpan.1.isEnd
    · simp [hend] at h
    · have := Scanner.remaining_readSpan_lt (Bool.not_eq_true _ ▸ hend)
      simp only [hend, work]
      simp
      omega
  | offering span s => simp [next, Producer.advance, work]
  | done => simp [next, Producer.advance] at h

/-- Receives all spans there are, behind those of `acc`. -/
def drainOnto (acc : Array Span) (st : Stream) : Array Span × Stream :=
  match _h : st.next with
  | (some span, rest) => drainOnto (acc.push span) rest
  | (none, rest) => (acc, rest)
termination_by st.work
decreasing_by simpa [_h] using @work_next_lt st (by simp [_h])

def drain (st : Stream) : List Span × Stream :=
  let (acc, st) := st.drainOnto #[]
  (acc.toList, st)

end Stream

end TextScan
