import Robofw.Model.UartReceiver
import Robofw.Soundness.SbusStream

/-! # No lost wake-up on the SBUS UART

The receiver blocks only after it has seen the ring buffer empty, and every put is followed by a give.
So while the receiver is about to block, or blocked, either a permit waits for it, or a callback is
about to give one, or the ring buffer is empty, however many callbacks fell into one permit.
-/

namespace Robofw.Model.UartReceiver

open Robofw.Core

variable {capacity : ℕ}

/-- The receiver is blocked in `k_sem_take`. -/
def State.Blocked (s : State capacity) : Prop := s.receiver = .semTake ∧ s.rxSem.waiting = true

/-- The byte that the receiver has taken and not yet handed to the decoder. -/
def State.inHand (s : State capacity) : List UInt8 :=
  match s.receiver with
  | .decode ch => [ch]
  | _ => []

/-- While the receiver is blocked and no callback is between its put and its give, the ring buffer is
empty; and the decoder is handed the accepted bytes, each once and in their order. -/
structure NoLostWakeup (s : State capacity) : Prop where
  drained : s.Blocked → s.callbacks = 0 → s.ringBuffer.items = []
  fifo : s.accepted = s.handed ++ s.inHand ++ s.ringBuffer.items
  complete : s.Blocked → s.callbacks = 0 → s.handed = s.accepted

/-- The invariant of every interleaving. -/
structure Awake (s : State capacity) : Prop where
  waits : s.rxSem.waiting = true → s.receiver = .semTake
  drained : s.receiver = .semTake → s.callbacks = 0 → s.rxSem.count = 0 → s.ringBuffer.items = []
  fifo : s.accepted = s.handed ++ s.inHand ++ s.ringBuffer.items
  decoder : Represents s.sbusDecoder (openAfter sbusFrameHead 25 [] s.handed)
  defined : s.receiver ≠ .undefined

theorem awake_initial (inst : SbusDecoderInstance) (sbusMsg : SbusMessage) :
    Awake (State.initial inst sbusMsg : State capacity) := by
  refine ⟨fun _ => rfl, fun _ _ _ => rfl, rfl, represents_nil rfl, ?_⟩
  simp [State.initial]

/-- A receiver that is past the semaphore cannot miss a give. -/
theorem Awake.running {s : State capacity} (free : s.rxSem.waiting = false)
    (moves : s.receiver ≠ .semTake) (defined : s.receiver ≠ .undefined)
    (fifo : s.accepted = s.handed ++ s.inHand ++ s.ringBuffer.items)
    (decoder : Represents s.sbusDecoder (openAfter sbusFrameHead 25 [] s.handed)) : Awake s := by
  refine ⟨fun waits => ?_, fun stopped => absurd stopped moves, fifo, decoder, defined⟩
  exact absurd (free.symm.trans waits) Bool.false_ne_true

/-- The decoder takes every byte and goes on with the block that is open then. -/
theorem decode_represents {inst : SbusDecoderInstance} {stream : List UInt8}
    (represents : Represents inst (openAfter sbusFrameHead 25 [] stream)) (ch : UInt8)
    (sbusMsg : SbusMessage) :
    ∃ next after returned, sbusDecodeMessage inst ch sbusMsg = some (next, after, returned) ∧
      Represents next (openAfter sbusFrameHead 25 [] (stream ++ [ch])) := by
  have isOpen := (opened_nil (by decide) : Opened sbusFrameHead 25 []).openAfter stream
  obtain ⟨next, success, after, -⟩ := sbusDecodeMessage_represents represents isOpen ch sbusMsg
  rw [openAfter_concat]
  exact ⟨next, _, _, success, after⟩

theorem Awake.callback {s : State capacity} (awake : Awake s) (evt : UartEvent) :
    Awake (genericUartCallback s evt) := by
  obtain ⟨waits, drained, fifo, decoder, defined⟩ := awake
  cases evt with
  | rxRdy bytes =>
    refine ⟨waits, fun _ none => absurd none (Nat.succ_ne_zero _), ?_, decoder, defined⟩
    change s.accepted ++ _ = s.handed ++ s.inHand ++ (s.ringBuffer.items ++ _)
    rw [fifo, List.append_assoc _ s.ringBuffer.items]
  | rxBufRequest => exact ⟨waits, drained, fifo, decoder, defined⟩
  | rxBufReleased => exact ⟨waits, drained, fifo, decoder, defined⟩
  | rxDisabled => exact ⟨waits, drained, fifo, decoder, defined⟩
  | rxStopped => exact ⟨waits, drained, fifo, decoder, defined⟩
  | txDone => exact ⟨waits, drained, fifo, decoder, defined⟩
  | txAborted => exact ⟨waits, drained, fifo, decoder, defined⟩

/-- A give leaves a permit, or it wakes the receiver to look at the ring buffer. -/
theorem Awake.giveRx {s : State capacity} (awake : Awake s) : Awake (giveRxStep s) := by
  have ⟨waits, drained, fifo, decoder, defined⟩ := awake
  unfold giveRxStep
  split
  case isTrue => exact awake
  case isFalse =>
    have free := s.rxSem.waiting_give
    rcases given : s.rxSem.give with ⟨rxSem, woken⟩
    rw [given] at free
    cases woken with
    | false =>
      have permit := Semaphore.count_give Nat.one_pos given
      refine ⟨fun blocked => ?_, fun _ _ none => absurd none permit.ne', fifo, decoder, defined⟩
      exact absurd (free.symm.trans blocked) Bool.false_ne_true
    | true =>
      have blocked := waits (Semaphore.waiting_of_give given)
      rw [State.inHand, blocked] at fifo
      exact Awake.running free (by simp) (by simp) fifo decoder

/-- The receiver blocks only behind an empty ring buffer, and it hands on the byte it took. -/
theorem Awake.receive {s : State capacity} (awake : Awake s) : Awake (receiverStep s) := by
  have ⟨waits, drained, fifo, decoder, defined⟩ := awake
  have free (moves : s.receiver ≠ .semTake) : s.rxSem.waiting = false :=
    Bool.eq_false_of_not_eq_true fun blocked => moves (waits blocked)
  rw [State.inHand] at fifo
  unfold receiverStep
  cases receiver : s.receiver with
  | semTake =>
    rw [receiver] at fifo
    dsimp only
    split
    case isTrue => exact awake
    case isFalse =>
      rcases taken : s.rxSem.take with ⟨rxSem, went⟩
      cases went with
      | false =>
        have none := Semaphore.take_waits taken
        exact ⟨fun _ => rfl, fun _ idle _ => drained receiver idle none, fifo, decoder, by simp⟩
      | true =>
        have through := Semaphore.waiting_take taken
        exact Awake.running through (by simp) (by simp) fifo decoder
  | ringBufGet =>
    have through := free (by simp [receiver])
    rw [receiver] at fifo
    dsimp only
    split
    case h_1 ch ringBuffer got =>
      rw [MessageQueue.get_eq_some got] at fifo
      exact Awake.running through (by simp) (by simp) (by simpa [State.inHand] using fifo) decoder
    case h_2 got =>
      have empty := MessageQueue.get_eq_none_iff.mp got
      exact ⟨fun _ => rfl, fun _ _ _ => empty, fifo, decoder, by simp⟩
  | decode ch =>
    have through := free (by simp [receiver])
    rw [receiver] at fifo
    obtain ⟨next, after, returned, success, represents⟩ :=
      decode_represents decoder ch s.sbusMsgBuffer
    simp only [success]
    apply Awake.running
    · exact through
    · cases returned <;> simp
    · cases returned <;> simp
    · cases returned <;> simpa [State.inHand] using fifo
    · exact represents
  | putData data purging =>
    have through := free (by simp [receiver])
    rw [receiver] at fifo
    dsimp only
    rcases s.rcDataQueue.attempt purging data with ⟨queue, outcome⟩
    cases outcome with
    | done => exact Awake.running through (by simp) (by simp) fifo decoder
    | full => exact Awake.running through (by simp) (by simp) fifo decoder
    | purged => exact Awake.running through (by simp) (by simp) fifo decoder
  | undefined => exact absurd receiver defined

/-- Every call keeps the invariant. -/
theorem Awake.step {s : State capacity} (awake : Awake s) (event : Event) :
    Awake (UartReceiver.step s event).1 := by
  cases event with
  | callback evt => exact awake.callback evt
  | giveRx => exact awake.giveRx
  | receiver => exact awake.receive
  | rcDataGet =>
    have ⟨waits, drained, fifo, decoder, defined⟩ := awake
    exact ⟨waits, drained, fifo, decoder, defined⟩

theorem awake_run (capacity : ℕ) (inst : SbusDecoderInstance) (sbusMsg : SbusMessage)
    (events : List Event) : Awake ((machine capacity inst sbusMsg).run events) :=
  Machine.invariant_run Awake (awake_initial inst sbusMsg) (fun _ event awake => awake.step event)
    events

/-- No interleaving loses a wake-up or a byte that the ring buffer accepted. -/
theorem noLostWakeup (capacity : ℕ) (inst : SbusDecoderInstance) (sbusMsg : SbusMessage)
    (events : List Event) : NoLostWakeup ((machine capacity inst sbusMsg).run events) := by
  have awake := awake_run capacity inst sbusMsg events
  have drained (blocked : State.Blocked _) (idle : State.callbacks _ = 0) :=
    awake.drained blocked.1 idle (Semaphore.exclusive _ blocked.2)
  refine ⟨drained, awake.fifo, fun blocked idle => ?_⟩
  have fifo := awake.fifo
  rw [State.inHand, blocked.1, drained blocked idle] at fifo
  simpa using fifo.symm

end Robofw.Model.UartReceiver
