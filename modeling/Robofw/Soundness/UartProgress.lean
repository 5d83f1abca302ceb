import Robofw.Core.Approach
import Robofw.Soundness.UartDelivery

/-! # The receiver of the SBUS UART catches up

From every reachable state the receiver thread, once the open callbacks have ended and it runs alone,
blocks after at most five calls for each waiting byte and eight more: its put-or-purge loop ends because
it is the only producer. By then it has put every message of the accepted bytes.
-/

namespace Robofw.Model.UartReceiver

open Robofw.Core

variable {capacity : ℕ} {s : State capacity}

/-- A bound on the calls for the waiting bytes and the permit. -/
def State.backlog (s : State capacity) : ℕ := 5 * s.ringBuffer.items.length + 2 * s.rxSem.count

/-- A bound on the calls that the receiver makes alone before it blocks. -/
def State.work (s : State capacity) : ℕ :=
  match s.receiver with
  | .semTake => if s.rxSem.waiting then 0 else s.backlog + 1
  | .ringBufGet => s.backlog + 2
  | .decode _ => s.backlog + 6
  | .putData _ purging =>
    s.backlog + if purging then 4 else if s.rcDataQueue.items.length < 1 then 3 else 5
  | .undefined => 0

theorem work_le (s : State capacity) : s.work ≤ 5 * s.ringBuffer.items.length + 8 := by
  have permits := s.rxSem.bounded
  unfold State.work State.backlog
  split
  · split <;> omega
  · omega
  · omega
  · split
    · omega
    · split <;> omega
  · omega

/-- Nothing is left to do only for a blocked receiver. -/
theorem blocked_of_work (awake : Awake s) (done : s.work = 0) : s.Blocked := by
  unfold State.work at done
  split at done
  case h_1 receiver =>
    split at done
    · exact ⟨receiver, ‹_›⟩
    · omega
  case h_4 receiver =>
    split at done
    · omega
    · split at done <;> omega
  case h_5 receiver => exact absurd receiver awake.defined
  all_goals omega

/-- A call of the put-or-purge loop comes closer to its end. -/
theorem work_putData {data : ReceiverData} {purging : Bool} (receiver : s.receiver = .putData data purging) :
    (receiverStep s).work + 1 ≤ s.work := by
  have completes := @MessageQueue.attempt_done_iff _ _ s.rcDataQueue purging data
  unfold State.work State.backlog
  simp only [receiverStep, receiver]
  cases purging with
  | true =>
    have retries : (Attempt.purged == Attempt.full) = false := rfl
    simp only [MessageQueue.attempt, if_true, MessageQueue.items_empty, retries, List.length_nil,
      Nat.one_pos, Bool.false_eq_true, if_false]
    omega
  | false =>
    rcases Nat.lt_or_ge s.rcDataQueue.items.length 1 with room | noRoom
    · rcases attempted : s.rcDataQueue.attempt false data with ⟨queue, outcome⟩
      rw [attempted] at completes
      obtain rfl := completes.mpr ⟨rfl, room⟩
      simp only [room, if_true, Bool.false_eq_true, if_false]
      omega
    · have full : s.rcDataQueue.put data = none :=
        MessageQueue.put_eq_none_iff.mpr (Nat.le_antisymm s.rcDataQueue.bounded noRoom)
      simp only [MessageQueue.attempt, Bool.false_eq_true, if_false, full]
      simp only [beq_self_eq_true, Nat.not_lt.mpr noRoom, if_true, if_false]
      omega

/-- Every call of a receiver that is not blocked brings it closer. -/
theorem work_receiverStep (awake : Awake s) :
    (receiverStep s).work = 0 ∨ (receiverStep s).work + 1 ≤ s.work := by
  cases receiver : s.receiver with
  | semTake =>
    unfold receiverStep
    simp only [receiver]
    split
    case isTrue blocked => exact .inl (by simp only [State.work, receiver, blocked, if_true])
    case isFalse running =>
      rcases taken : s.rxSem.take with ⟨rxSem, went⟩
      unfold Semaphore.take at taken
      split at taken
      case isTrue permit =>
        obtain ⟨rfl, rfl⟩ := Prod.mk.inj taken
        refine .inr ?_
        simp only [State.work, State.backlog, receiver, running, if_true, Bool.false_eq_true, if_false,
          Semaphore.init]
        omega
      case isFalse =>
        obtain ⟨rfl, rfl⟩ := Prod.mk.inj taken
        exact .inl rfl
  | ringBufGet =>
    refine .inr ?_
    unfold receiverStep
    simp only [receiver]
    split
    case h_1 ch ringBuffer got =>
      simp only [State.work, State.backlog, receiver, MessageQueue.get_eq_some got, List.length_cons]
      omega
    case h_2 =>
      simp only [State.work, receiver]
      split
      · omega
      · change s.backlog + 1 + 1 ≤ _
        omega
  | decode ch =>
    obtain ⟨decoder, success, -⟩ := sbusDecodeMessage_represents awake.decoder
      (Rccar.opened_openBlock s.handed) ch s.sbusMsgBuffer
    refine .inr ?_
    unfold receiverStep
    simp only [receiver, success]
    cases (answer s.sbusMsgBuffer _).2 with
    | true =>
      simp only [State.work, State.backlog, receiver, if_true, Bool.false_eq_true, if_false]
      split <;> omega
    | false =>
      simp only [State.work, State.backlog, receiver, Bool.false_eq_true, if_false]
      omega
  | putData data purging => exact .inr (work_putData receiver)
  | undefined => exact absurd receiver awake.defined

/-- The receiver's calls leave the callbacks and the accepted bytes alone. -/
theorem receiverStep_frame (s : State capacity) : (receiverStep s).callbacks = s.callbacks ∧
    (receiverStep s).accepted = s.accepted := by
  unfold receiverStep
  split
  · split <;> exact ⟨rfl, rfl⟩
  · split <;> exact ⟨rfl, rfl⟩
  · split <;> exact ⟨rfl, rfl⟩
  · split <;> exact ⟨rfl, rfl⟩
  · exact ⟨rfl, rfl⟩

/-- Alone, the receiver approaches the blocked state. -/
theorem approaches (bytes : List UInt8) : Approaches (@receiverStep capacity) State.work 1
    fun s => Awake s ∧ s.callbacks = 0 ∧ s.accepted = bytes where
  keep s holds := by
    obtain ⟨awake, idle, accepted⟩ := holds
    obtain ⟨callbacks, bytes⟩ := receiverStep_frame s
    exact ⟨awake.receive, callbacks.trans idle, bytes.trans accepted⟩
  closer _ holds := work_receiverStep holds.1

/-- The gives of the open callbacks, one after another. -/
theorem iterate_giveRx (s : State capacity) (count : ℕ) :
    (giveRxStep^[count] s).callbacks = s.callbacks - count ∧
      (giveRxStep^[count] s).accepted = s.accepted ∧
      (giveRxStep^[count] s).ringBuffer = s.ringBuffer := by
  induction count with
  | zero => exact ⟨rfl, rfl, rfl⟩
  | succ count ih =>
    obtain ⟨callbacks, accepted, ringBuffer⟩ := ih
    have given (t : State capacity) : (giveRxStep t).callbacks = t.callbacks - 1 ∧
        (giveRxStep t).accepted = t.accepted ∧ (giveRxStep t).ringBuffer = t.ringBuffer := by
      unfold giveRxStep
      split
      case isTrue none => exact ⟨by omega, rfl, rfl⟩
      case isFalse => exact ⟨rfl, rfl, rfl⟩
    rw [Function.iterate_succ_apply']
    obtain ⟨fewer, same, unread⟩ := given (giveRxStep^[count] s)
    refine ⟨?_, same.trans accepted, unread.trans ringBuffer⟩
    rw [fewer, callbacks, Nat.sub_sub]

/-- The open callbacks end, and then the receiver runs alone. -/
def catchUp (s : State capacity) : List Event :=
  List.replicate s.callbacks .giveRx ++
    List.replicate (5 * s.ringBuffer.items.length + 8) .receiver

/-- The receiver waits with nothing left to do, after these puts and takes: it has put the messages of the
`accepted` bytes. -/
structure CaughtUp (accepted : List UInt8) (s : State capacity) (puts takes : List ReceiverData) : Prop where
  blocked : s.Blocked
  drained : s.ringBuffer.items = []
  handed : s.handed = accepted
  put : puts = (parseSbus accepted).map scaleMessage
  newest : (takes ++ s.rcDataQueue.items).getLast? = puts.getLast?

section

variable (capacity : ℕ) (inst : SbusDecoderInstance) (sbusMsg : SbusMessage) (events : List Event)

/-- From every reachable state the receiver blocks after the calls of `catchUp`; then every message of the
accepted bytes has been put, and the newest of them waits or was the last one taken. -/
theorem receiver_catchesUp :
    CaughtUp ((machine capacity inst sbusMsg).run events).accepted
      ((machine capacity inst sbusMsg).run
        (events ++ catchUp ((machine capacity inst sbusMsg).run events)))
      ((machine capacity inst sbusMsg).observed completedPut
        (events ++ catchUp ((machine capacity inst sbusMsg).run events)))
      ((machine capacity inst sbusMsg).observed takenData
        (events ++ catchUp ((machine capacity inst sbusMsg).run events))) := by
  set s := (machine capacity inst sbusMsg).run events
  set settled := (machine capacity inst sbusMsg).run (events ++ catchUp s)
  have reached : settled =
      receiverStep^[5 * s.ringBuffer.items.length + 8] (giveRxStep^[s.callbacks] s) := by
    change (machine capacity inst sbusMsg).run (events ++ catchUp s) = _
    rw [Machine.run_append, catchUp, Machine.runFrom_append, Machine.runFrom_replicate,
      Machine.runFrom_replicate]
    rfl
  have awake (events : List Event) := awake_run capacity inst sbusMsg events
  obtain ⟨callbacks, accepted, ringBuffer⟩ := iterate_giveRx s s.callbacks
  have given : Awake (giveRxStep^[s.callbacks] s) ∧
      (giveRxStep^[s.callbacks] s).callbacks = 0 ∧
      (giveRxStep^[s.callbacks] s).accepted = s.accepted := by
    refine ⟨?_, callbacks.trans (Nat.sub_self _), accepted⟩
    have run := awake (events ++ List.replicate s.callbacks .giveRx)
    rwa [Machine.run_append, Machine.runFrom_replicate] at run
  have steps := (approaches s.accepted).iterate_le (5 * s.ringBuffer.items.length + 8) given
  obtain ⟨-, idle, kept⟩ :=
    (approaches s.accepted).iterate_keep (5 * s.ringBuffer.items.length + 8) given
  rw [← reached] at steps idle kept
  have enough := work_le (giveRxStep^[s.callbacks] s)
  rw [ringBuffer] at enough
  have blocked : settled.Blocked :=
    blocked_of_work (awake (events ++ catchUp s)) (by omega)
  have drained := (awake (events ++ catchUp s)).drained blocked.1 idle
    (Semaphore.exclusive _ blocked.2)
  have put := settled_run capacity inst sbusMsg (events ++ catchUp s) blocked idle
  rw [kept] at put
  have fifo := (awake (events ++ catchUp s)).fifo
  rw [State.inHand, blocked.1, drained, List.append_nil, List.append_nil, kept] at fifo
  have newest := newest_run capacity inst sbusMsg (events ++ catchUp s)
    (congrArg ReceiverPc.pending blocked.1)
  exact ⟨blocked, drained, fifo.symm, put, newest⟩

end

end Robofw.Model.UartReceiver
