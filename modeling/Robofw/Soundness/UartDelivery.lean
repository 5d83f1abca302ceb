import Robofw.Core.Observation
import Robofw.Soundness.RccarThrottle
import Robofw.Soundness.SbusWakeup

/-! # From the bytes of the SBUS UART to the RC data

In every interleaving of the callbacks, the receiver thread and the consumer, the receiver puts exactly
the messages of the bytes it handed to the decoder, in their order. Its put-or-purge loop drops data that
nobody took in time, but never the newest: that waits in the queue or was taken last.
-/

namespace Robofw.Model.UartReceiver

open Robofw.Core
open Rccar (openBlock opened_openBlock completedMessage parseSbus_concat)

variable {capacity : ℕ} {s : State capacity} {event : Event}

/-- The data that a step puts into `rc_data_msgq_out`. -/
def completedPut (s : State capacity) : Event → List ReceiverData
  | .receiver =>
    match s.receiver with
    | .putData data purging =>
      if (s.rcDataQueue.attempt purging data).2 = .done then [data] else []
    | _ => []
  | _ => []

/-- The data that a step takes from it. -/
def takenData (s : State capacity) : Event → List ReceiverData
  | .rcDataGet => s.rcDataQueue.items.head?.toList
  | _ => []

/-- The data that the receiver has scaled and not yet put. -/
def ReceiverPc.pending : ReceiverPc → List ReceiverData
  | .putData data _ => [data]
  | _ => []

/-- What a step can do to the RC data queue: nothing or a take, a put, or a purge in the middle of the
receiver's loop. -/
inductive QueueMove (s next : State capacity) (event : Event) : Prop
  | keep : completedPut s event = [] →
      takenData s event ++ next.rcDataQueue.items = s.rcDataQueue.items → QueueMove s next event
  | put (data : ReceiverData) : completedPut s event = [data] → takenData s event = [] →
      next.rcDataQueue.items = s.rcDataQueue.items ++ [data] → QueueMove s next event
  | purge : completedPut s event = [] → takenData s event = [] → next.rcDataQueue.items = [] →
      s.receiver.pending ≠ [] → QueueMove s next event

theorem receiverStep_queue (s : State capacity) : QueueMove s (receiverStep s) .receiver := by
  unfold receiverStep
  cases receiver : s.receiver with
  | putData data purging =>
    have effect := MessageQueue.attempt_items s.rcDataQueue purging data
    dsimp only
    split
    case h_1 queue attempted =>
      rw [attempted] at effect
      refine .put data ?_ rfl effect
      simp only [completedPut, receiver, attempted, if_true]
    case h_2 queue outcome notDone attempted =>
      rw [attempted] at effect
      have none : completedPut s .receiver = [] := by
        simp only [completedPut, receiver, attempted, if_neg notDone]
      cases outcome with
      | done => exact absurd rfl notDone
      | full => exact .keep none (congrArg MessageQueue.items effect)
      | purged =>
        exact .purge none rfl (congrArg MessageQueue.items effect) (by simp [ReceiverPc.pending, receiver])
  | semTake =>
    refine .keep (by simp only [completedPut, receiver]) ?_
    dsimp only
    split <;> rfl
  | ringBufGet =>
    refine .keep (by simp only [completedPut, receiver]) ?_
    dsimp only
    split <;> rfl
  | decode ch =>
    refine .keep (by simp only [completedPut, receiver]) ?_
    dsimp only
    split <;> rfl
  | undefined => exact .keep (by simp only [completedPut, receiver]) rfl

theorem step_queue (s : State capacity) (event : Event) : QueueMove s (step s event).1 event := by
  cases event with
  | callback evt => cases evt <;> exact .keep rfl rfl
  | giveRx =>
    refine .keep rfl ?_
    change (giveRxStep s).rcDataQueue.items = _
    unfold giveRxStep
    split <;> rfl
  | receiver => exact receiverStep_queue s
  | rcDataGet => exact .keep rfl s.rcDataQueue.head_afterGet

/-- After a byte, the message of a completed block is pending. -/
theorem pending_answer (sbusMsg : SbusMessage) (completed : Option SbusBytes) :
    (if (answer sbusMsg completed).2 then
        ReceiverPc.putData (scaleMessage (answer sbusMsg completed).1) false
      else .ringBufGet).pending = (completed.bind frameMessage).toList.map scaleMessage := by
  unfold answer
  cases completed.bind frameMessage <;> rfl

/-- The messages that a step adds to those of the handed bytes are put or become pending. -/
theorem step_messages (awake : Awake s) (event : Event) : ∃ messages,
    parseSbus (step s event).1.handed = parseSbus s.handed ++ messages ∧
      completedPut s event ++ (step s event).1.receiver.pending =
        s.receiver.pending ++ messages.map scaleMessage := by
  have unchanged {handed : List UInt8} {shown pending : List ReceiverData} (same : handed = s.handed)
      (moved : shown = pending) : ∃ messages, parseSbus handed = parseSbus s.handed ++ messages ∧
        shown = pending ++ messages.map scaleMessage := by
    refine ⟨[], ?_, ?_⟩
    · rw [same, List.append_nil]
    · rw [moved, List.map_nil, List.append_nil]
  cases event with
  | callback evt => cases evt <;> exact unchanged rfl rfl
  | rcDataGet => exact unchanged rfl rfl
  | giveRx =>
    change ∃ messages, parseSbus (giveRxStep s).handed = _ ∧ [] ++ (giveRxStep s).receiver.pending = _
    unfold giveRxStep
    split
    · exact unchanged rfl rfl
    · rcases given : s.rxSem.give with ⟨rxSem, woken⟩
      refine unchanged rfl ?_
      cases woken with
      | false => rfl
      | true => rw [awake.waits (Semaphore.waiting_of_give given)]; rfl
  | receiver =>
    change ∃ messages, parseSbus (receiverStep s).handed = _ ∧ _ ++ (receiverStep s).receiver.pending = _
    unfold receiverStep
    cases receiver : s.receiver with
    | semTake =>
      simp only [completedPut, receiver]
      split
      · exact unchanged rfl (congrArg ReceiverPc.pending receiver)
      · refine unchanged rfl ?_
        cases s.rxSem.take.2 <;> rfl
    | ringBufGet =>
      simp only [completedPut, receiver]
      split <;> exact unchanged rfl rfl
    | decode ch =>
      obtain ⟨decoder, success, -⟩ := sbusDecodeMessage_represents awake.decoder
        (opened_openBlock s.handed) ch s.sbusMsgBuffer
      simp only [completedPut, receiver, success]
      refine ⟨(completedMessage s.handed ch).toList, parseSbus_concat s.handed ch, ?_⟩
      exact pending_answer s.sbusMsgBuffer (feed sbusFrameHead 25 (openBlock s.handed) ch).2
    | putData data purging =>
      simp only [completedPut, receiver]
      split
      case h_1 queue attempted =>
        refine unchanged rfl ?_
        rw [attempted]
        rfl
      case h_2 queue outcome notDone attempted =>
        refine unchanged rfl ?_
        rw [attempted, if_neg notDone]
        rfl
    | undefined => exact absurd receiver awake.defined

/-- What the receiver has put and the consumer taken, against the bytes. The settled state is the one in
which the receiver is blocked and no callback is between its put and its give. -/
structure Delivered (s : State capacity) (puts takes : List ReceiverData) : Prop where
  defined : s.receiver ≠ .undefined
  decoded : puts ++ s.receiver.pending = (parseSbus s.handed).map scaleMessage
  ordered : (takes ++ s.rcDataQueue.items).Sublist puts
  newest : s.receiver.pending = [] → (takes ++ s.rcDataQueue.items).getLast? = puts.getLast?
  settled : s.Blocked → s.callbacks = 0 → puts = (parseSbus s.accepted).map scaleMessage

section

variable (capacity : ℕ) (inst : SbusDecoderInstance) (sbusMsg : SbusMessage) (events : List Event)

theorem decoded_run : (machine capacity inst sbusMsg).observed completedPut events ++
    ((machine capacity inst sbusMsg).run events).receiver.pending =
      (parseSbus ((machine capacity inst sbusMsg).run events).handed).map scaleMessage := by
  induction events using List.reverseRecOn with
  | nil =>
    have none : parseSbus [] = [] := by rw [parseSbus, blocks_nil, List.filterMap_nil]
    exact (congrArg (List.map scaleMessage) none).symm
  | append_singleton events last ih =>
    obtain ⟨messages, parsed, moved⟩ := step_messages (awake_run capacity inst sbusMsg events) last
    rw [Machine.observed_concat, Machine.run_concat, List.append_assoc]
    change _ ++ (_ ++ (step _ last).1.receiver.pending) = (parseSbus (step _ last).1.handed).map _
    rw [moved, parsed, List.map_append, ← ih, List.append_assoc]

theorem ordered_run : ((machine capacity inst sbusMsg).observed takenData events ++
    ((machine capacity inst sbusMsg).run events).rcDataQueue.items).Sublist
      ((machine capacity inst sbusMsg).observed completedPut events) := by
  apply Machine.delivered_run (m := machine capacity inst sbusMsg) (fun s => s.rcDataQueue.items)
  · rfl
  · intro s event
    change (_ ++ (step s event).1.rcDataQueue.items).Sublist _
    cases step_queue s event with
    | keep none moved => rw [none, moved, List.append_nil]
    | put data put none items => rw [put, none, items, List.nil_append]
    | purge none untaken items => rw [none, untaken, items]; exact List.nil_sublist _

/-- While no put is in progress, the newest data put waits or was taken last. -/
theorem newest_run (idle : ((machine capacity inst sbusMsg).run events).receiver.pending = []) :
    ((machine capacity inst sbusMsg).observed takenData events ++
      ((machine capacity inst sbusMsg).run events).rcDataQueue.items).getLast? =
        ((machine capacity inst sbusMsg).observed completedPut events).getLast? := by
  induction events using List.reverseRecOn with
  | nil => rfl
  | append_singleton events last ih =>
    have awake := awake_run capacity inst sbusMsg events
    obtain ⟨messages, -, moved⟩ := step_messages awake last
    have move := step_queue ((machine capacity inst sbusMsg).run events) last
    rw [Machine.run_concat] at idle ⊢
    rw [Machine.observed_concat, Machine.observed_concat]
    change (step _ last).1.receiver.pending = [] at idle
    change (_ ++ (step _ last).1.rcDataQueue.items).getLast? = _
    rw [idle, List.append_nil] at moved
    cases move with
    | keep none kept =>
      rw [none] at moved ⊢
      have before := (List.append_eq_nil_iff.mp moved.symm).1
      rw [List.append_assoc, kept, List.append_nil]
      exact ih before
    | put data put none items =>
      rw [put, items, ← List.append_assoc, List.getLast?_concat, List.getLast?_concat]
    | purge none untaken items busy =>
      rw [none] at moved
      exact absurd (List.append_eq_nil_iff.mp moved.symm).1 busy

/-- Once the receiver has settled, it has put the messages of all accepted bytes. -/
theorem settled_run (blocked : ((machine capacity inst sbusMsg).run events).Blocked)
    (settled : ((machine capacity inst sbusMsg).run events).callbacks = 0) :
    (machine capacity inst sbusMsg).observed completedPut events =
      (parseSbus ((machine capacity inst sbusMsg).run events).accepted).map scaleMessage := by
  have awake := awake_run capacity inst sbusMsg events
  have decoded := decoded_run capacity inst sbusMsg events
  have drained := awake.drained blocked.1 settled (Semaphore.exclusive _ blocked.2)
  have fifo := awake.fifo
  rw [State.inHand, blocked.1, drained, List.append_nil, List.append_nil] at fifo
  rw [blocked.1] at decoded
  rw [fifo, ← decoded]
  exact (List.append_nil _).symm

/-- In every interleaving the RC data put are the messages of the handed bytes, what is taken is some of
it in order, and the newest is never lost; once the receiver has settled, every message of the accepted
bytes has been put. -/
theorem messages_delivered : Delivered ((machine capacity inst sbusMsg).run events)
    ((machine capacity inst sbusMsg).observed completedPut events)
    ((machine capacity inst sbusMsg).observed takenData events) :=
  ⟨(awake_run capacity inst sbusMsg events).defined, decoded_run capacity inst sbusMsg events,
    ordered_run .., newest_run capacity inst sbusMsg events, settled_run capacity inst sbusMsg events⟩

end

end Robofw.Model.UartReceiver
