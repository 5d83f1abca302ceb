import Robofw.Soundness.ReceiverFailsafe
import Robofw.Soundness.UartDelivery

/-! # The UART receiver refines the receiver service

The service of `Model/Receiver.lean` takes a byte, decodes it and puts the data in one step. Call by call
and interleaved with the callbacks and the consumer, the thread shows the same bytes, puts and takes in
the same order: its step ends with the last call for a byte, and a purge between two of its calls only
lets the consumer find the queue empty.
-/

namespace Robofw.Model

open Robofw.Core

/-- A byte that has been dealt with, data put, or data taken. -/
inductive RcShown where
  | byte (ch : UInt8)
  | put (data : ReceiverData)
  | taken (data : ReceiverData)
deriving DecidableEq

/-- The data of a put. -/
def RcShown.put? : RcShown → Option ReceiverData
  | .put data => some data
  | _ => none

namespace ReceiverService

/-- The service as a machine; a write outside the decoder's buffer would stop it. -/
def machine (inst : SbusDecoderInstance) (sbusMsg : SbusMessage) :
    Machine ReceiverService ReceiverEvent Published :=
  ⟨⟨sbusDecoderInit inst, sbusMsg, .empty⟩, fun s event => (s.step event).getD (s, [])⟩

/-- What a step of the service publishes. -/
def published (s : ReceiverService) (event : ReceiverEvent) : List Published :=
  ((s.step event).getD (s, [])).2

/-- What a step of the service shows. -/
def shown (s : ReceiverService) : ReceiverEvent → List RcShown
  | .byte ch => .byte ch :: (s.published (.byte ch)).map (.put ·.data)
  | .rcDataGet => s.rcDataQueue.items.head?.toList.map .taken

theorem put?_shown (s : ReceiverService) (event : ReceiverEvent) :
    (s.shown event).filterMap RcShown.put? = (s.published event).map (·.data) := by
  cases event with
  | byte ch =>
    simp [shown, List.filterMap_cons, List.filterMap_map, Function.comp_def, RcShown.put?]
  | rcDataGet => cases items : s.rcDataQueue.items <;> simp [shown, items, RcShown.put?, published, step]

variable (inst : SbusDecoderInstance) (sbusMsg : SbusMessage)

/-- The machine publishes what the service publishes. -/
theorem publish_machine (events : List ReceiverEvent) {s : ReceiverService} {opened : List UInt8}
    (represents : Represents s.sbusDecoder opened) (isOpen : Opened sbusFrameHead 25 opened) :
    s.publish events = some ((machine inst sbusMsg).observedFrom published s events) := by
  induction events generalizing s opened with
  | nil => rfl
  | cons event rest ih =>
    rw [Machine.observedFrom_cons]
    change _ = some (published s event ++
      (machine inst sbusMsg).observedFrom published ((s.step event).getD (s, [])).1 rest)
    cases event with
    | rcDataGet =>
      have run := @ih { s with rcDataQueue := s.rcDataQueue.afterGet } opened represents isOpen
      simp only [publish, published, step, run, Option.getD_some]
      rfl
    | byte ch =>
      obtain ⟨next, success, after⟩ := step_byte represents isOpen ch
      simp only [publish, published, success, Option.getD_some]
      rw [ih after (isOpen.feed ch)]
      rfl

end ReceiverService

namespace UartReceiver

variable {capacity : ℕ} {s : State capacity} {t : ReceiverService}

/-- The byte that a step finishes: decoded without a message, or its data put. -/
def finishedByte (s : State capacity) : Event → List UInt8
  | .receiver =>
    match s.receiver with
    | .decode ch =>
      match sbusDecodeMessage s.sbusDecoder ch s.sbusMsgBuffer with
      | some (_, _, true) => []
      | _ => [ch]
    | .putData data purging =>
      if (s.rcDataQueue.attempt purging data).2 = .done then s.handed.getLast?.toList else []
    | _ => []
  | _ => []

/-- What a step of the thread shows. -/
def shown (s : State capacity) (event : Event) : List RcShown :=
  (finishedByte s event).map .byte ++ (completedPut s event).map .put ++ (takenData s event).map .taken

theorem put?_shown (s : State capacity) (event : Event) :
    (shown s event).filterMap RcShown.put? = completedPut s event := by
  simp [shown, List.filterMap_append, List.filterMap_map, Function.comp_def, RcShown.put?]

/-- The steps of the service that answer a step of the thread. -/
def answers (s : State capacity) (event : Event) : List ReceiverEvent :=
  (finishedByte s event).map .byte ++ (takenData s event).map fun _ => .rcDataGet

/-- The service is one byte behind while data is pending: it has not decoded the last handed byte, and
its queue is the thread's unless that has been purged. -/
structure Pending (s : State capacity) (t : ReceiverService) (data : ReceiverData) : Prop where
  decodes : ∃ ch, s.handed.getLast? = some ch ∧
    sbusDecodeMessage t.sbusDecoder ch t.sbusMsgBuffer = some (s.sbusDecoder, s.sbusMsgBuffer, true)
  scaled : data = scaleMessage s.sbusMsgBuffer
  queue : t.rcDataQueue = s.rcDataQueue ∨ s.rcDataQueue.items = []

/-- The thread and the service agree between two bytes. -/
structure Refines (s : State capacity) (t : ReceiverService) : Prop where
  awake : Awake s
  between : s.receiver.pending = [] → t = ⟨s.sbusDecoder, s.sbusMsgBuffer, s.rcDataQueue⟩
  pending : ∀ data ∈ s.receiver.pending, Pending s t data

/-- A step that moves no byte, message or data is not seen by the service. -/
theorem Refines.unseen {next : State capacity} (refines : Refines s t) (awake : Awake next)
    (receiver : next.receiver.pending = s.receiver.pending) (handed : next.handed = s.handed)
    (decoder : next.sbusDecoder = s.sbusDecoder) (message : next.sbusMsgBuffer = s.sbusMsgBuffer)
    (queue : next.rcDataQueue = s.rcDataQueue) : Refines next t := by
  refine ⟨awake, fun none => ?_, fun data member => ?_⟩
  · rw [decoder, message, queue]
    exact refines.between (receiver.symm.trans none)
  · obtain ⟨decodes, scaled, kept⟩ := refines.pending data (receiver ▸ member)
    constructor
    · rw [handed, decoder, message]
      exact decodes
    · rw [message]
      exact scaled
    · rw [queue]
      exact kept

/-- A get of the consumer that finds data is a get in the service. -/
theorem Refines.rcDataGet (refines : Refines s t) (inst : SbusDecoderInstance) (sbusMsg : SbusMessage) :
    Refines (step s .rcDataGet).1
        ((ReceiverService.machine inst sbusMsg).runFrom t (answers s .rcDataGet)) ∧
      (ReceiverService.machine inst sbusMsg).observedFrom ReceiverService.shown t (answers s .rcDataGet) =
        shown s .rcDataGet := by
  have awake := refines.awake.step .rcDataGet
  cases items : s.rcDataQueue.items with
  | nil =>
    have same : s.rcDataQueue.afterGet = s.rcDataQueue := by
      have taken := s.rcDataQueue.head_afterGet
      rw [items] at taken
      exact MessageQueue.eq_of_items (taken.trans items.symm)
    have none : takenData s .rcDataGet = [] := by rw [takenData, items]; rfl
    rw [answers, shown, none]
    exact ⟨refines.unseen awake rfl rfl rfl rfl same, rfl⟩
  | cons data rest =>
    have taken : takenData s .rcDataGet = [data] := by rw [takenData, items]; rfl
    have queue : t.rcDataQueue = s.rcDataQueue := by
      cases receiver : s.receiver.pending with
      | nil => rw [refines.between receiver]
      | cons waiting _ =>
        rcases (refines.pending waiting (receiver ▸ List.mem_cons_self ..)).queue with same | empty
        · exact same
        · rw [items] at empty
          contradiction
    rw [answers, shown, taken]
    refine ⟨⟨awake, fun none => ?_, fun other member => ?_⟩, ?_⟩
    · rw [refines.between none]
      rfl
    · obtain ⟨decodes, scaled, -⟩ := refines.pending other member
      exact ⟨decodes, scaled, .inl (congrArg MessageQueue.afterGet queue)⟩
    · change t.rcDataQueue.items.head?.toList.map RcShown.taken ++ [] = _
      rw [queue, items]
      rfl

/-- A byte that completes no message is a step of the service; one that completes a message is not yet. -/
theorem Refines.decode (refines : Refines s t) {ch : UInt8} (receiver : s.receiver = .decode ch)
    (inst : SbusDecoderInstance) (sbusMsg : SbusMessage) :
    Refines (receiverStep s) ((ReceiverService.machine inst sbusMsg).runFrom t (answers s .receiver)) ∧
      (ReceiverService.machine inst sbusMsg).observedFrom ReceiverService.shown t (answers s .receiver) =
        shown s .receiver := by
  have awake := refines.awake.receive
  have unput : completedPut s .receiver = [] := by simp only [completedPut, receiver]
  obtain rfl := refines.between (by rw [receiver]; rfl)
  obtain ⟨decoder, message, returned, success, -⟩ :=
    decode_represents refines.awake.decoder ch s.sbusMsgBuffer
  cases returned with
  | false =>
    have finished : finishedByte s .receiver = [ch] := by simp only [finishedByte, receiver, success]
    have taken : ReceiverService.step ⟨s.sbusDecoder, s.sbusMsgBuffer, s.rcDataQueue⟩ (.byte ch) =
        some (⟨decoder, message, s.rcDataQueue⟩, []) := by simp only [ReceiverService.step, success]
    have next : receiverStep s = { s with
        handed := s.handed ++ [ch], sbusDecoder := decoder, sbusMsgBuffer := message
        receiver := .ringBufGet } := by simp [receiverStep, receiver, success]
    rw [next] at awake ⊢
    rw [answers, shown, finished, unput]
    constructor
    · refine ⟨awake, fun _ => ?_, fun other member => absurd member List.not_mem_nil⟩
      change ((ReceiverService.step _ (.byte ch)).getD (_, [])).1 = _
      rw [taken]
      rfl
    · change ReceiverService.shown _ (.byte ch) ++ [] = _
      rw [ReceiverService.shown, ReceiverService.published, taken]
      rfl
  | true =>
    have unfinished : finishedByte s .receiver = [] := by simp only [finishedByte, receiver, success]
    have next : receiverStep s = { s with
        handed := s.handed ++ [ch], sbusDecoder := decoder, sbusMsgBuffer := message
        receiver := .putData (scaleMessage message) false } := by
      simp [receiverStep, receiver, success]
    rw [next] at awake ⊢
    rw [answers, shown, unfinished, unput]
    refine ⟨⟨awake, fun none => absurd none (List.cons_ne_nil _ _), fun data member => ?_⟩, rfl⟩
    obtain rfl := List.mem_singleton.mp member
    exact ⟨⟨ch, List.getLast?_concat, success⟩, rfl, .inl rfl⟩

/-- The put that completes is the step of the service for the last handed byte; the calls before it are
not seen. -/
theorem Refines.putData (refines : Refines s t) {data : ReceiverData} {purging : Bool}
    (receiver : s.receiver = .putData data purging) (inst : SbusDecoderInstance) (sbusMsg : SbusMessage) :
    Refines (receiverStep s) ((ReceiverService.machine inst sbusMsg).runFrom t (answers s .receiver)) ∧
      (ReceiverService.machine inst sbusMsg).observedFrom ReceiverService.shown t (answers s .receiver) =
        shown s .receiver := by
  have awake := refines.awake.receive
  have pends : data ∈ s.receiver.pending := by rw [receiver]; exact List.mem_singleton_self data
  obtain ⟨⟨ch, last, decodes⟩, scaled, kept⟩ := refines.pending data pends
  have effect := MessageQueue.attempt_items s.rcDataQueue purging data
  have completes := @MessageQueue.attempt_done_iff _ _ s.rcDataQueue purging data
  rcases attempted : s.rcDataQueue.attempt purging data with ⟨queue, outcome⟩
  rw [attempted] at effect completes
  have retried (notDone : outcome ≠ .done) : receiverStep s = { s with
      rcDataQueue := queue, receiver := .putData data (outcome == .full) } := by
    cases outcome with
    | done => exact absurd rfl notDone
    | full => simp [receiverStep, receiver, attempted]
    | purged => simp [receiverStep, receiver, attempted]
  have unseen (notDone : outcome ≠ .done) : answers s .receiver = [] ∧ shown s .receiver = [] := by
    simp [answers, shown, finishedByte, completedPut, takenData, receiver, attempted, notDone]
  cases outcome with
  | done =>
    obtain ⟨rfl, room⟩ := completes.mp rfl
    have empty := List.eq_nil_of_length_eq_zero (Nat.lt_one_iff.mp room)
    have finished : finishedByte s .receiver = [ch] := by
      simp only [finishedByte, receiver, attempted, if_true, last, Option.toList_some]
    have put : completedPut s .receiver = [data] := by
      simp only [completedPut, receiver, attempted, if_true]
    have next : receiverStep s = { s with rcDataQueue := queue, receiver := .ringBufGet } := by
      simp [receiverStep, receiver, attempted]
    have taken : t.step (.byte ch) = some (⟨s.sbusDecoder, s.sbusMsgBuffer,
        t.rcDataQueue.putOrPurge data⟩, [⟨data, s.sbusDecoder.data⟩]) := by
      simp only [ReceiverService.step, decodes, scaled]
    have same : t.rcDataQueue.putOrPurge data = queue := by
      apply MessageQueue.eq_of_items
      rw [MessageQueue.items_putOrPurge, effect, empty, List.nil_append]
    rw [next] at awake ⊢
    rw [answers, shown, finished, put]
    constructor
    · refine ⟨awake, fun _ => ?_, fun other member => absurd member List.not_mem_nil⟩
      change ((t.step (.byte ch)).getD (t, [])).1 = _
      rw [taken, same]
      rfl
    · change ReceiverService.shown _ (.byte ch) ++ [] = _
      rw [ReceiverService.shown, ReceiverService.published, taken]
      rfl
  | full =>
    obtain rfl : queue = s.rcDataQueue := effect
    obtain ⟨unanswered, unshown⟩ := unseen (by decide)
    rw [retried (by decide)] at awake ⊢
    rw [unanswered, unshown]
    exact ⟨refines.unseen awake (by rw [receiver]; rfl) rfl rfl rfl rfl, rfl⟩
  | purged =>
    obtain ⟨unanswered, unshown⟩ := unseen (by decide)
    rw [retried (by decide)] at awake ⊢
    rw [unanswered, unshown]
    refine ⟨⟨awake, fun none => absurd none (List.cons_ne_nil _ _), fun other member => ?_⟩, rfl⟩
    obtain rfl := List.mem_singleton.mp member
    exact ⟨⟨ch, last, decodes⟩, scaled, .inr (congrArg MessageQueue.items effect)⟩

/-- Every step of the thread and of its environment is answered. -/
theorem Refines.step (refines : Refines s t) (inst : SbusDecoderInstance) (sbusMsg : SbusMessage)
    (event : Event) :
    Refines (UartReceiver.step s event).1
        ((ReceiverService.machine inst sbusMsg).runFrom t (answers s event)) ∧
      (ReceiverService.machine inst sbusMsg).observedFrom ReceiverService.shown t (answers s event) =
        shown s event := by
  have awake := refines.awake.step event
  cases event with
  | callback evt => cases evt <;> exact ⟨refines.unseen awake rfl rfl rfl rfl rfl, rfl⟩
  | rcDataGet => exact refines.rcDataGet inst sbusMsg
  | giveRx =>
    refine ⟨?_, rfl⟩
    revert awake
    change Awake (giveRxStep s) → Refines (giveRxStep s) t
    unfold giveRxStep
    split
    · exact fun _ => refines
    · intro awake
      refine refines.unseen awake ?_ rfl rfl rfl rfl
      rcases given : s.rxSem.give with ⟨rxSem, woken⟩
      cases woken with
      | false => rfl
      | true => rw [refines.awake.waits (Semaphore.waiting_of_give given)]; rfl
  | receiver =>
    change Refines (receiverStep s) _ ∧ _
    change Awake (receiverStep s) at awake
    cases receiver : s.receiver with
    | semTake =>
      have unseen : answers s .receiver = [] ∧ shown s .receiver = [] := by
        simp [answers, shown, finishedByte, completedPut, takenData, receiver]
      rw [unseen.1, unseen.2]
      refine ⟨?_, rfl⟩
      revert awake
      simp only [receiverStep, receiver]
      split
      · exact fun _ => refines
      · refine fun awake => refines.unseen awake ?_ rfl rfl rfl rfl
        rw [receiver]
        cases s.rxSem.take.2 <;> rfl
    | ringBufGet =>
      have unseen : answers s .receiver = [] ∧ shown s .receiver = [] := by
        simp [answers, shown, finishedByte, completedPut, takenData, receiver]
      rw [unseen.1, unseen.2]
      refine ⟨?_, rfl⟩
      revert awake
      simp only [receiverStep, receiver]
      split
      · exact fun awake => refines.unseen awake (by rw [receiver]; rfl) rfl rfl rfl rfl
      · exact fun awake => refines.unseen awake (by rw [receiver]; rfl) rfl rfl rfl rfl
    | decode ch => exact refines.decode receiver inst sbusMsg
    | putData data purging => exact refines.putData receiver inst sbusMsg
    | undefined => exact absurd receiver refines.awake.defined

/-- The thread, call by call, is simulated by the service. -/
def simulation (capacity : ℕ) (inst : SbusDecoderInstance) (sbusMsg : SbusMessage) :
    Simulation (machine capacity inst sbusMsg) (ReceiverService.machine inst sbusMsg) shown
      ReceiverService.shown where
  relation := Refines
  translate := answers
  start := by
    refine ⟨awake_initial inst sbusMsg, fun _ => rfl, fun data member => ?_⟩
    exact absurd member List.not_mem_nil
  step _ _ event refines := refines.step inst sbusMsg event

/-- In every interleaving the thread shows the bytes, puts and takes of a run of the service, in the same
order, and what that run publishes is what the thread put. The service handles one byte in a step. -/
theorem refines_receiverService (capacity : ℕ) (inst : SbusDecoderInstance) (sbusMsg : SbusMessage)
    (events : List Event) : ∃ coarse published,
      (ReceiverService.machine inst sbusMsg).observed ReceiverService.shown coarse =
        (machine capacity inst sbusMsg).observed shown events ∧
      ReceiverService.publish ⟨sbusDecoderInit inst, sbusMsg, .empty⟩ coarse = some published ∧
      published.map (·.data) = (machine capacity inst sbusMsg).observed completedPut events := by
  obtain ⟨-, same⟩ := (simulation capacity inst sbusMsg).run events
  refine ⟨_, _, same, ReceiverService.publish_machine inst sbusMsg _ (represents_nil rfl)
    (opened_nil (by decide)), ?_⟩
  have puts := congrArg (List.filterMap RcShown.put?) same
  rw [Machine.filterMap_observed, Machine.filterMap_observed] at puts
  simp only [ReceiverService.put?_shown, put?_shown] at puts
  refine Eq.trans ?_ puts
  exact List.map_flatMap

end UartReceiver

end Robofw.Model
