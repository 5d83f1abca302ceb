import Robofw.Model.Receiver
import Robofw.Soundness.SbusStream

/-! # RC fail-safe

The receiver publishes every frame its decoder accepts, and nothing between the decoder and the queue
asks `ValidateSbusMessage`. What it publishes is trustworthy exactly when every complete frame on the
line is: no signal-lost or fault bit, and at most four of the first eight channels at zero.
-/

namespace Robofw.Model

open Robofw.Core

/-- `SIG_LOST` in the status byte. -/
def SigLost (frame : SbusBytes) : Prop := frame.get 23 &&& 0x20 ≠ 0

/-- `FAULT` in the status byte. -/
def Fault (frame : SbusBytes) : Prop := frame.get 23 &&& 0x10 ≠ 0

instance (frame : SbusBytes) : Decidable (SigLost frame) := inferInstanceAs (Decidable (_ ≠ _))

/-- Whatever the receiver holds at the start, each message it publishes is the scaled message of a
frame without the signal-lost and fault bits that `ValidateSbusMessage` accepts. -/
def FailSafe (events : List ReceiverEvent) : Prop :=
  ∀ inst sbusMsg, ∃ published,
    ReceiverService.publish ⟨sbusDecoderInit inst, sbusMsg, .empty⟩ events = some published ∧
      ∀ message ∈ published, message.data = scaleMessage (sbusBuildMessage message.frame) ∧
        ¬ SigLost message.frame ∧ ¬ Fault message.frame ∧
        validateSbusMessage (sbusBuildMessage message.frame) = true

/-- A frame that may be flown by: both status bits are clear, and at most four of the first eight
channels are zero. -/
structure Trustworthy (frame : SbusBytes) : Prop where
  linked : frame.get 23 &&& 0x20 = 0
  healthy : frame.get 23 &&& 0x10 = 0
  channels : ((sbusBuildMessage frame).channels.toList.take 8).count 0 ≤ 4

theorem fewZeros_iff (channels : List UInt16) {zeroNum : ℕ} (bound : zeroNum ≤ 4) :
    fewZeros zeroNum channels = true ↔ zeroNum + channels.count 0 ≤ 4 := by
  induction channels generalizing zeroNum with
  | nil => simp [fewZeros, bound]
  | cons channel rest ih =>
    by_cases zero : channel = 0
    · subst zero
      rw [List.count_cons_self]
      simp only [fewZeros, if_true]
      split
      · simp only [Bool.false_eq_true, false_iff]
        omega
      · rw [ih (by omega)]
        omega
    · simp only [fewZeros, if_neg zero, List.count_cons_of_ne zero, if_neg (Nat.not_lt.mpr bound)]
      exact ih bound

theorem validateSbusMessage_iff (sbusMsg : SbusMessage) :
    validateSbusMessage sbusMsg = true ↔
      sbusMsg.frameLoss = false ∧ sbusMsg.faultProtection = false ∧
        (sbusMsg.channels.toList.take 8).count 0 ≤ 4 := by
  have zeros := fewZeros_iff (sbusMsg.channels.toList.take 8) (Nat.zero_le 4)
  rw [Nat.zero_add] at zeros
  unfold validateSbusMessage
  cases sbusMsg.frameLoss <;> cases sbusMsg.faultProtection <;> simp [zeros]

/-- `ValidateSbusMessage` accepts a frame's message exactly when the frame is trustworthy. -/
theorem trustworthy_iff (frame : SbusBytes) :
    Trustworthy frame ↔ validateSbusMessage (sbusBuildMessage frame) = true := by
  rw [validateSbusMessage_iff]
  have loss : (sbusBuildMessage frame).frameLoss = false ↔ frame.get 23 &&& 0x20 = 0 := bne_eq_false_iff_eq
  have fault : (sbusBuildMessage frame).faultProtection = false ↔ frame.get 23 &&& 0x10 = 0 :=
    bne_eq_false_iff_eq
  rw [loss, fault]
  exact ⟨fun trust => ⟨trust.linked, trust.healthy, trust.channels⟩,
    fun valid => ⟨valid.1, valid.2.1, valid.2.2⟩⟩

/-- The frames the decoder accepts from an open block and the bytes delivered. -/
def accepted (opened : List UInt8) (events : List ReceiverEvent) : List SbusBytes :=
  (feedAll sbusFrameHead 25 opened (received events)).filter (·.get 24 = sbusFrameTail)

/-- What the receiver publishes of a frame. -/
def publishedFrame (frame : SbusBytes) : Published :=
  ⟨scaleMessage (sbusBuildMessage frame), frame⟩

/-- A byte that completes an accepted frame publishes it, and no other byte publishes anything. -/
theorem step_byte {s : ReceiverService} {opened : List UInt8}
    (represents : Represents s.sbusDecoder opened) (isOpen : Opened sbusFrameHead 25 opened)
    (ch : UInt8) :
    ∃ next, s.step (.byte ch) = some (next,
        ((feed sbusFrameHead 25 opened ch).2.toList.filter (·.get 24 = sbusFrameTail)).map
          publishedFrame) ∧
      Represents next.sbusDecoder (feed sbusFrameHead 25 opened ch).1 := by
  obtain ⟨decoder, success, after, buffer⟩ :=
    sbusDecodeMessage_represents represents isOpen ch s.sbusMsgBuffer
  cases completed : (feed sbusFrameHead 25 opened ch).2 with
  | none =>
    simp only [completed, answer, Option.bind_none] at success
    exact ⟨_, by simp only [ReceiverService.step, success]; rfl, after⟩
  | some block =>
    by_cases tail : block.get 24 = sbusFrameTail
    · simp only [completed, answer, Option.bind_some, frameMessage, if_pos tail] at success
      have same := buffer block completed tail
      have kept : [block].filter (·.get 24 = sbusFrameTail) = [block] := by simp [tail]
      refine ⟨⟨decoder, sbusBuildMessage block,
        s.rcDataQueue.putOrPurge (scaleMessage (sbusBuildMessage block))⟩, ?_, after⟩
      simp only [ReceiverService.step, success, same]
      rw [Option.toList_some, kept]
      rfl
    · simp only [completed, answer, Option.bind_some, frameMessage, if_neg tail] at success
      have dropped : [block].filter (·.get 24 = sbusFrameTail) = [] := by simp [tail]
      refine ⟨⟨decoder, s.sbusMsgBuffer, s.rcDataQueue⟩, ?_, after⟩
      simp only [ReceiverService.step, success]
      rw [Option.toList_some, dropped]
      rfl

/-- The receiver publishes exactly the accepted frames. -/
theorem publish_represents (events : List ReceiverEvent) {s : ReceiverService}
    {opened : List UInt8} (represents : Represents s.sbusDecoder opened)
    (isOpen : Opened sbusFrameHead 25 opened) :
    s.publish events = some ((accepted opened events).map publishedFrame) := by
  induction events generalizing s opened with
  | nil => rfl
  | cons event rest ih =>
    cases event with
    | rcDataGet =>
      have run := ih (s := { s with rcDataQueue := s.rcDataQueue.afterGet }) represents isOpen
      simp only [ReceiverService.publish, ReceiverService.step, run]
      rfl
    | byte ch =>
      obtain ⟨next, success, after⟩ := step_byte represents isOpen ch
      simp only [ReceiverService.publish, success]
      rw [ih after (isOpen.feed ch), Option.map_some, ← List.map_append, accepted, accepted,
        received, feedAll, List.filter_append]

/-- An initialised receiver publishes the complete frames of its bytes that end with the tail. -/
theorem publish_init (inst : SbusDecoderInstance) (sbusMsg : SbusMessage)
    (events : List ReceiverEvent) :
    ReceiverService.publish ⟨sbusDecoderInit inst, sbusMsg, .empty⟩ events =
      some (((blocks sbusFrameHead 25 (received events)).filter (·.get 24 = sbusFrameTail)).map
        publishedFrame) := by
  have isOpen : Opened sbusFrameHead 25 [] := opened_nil (by decide)
  have idle : Represents (sbusDecoderInit inst) [] := represents_nil rfl
  have run := publish_represents events (s := ⟨sbusDecoderInit inst, sbusMsg, .empty⟩) idle isOpen
  rwa [accepted, feedAll_eq_blocks isOpen, List.nil_append] at run

/-- The receiver is fail-safe exactly on the streams whose complete frames are all trustworthy. -/
theorem failSafe_iff (events : List ReceiverEvent) :
    FailSafe events ↔ ∀ frame ∈ blocks sbusFrameHead 25 (received events),
      frame.get 24 = sbusFrameTail → Trustworthy frame := by
  constructor
  · intro safe frame member tail
    obtain ⟨published, success, trusted⟩ := safe default default
    rw [publish_init, Option.some.injEq] at success
    have sent : publishedFrame frame ∈ published := by
      rw [← success]
      exact List.mem_map_of_mem (List.mem_filter.mpr ⟨member, decide_eq_true tail⟩)
    exact (trustworthy_iff frame).mpr (trusted _ sent).2.2.2
  · intro trust inst sbusMsg
    refine ⟨_, publish_init inst sbusMsg events, fun message sent => ?_⟩
    obtain ⟨frame, member, rfl⟩ := List.mem_map.mp sent
    obtain ⟨complete, tail⟩ := List.mem_filter.mp member
    have trusted := trust frame complete (of_decide_eq_true tail)
    exact ⟨rfl, fun lost => lost trusted.linked, fun faulty => faulty trusted.healthy,
      (trustworthy_iff frame).mp trusted⟩

/-- A frame of a receiver that has lost its radio link: all channels centred, `SIG_LOST` set. -/
def lostLinkFrame : SbusBytes :=
  #v[0x0F, 0, 4, 32, 0, 1, 8, 64, 0, 2, 16, 128, 0, 4, 32, 0, 1, 8, 64, 0, 2, 16, 128, 0x20, 0x00]

/-- That frame is published. -/
theorem lostLinkFrame_published : ¬ FailSafe (lostLinkFrame.toList.map .byte) := by
  intro safe
  obtain ⟨published, success, trusted⟩ := safe default default
  have sent : published = [publishedFrame lostLinkFrame] :=
    Option.some.inj (success.symm.trans (by decide +kernel))
  subst sent
  exact (trusted _ (List.mem_singleton_self _)).2.1 (by decide)

end Robofw.Model
