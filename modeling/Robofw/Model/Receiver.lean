import Robofw.Core.MessageQueue
import Robofw.Model.Interface
import Robofw.Model.Sbus

/-! # SBUS receiver service

`SbusReceiverServiceLoop` of `service/common/receiver/src/sbus_receiver.c`: every byte of the ring
buffer goes to the decoder, and a decoded message is scaled and published with the put-or-purge loop.
A consumer may take from the queue between two bytes. A published message carries, as a ghost, the
frame in the decoder's buffer.
-/

namespace Robofw.Model

open Robofw.Core

/-- A byte taken from the ring buffer, or a consumer's get from `rc_data_msgq_out`. -/
inductive ReceiverEvent where
  | byte (ch : UInt8)
  | rcDataGet
deriving DecidableEq

structure ReceiverService where
  sbusDecoder : SbusDecoderInstance
  sbusMsgBuffer : SbusMessage
  rcDataQueue : MessageQueue ReceiverData 1

/-- A message put into `rc_data_msgq_out` and the frame it was decoded from. -/
structure Published where
  data : ReceiverData
  frame : SbusBytes
deriving DecidableEq

/-- `SBUS_CHN_MIN`, `SBUS_CHN_MID` and `SBUS_CHN_MAX` -/
def sbusChnMin : ℤ := 240
def sbusChnMid : ℤ := 1023
def sbusChnMax : ℤ := 1807

/-- A channel scaled to [-1, 1] between the calibrated ends, with no clamp beyond them. -/
def scaleChannel (channel : UInt16) : ℚ :=
  let value : ℤ := channel.toNat
  if value > sbusChnMid then (value - sbusChnMid) / (sbusChnMax - sbusChnMid)
  else (value - sbusChnMid) / (sbusChnMid - sbusChnMin)

/-- The loop over the `RECEIVER_CHANNEL_NUMBER` channels. -/
def scaleMessage (sbusMsg : SbusMessage) : ReceiverData :=
  ⟨(sbusMsg.channels.take 8).map scaleChannel⟩

/-- One event; no result when the decoder writes out of bounds. -/
def ReceiverService.step (s : ReceiverService) :
    ReceiverEvent → Option (ReceiverService × List Published)
  | .rcDataGet => some ({ s with rcDataQueue := s.rcDataQueue.afterGet }, [])
  | .byte ch =>
    match sbusDecodeMessage s.sbusDecoder ch s.sbusMsgBuffer with
    | none => none
    | some (decoder, sbusMsg, false) => some (⟨decoder, sbusMsg, s.rcDataQueue⟩, [])
    | some (decoder, sbusMsg, true) =>
      let data := scaleMessage sbusMsg
      some (⟨decoder, sbusMsg, s.rcDataQueue.putOrPurge data⟩, [⟨data, decoder.data⟩])

/-- Everything published during a list of events. -/
def ReceiverService.publish (s : ReceiverService) : List ReceiverEvent → Option (List Published)
  | [] => some []
  | event :: rest =>
    match s.step event with
    | none => none
    | some (next, published) => (next.publish rest).map (published ++ ·)

/-- The bytes delivered in a list of events. -/
def received : List ReceiverEvent → List UInt8
  | [] => []
  | .byte ch :: rest => ch :: received rest
  | .rcDataGet :: rest => received rest

end Robofw.Model
