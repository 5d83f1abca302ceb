import Robofw.Core.Machine
import Robofw.Core.Semaphore
import Robofw.Model.Receiver

/-! # The SBUS UART and its receiver thread

`GenericUartCallback` of `module/mcal/src/uart_interface.c` and `SbusReceiverServiceLoop` of
`service/common/receiver/src/sbus_receiver.c`, interleaved call by call over the members of the UART
descriptor, from where `SetupUartAsyncMode` leaves them. A callback with received bytes puts them into
the ring buffer and gives the semaphore later, and any number of callbacks may be between the two. The
ring buffer accepts the bytes that fit.

The bytes accepted so far and those handed to the decoder are ghosts.
-/

namespace Robofw.Model.UartReceiver

open Robofw.Core

/-- `enum uart_event_type`, with the received bytes. -/
inductive UartEvent where
  | txDone
  | txAborted
  | rxRdy (bytes : List UInt8)
  | rxBufRequest
  | rxBufReleased
  | rxDisabled
  | rxStopped
deriving DecidableEq

/-- The call the receiver thread makes next. A write of the decoder outside its buffer is undefined. -/
inductive ReceiverPc where
  | semTake
  | ringBufGet
  | decode (ch : UInt8)
  | putData (data : ReceiverData) (purging : Bool)
  | undefined
deriving DecidableEq

structure State (capacity : ℕ) where
  rxSem : Semaphore 1
  txSem : Semaphore 1
  ringBuffer : MessageQueue UInt8 capacity
  doubleBufferIndex : Fin 2
  callbacks : ℕ
  receiver : ReceiverPc
  sbusDecoder : SbusDecoderInstance
  sbusMsgBuffer : SbusMessage
  rcDataQueue : MessageQueue ReceiverData 1
  accepted : List UInt8
  handed : List UInt8

/-- The driver calls back, a callback with received bytes gives the semaphore, the receiver makes its
next call, or a consumer gets from `rc_data_msgq_out`. -/
inductive Event where
  | callback (evt : UartEvent)
  | giveRx
  | receiver
  | rcDataGet
deriving DecidableEq

variable {capacity : ℕ}

/-- What `SetupUartAsyncMode` and `InitSbus` leave, over any decoder and message buffer. -/
def State.initial (inst : SbusDecoderInstance) (sbusMsg : SbusMessage) : State capacity where
  rxSem := .init 0 (Nat.zero_le 1)
  txSem := .init 0 (Nat.zero_le 1)
  ringBuffer := .empty
  doubleBufferIndex := 0
  callbacks := 0
  receiver := .semTake
  sbusDecoder := sbusDecoderInit inst
  sbusMsgBuffer := sbusMsg
  rcDataQueue := .empty
  accepted := []
  handed := []

/-- `GenericUartCallback`, up to the give of a callback with received bytes. -/
def genericUartCallback (s : State capacity) : UartEvent → State capacity
  | .rxRdy bytes =>
    let (ringBuffer, accepted) := s.ringBuffer.putFitting bytes
    { s with
      ringBuffer := ringBuffer, callbacks := s.callbacks + 1, accepted := s.accepted ++ accepted }
  | .rxBufRequest => { s with doubleBufferIndex := s.doubleBufferIndex + 1 }
  | .rxBufReleased => s
  | .rxDisabled => { s with doubleBufferIndex := 0 }
  | .rxStopped => s
  | .txDone => { s with txSem := s.txSem.give.1 }
  | .txAborted => s

/-- The end of a callback with received bytes. A thread that it wakes goes on in its loop. -/
def giveRxStep (s : State capacity) : State capacity :=
  if s.callbacks = 0 then s
  else
    let (rxSem, woken) := s.rxSem.give
    { s with
      rxSem := rxSem
      callbacks := s.callbacks - 1
      receiver := if woken then .ringBufGet else s.receiver }

/-- The receiver's next call; none as long as it is blocked. -/
def receiverStep (s : State capacity) : State capacity :=
  match s.receiver with
  | .semTake =>
    if s.rxSem.waiting then s
    else
      let (rxSem, taken) := s.rxSem.take
      { s with rxSem := rxSem, receiver := if taken then .ringBufGet else .semTake }
  | .ringBufGet =>
    match s.ringBuffer.get with
    | some (ch, ringBuffer) => { s with ringBuffer := ringBuffer, receiver := .decode ch }
    | none => { s with receiver := .semTake }
  | .decode ch =>
    match sbusDecodeMessage s.sbusDecoder ch s.sbusMsgBuffer with
    | none => { s with handed := s.handed ++ [ch], receiver := .undefined }
    | some (decoder, sbusMsg, returned) =>
      { s with
        handed := s.handed ++ [ch]
        sbusDecoder := decoder
        sbusMsgBuffer := sbusMsg
        receiver := if returned then .putData (scaleMessage sbusMsg) false else .ringBufGet }
  | .putData data purging =>
    match s.rcDataQueue.attempt purging data with
    | (queue, .done) => { s with rcDataQueue := queue, receiver := .ringBufGet }
    | (queue, outcome) =>
      { s with rcDataQueue := queue, receiver := .putData data (outcome == .full) }
  | .undefined => s

def step (s : State capacity) : Event → State capacity × List Empty
  | .callback evt => (genericUartCallback s evt, [])
  | .giveRx => (giveRxStep s, [])
  | .receiver => (receiverStep s, [])
  | .rcDataGet => ({ s with rcDataQueue := s.rcDataQueue.afterGet }, [])

/-- The UART and its receiver, with a ring buffer of any capacity. -/
def machine (capacity : ℕ) (inst : SbusDecoderInstance) (sbusMsg : SbusMessage) :
    Machine (State capacity) Event Empty := ⟨.initial inst sbusMsg, step⟩

end Robofw.Model.UartReceiver
