import Robofw.Model.Rccar
import Robofw.Model.RccarMessenger
import Robofw.Model.Receiver

/-! # The RC car from its SBUS input to its CAN output

The receiver thread in front of the services of the RC car, and the frames their TX thread sends. The
receiver takes the next byte from its ring buffer once its put-or-purge loop has ended. A write of the
decoder outside its buffer, undefined in C, is an output of its own.
-/

namespace Robofw.Model.Rccar

open Robofw.Core
open Messenger (sendServoPosCmd sendSetRpmCmd)

structure System where
  sbusDecoder : SbusDecoderInstance
  sbusMsgBuffer : SbusMessage
  services : State

inductive SystemEvent where
  | sbusByte (ch : UInt8)
  | receiver
  | coordinator
  | messengerTx
deriving DecidableEq

/-- A completed put of RC data, a frame handed to the CAN driver, or undefined behaviour. -/
inductive SystemOutput where
  | rcData (data : ReceiverData)
  | servoFrame (frame : ZcanFrame)
  | rpmFrame (frame : ZcanFrame)
  | outOfBounds
deriving DecidableEq

/-- The frames for one motion; the answers of the helpers are dropped. -/
def txFrames (board : Board) (sent : Output) : List SystemOutput :=
  ((sendServoPosCmd board sent.servoPos).1.map .servoFrame).toList ++
    ((sendSetRpmCmd board (Int32.ofInt sent.motorRpm)).1.map .rpmFrame).toList

/-- The receiver thread takes a byte, decodes it, and scales a decoded message. -/
def System.takeByte (s : System) (ch : UInt8) : System × List SystemOutput :=
  match sbusDecodeMessage s.sbusDecoder ch s.sbusMsgBuffer with
  | none => (s, [.outOfBounds])
  | some (decoder, sbusMsg, false) => (⟨decoder, sbusMsg, s.services⟩, [])
  | some (decoder, sbusMsg, true) =>
    (⟨decoder, sbusMsg, (step s.services (.rcMessage (scaleMessage sbusMsg))).1⟩, [])

/-- The data that a receiver step puts. -/
def putData (s : State) : Option ReceiverData :=
  match s.receiver with
  | none => none
  | some (data, purging) =>
    if (s.receiverDataQueue.attempt purging data).2 = .done then some data else none

def System.step (board : Board) (s : System) : SystemEvent → System × List SystemOutput
  | .sbusByte ch => if s.services.receiver.isNone then s.takeByte ch else (s, [])
  | .receiver =>
    ({ s with services := (Rccar.step s.services .receiver).1 },
      ((putData s.services).map .rcData).toList)
  | .coordinator => ({ s with services := (Rccar.step s.services .coordinator).1 }, [])
  | .messengerTx =>
    let (services, sent) := Rccar.step s.services .messengerTx
    ({ s with services := services }, sent.flatMap (txFrames board))

/-- The whole car, started with an initialised decoder over any buffer. -/
def system (board : Board) (inst : SbusDecoderInstance) (sbusMsg : SbusMessage) :
    Machine System SystemEvent SystemOutput :=
  ⟨⟨sbusDecoderInit inst, sbusMsg, .initial⟩, System.step board⟩

/-- The byte that a step takes from the ring buffer. -/
def takenByte (step : System × SystemEvent) : Option UInt8 :=
  match step.2 with
  | .sbusByte ch => if step.1.services.receiver.isNone then some ch else none
  | _ => none

/-- The bytes taken during a run, in order. -/
def takenBytes (past : List (System × SystemEvent)) : List UInt8 := past.filterMap takenByte

end Robofw.Model.Rccar
