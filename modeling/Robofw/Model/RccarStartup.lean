import Robofw.Model.TbotStartup

/-! # The start-up of the RC car

`InitRobot` and `ShowRobotPanic` of `app/rccar/rccar_interface.c` on the same board interfaces and the
same receiver service as the TBot, with the messenger and the coordinator of the RC car. The status LED
and the first user LED tell how it went. The actuator service is not started: the panic aborts its
identifier all the same.
-/

namespace Robofw.Model.Rccar.Startup

open Robofw.Model.Startup

/-- `RCCAR_UART_SBUS` -/
def rccarUartSbus : Fin 8 := 0

/-- `RCCAR_CAN_UPLINK` -/
def rccarCanUplink : Fin 2 := 0

/-- `RCCAR_LED_STATUS` -/
def rccarLedStatus : Fin 4 := ⟨0, by decide⟩

/-- `RCCAR_LED_USER1` -/
def rccarLedUser1 : Fin 4 := ⟨1, by decide⟩

/-- The threads of the car, and what its LEDs show. -/
structure Car where
  robot : Robot
  leds : Fin 4 → Bool

/-- The member `active` of `GetLedDescriptor`. -/
def ledActive (platform : Platform) (id : Fin 4) : Bool := (initLed platform).1.getD id.val false

/-- A call on the pin of an LED. -/
def driveLed (platform : Platform) (id : Fin 4) (level : Bool → Bool) : StateM Car Unit :=
  modify fun car =>
    { car with
      leds :=
        if ledActive platform id then Function.update car.leds id (level (car.leds id)) else car.leds }

/-- `TurnOnLed` -/
def turnOnLed (platform : Platform) (id : Fin 4) : StateM Car Unit := driveLed platform id fun _ => true

/-- `TurnOffLed` -/
def turnOffLed (platform : Platform) (id : Fin 4) : StateM Car Unit := driveLed platform id fun _ => false

/-- `ToggleLed` -/
def toggleLed (platform : Platform) (id : Fin 4) : StateM Car Unit := driveLed platform id (!·)

/-- A call that works on the threads. -/
def onRobot {α : Type} (call : StateM Robot α) : StateM Car α := do
  let car ← get
  let (ret, robot) := call.run car.robot
  set { car with robot := robot }
  return ret

/-- The queues of the messenger. -/
inductive MsgQueue where
  | robotState
  | rcDesiredMotion
deriving DecidableEq, Repr

structure MessengerServiceDef where
  ddCan : Option CanDescriptor
  robotStateMsgq : Option MsgQueue
  desiredMotionMsgq : Option MsgQueue

/-- `StartMessengerService`: the result of `ConfigureCan` is not looked at. -/
def startMessengerService (platform : Platform) (service : MessengerServiceDef) : StateM Robot Bool := do
  match service.ddCan with
  | none => return false
  | some dd =>
    if service.robotStateMsgq.isNone then return false
    if service.desiredMotionMsgq.isNone then return false
    modify fun robot =>
      { robot with
        canConfigured := configureCan dd platform.canDriver .normal 500000 (canFilter platform) }
    kThreadCreate .messengerRx
    kThreadCreate .messengerTx
    return true

structure CoordinatorServiceDef where
  receiverInterface : Option Service
  messengerInterface : Option Service

/-- `StartCoordinatorService` -/
def startCoordinatorService (service : CoordinatorServiceDef) : StateM Robot Bool := do
  if service.receiverInterface.isNone ∨ service.messengerInterface.isNone then return false
  kThreadCreate .coordinator
  return true

/-- `rcvr_srv` -/
def rcvrSrv (platform : Platform) : ReceiverServiceDef where
  type := .rcvrSbus
  rcvrCfg := ⟨getUartDescriptor platform rccarUartSbus⟩
  rcDataMsgq := some .receiverData

/-- `msger_srv` -/
def msgerSrv (platform : Platform) : MessengerServiceDef where
  ddCan := some (getCanDescriptor platform rccarCanUplink)
  robotStateMsgq := some .robotState
  desiredMotionMsgq := some .rcDesiredMotion

/-- `coord_srv` -/
def coordSrv : CoordinatorServiceDef where
  receiverInterface := some .receiver
  messengerInterface := some .messenger

/-- `InitRobot` -/
def initRobot (platform : Platform) : StateM Car Bool := do
  unless initHardware platform do return false
  turnOnLed platform rccarLedStatus
  turnOffLed platform rccarLedUser1
  unless ← onRobot (startReceiverService platform (rcvrSrv platform)) do return false
  unless ← onRobot (startMessengerService platform (msgerSrv platform)) do return false
  unless ← onRobot (startCoordinatorService coordSrv) do return false
  return true

/-- `ShowRobotPanic`, up to its loop. -/
def showRobotPanic (platform : Platform) : StateM Car Unit := do
  onRobot (kThreadAbort .receiver)
  onRobot (kThreadAbort .actuator)
  turnOnLed platform rccarLedStatus
  turnOnLed platform rccarLedUser1

/-- A round of the endless loop of `ShowRobotPanic`. -/
def panicRound (platform : Platform) : StateM Car Unit := do
  toggleLed platform rccarLedStatus
  toggleLed platform rccarLedUser1

/-- `main`: what `InitRobot` returned. -/
def startUp (platform : Platform) : StateM Car Bool := do
  let started ← initRobot platform
  unless started do showRobotPanic platform
  return started

end Robofw.Model.Rccar.Startup
