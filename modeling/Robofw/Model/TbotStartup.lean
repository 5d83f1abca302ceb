import Mathlib.Logic.Function.Basic
import Robofw.Model.CanInterface
import Robofw.Model.UartInterface

/-! # The start-up of the TBot

`InitHardware` of `module/mcal/src/hwconfig.c`, `InitRobot` and `ShowRobotPanic` of
`app/tbot/tbot_interface.c`, and the start functions of the services, up to the endless blinking of
the panic. The services are static: a thread identifier is NULL until its thread has been created.

The results of configuring the SBUS UART and the CAN link, which the code discards, are kept as
ghosts.
-/

namespace Robofw.Model.Startup

/-- A device of an interface: the status of its node, and whether its driver is ready to use. -/
structure DeviceNode where
  okay : Bool
  ready : Bool
deriving DecidableEq, Repr

/-- An LED: its pin is configured while it is initialised, with this result. -/
structure LedNode where
  okay : Bool
  found : Bool
  pinConfigure : ℤ
deriving DecidableEq, Repr

def LedNode.device (node : LedNode) : DeviceNode := ⟨node.okay, node.found && node.pinConfigure == 0⟩

/-- What the code runs on: the device tree and the answers of the drivers. The address of a PWM
controller is a constant, so its driver is always found. -/
structure Platform where
  dio : Vector DeviceNode 6
  led : Vector LedNode 4
  pwm : Vector Bool 6
  uart : Vector DeviceNode 8
  can : Vector DeviceNode 2
  encoder : Vector DeviceNode 4
  uartConfigure : UartConfig → ℤ
  canDriver : CanDriver
  filterId : BitVec 29

/-- The six functions `InitDio` .. `InitEncoder`: the active flags and the value returned. The first
device that is not ready ends the function. -/
def initDevices : List DeviceNode → List Bool × Bool
  | [] => ([], true)
  | node :: rest =>
    if !node.okay then
      let (active, ret) := initDevices rest
      (false :: active, ret)
    else if !node.ready then (false :: rest.map fun _ => false, false)
    else
      let (active, ret) := initDevices rest
      (true :: active, ret)

def initDio (platform : Platform) : List Bool × Bool := initDevices platform.dio.toList

def initLed (platform : Platform) : List Bool × Bool :=
  initDevices (platform.led.toList.map LedNode.device)

def initPwm (platform : Platform) : List Bool × Bool :=
  initDevices (platform.pwm.toList.map fun okay => ⟨okay, true⟩)

def initUart (platform : Platform) : List Bool × Bool := initDevices platform.uart.toList

def initCan (platform : Platform) : List Bool × Bool := initDevices platform.can.toList

def initEncoder (platform : Platform) : List Bool × Bool := initDevices platform.encoder.toList

/-- `InitHardware`: every function is called, whatever the others return. -/
def initHardware (platform : Platform) : Bool :=
  let dioRet := (initDio platform).2
  let ledRet := (initLed platform).2
  let pwmRet := (initPwm platform).2
  let uartRet := (initUart platform).2
  let canRet := (initCan platform).2
  let encoderRet := (initEncoder platform).2
  ledRet && dioRet && pwmRet && uartRet && canRet && encoderRet

/-- `GetUartDescriptor` -/
def getUartDescriptor (platform : Platform) (id : Fin 8) : UartDescriptor :=
  ⟨(initUart platform).1.getD id.val false⟩

/-- `GetCanDescriptor` -/
def getCanDescriptor (platform : Platform) (id : Fin 2) : CanDescriptor :=
  ⟨(initCan platform).1.getD id.val false⟩

/-- `TBOT_UART_SBUS` -/
def tbotUartSbus : Fin 8 := 0

/-- `TBOT_CAN_UPLINK` -/
def tbotCanUplink : Fin 2 := 0

inductive MsgQueue where
  | receiverData
  | actuatorData
  | encoderRpm
  | desiredRpm
  | speedControlFeedback
  | desiredMotion
  | motionControlFeedback
  | robotState
  | canDesiredMotion
  | supervisorCmd
deriving DecidableEq, Repr

inductive Service where
  | receiver
  | actuator
  | encoder
  | speedControl
  | motionControl
  | messenger
  | coordinator
deriving DecidableEq, Repr

/-- A thread, by the service that starts it. -/
inductive Thread where
  | receiver
  | actuator
  | encoder
  | speedControl
  | motionControl
  | messengerRx
  | messengerTx
  | coordinator
deriving DecidableEq, Repr

/-- The threads of the TBot, and the ghosts. -/
structure Robot where
  tid : Thread → Option Thread
  created : List Thread
  aborted : List (Option Thread)
  sbusConfigured : Bool
  canConfigured : Bool

/-- Before `main`. -/
def Robot.initial : Robot where
  tid _ := none
  created := []
  aborted := []
  sbusConfigured := false
  canConfigured := false

/-- `k_thread_create`, and the assignment of its result. -/
def kThreadCreate (thread : Thread) : StateM Robot Unit :=
  modify fun robot =>
    { robot with
      tid := Function.update robot.tid thread (some thread)
      created := robot.created ++ [thread] }

/-- `k_thread_abort(tid)` -/
def kThreadAbort (thread : Thread) : StateM Robot Unit :=
  modify fun robot => { robot with aborted := robot.aborted ++ [robot.tid thread] }

inductive ReceiverType where
  | rcvrSbus
  | rcvrPpm
deriving DecidableEq, Repr

structure SbusConf where
  ddUart : UartDescriptor

structure ReceiverServiceDef where
  type : ReceiverType
  rcvrCfg : SbusConf
  rcDataMsgq : Option MsgQueue

/-- `InitSbus`: neither result is passed on. -/
def initSbus (platform : Platform) (conf : SbusConf) : StateM Robot Bool := do
  let configured := configureUart conf.ddUart platform.uartConfigure getUartSbusConfig
  let asyncMode := setupUartAsyncMode conf.ddUart
  modify fun robot => { robot with sbusConfigured := configured && asyncMode }
  return true

/-- `StartReceiverService` -/
def startReceiverService (platform : Platform) (service : ReceiverServiceDef) : StateM Robot Bool := do
  if service.type = .rcvrSbus then
    unless ← initSbus platform service.rcvrCfg do return false
    if service.rcDataMsgq.isNone then return false
    kThreadCreate .receiver
  else return false
  return true

inductive ActuatorType where
  | actrTbot
  | actrRccar
deriving DecidableEq, Repr

/-- The pins of the two motors. -/
structure TbotActuatorConf where
  ddDioEn1 : Fin 6
  ddDioDir1 : Fin 6
  ddDioEn2 : Fin 6
  ddDioDir2 : Fin 6
  ddPwm1 : Fin 6
  ddPwm2 : Fin 6
deriving DecidableEq, Repr

structure ActuatorServiceDef where
  type : ActuatorType
  activeMotorNum : ℕ
  actuatorCfg : Option TbotActuatorConf
  actuatorCmdMsgq : Option MsgQueue

/-- `InitTbotActuators` and `InitRcCarActuators` look at no result of their pins. -/
def initActuators : ActuatorType → Bool
  | .actrTbot => true
  | .actrRccar => true

/-- `StartActuatorService` -/
def startActuatorService (service : ActuatorServiceDef) : StateM Robot Bool := do
  if service.actuatorCmdMsgq.isNone then return false
  if service.activeMotorNum = 0 ∨ service.activeMotorNum > 2 then return false
  if service.actuatorCfg.isNone then return false
  unless initActuators service.type do return false
  kThreadCreate .actuator
  return true

structure EncoderServiceDef where
  activeEncoderNum : ℕ
  ddEncoders : Vector (Option (Fin 4)) 2
  encoderRpmMsgq : Option MsgQueue

/-- `StartEncoderService` -/
def startEncoderService (service : EncoderServiceDef) : StateM Robot Bool := do
  if service.encoderRpmMsgq.isNone then return false
  if service.activeEncoderNum = 0 ∨ service.activeEncoderNum > 2 then return false
  if (service.ddEncoders.toList.take service.activeEncoderNum).any Option.isNone then return false
  kThreadCreate .encoder
  return true

structure SpeedControlServiceDef where
  desiredRpmMsgq : Option MsgQueue
  controlFeedbackMsgq : Option MsgQueue
  encoderInterface : Option Service
  actuatorInterface : Option Service

/-- `StartSpeedControlService` -/
def startSpeedControlService (service : SpeedControlServiceDef) : StateM Robot Bool := do
  if service.desiredRpmMsgq.isNone then return false
  if service.controlFeedbackMsgq.isNone then return false
  if service.actuatorInterface.isNone ∨ service.encoderInterface.isNone then return false
  kThreadCreate .speedControl
  return true

structure MotionControlServiceDef where
  desiredMotionMsgq : Option MsgQueue
  controlFeedbackMsgq : Option MsgQueue
  coordinatorInterface : Option Service
  speedControlInterface : Option Service

/-- `StartMotionService` -/
def startMotionService (service : MotionControlServiceDef) : StateM Robot Bool := do
  if service.desiredMotionMsgq.isNone then return false
  if service.controlFeedbackMsgq.isNone then return false
  if service.coordinatorInterface.isNone ∨ service.speedControlInterface.isNone then return false
  kThreadCreate .motionControl
  return true

structure MessengerServiceDef where
  ddCan : Option CanDescriptor
  robotStateMsgq : Option MsgQueue
  supervisorCmdMsgq : Option MsgQueue
  desiredMotionMsgq : Option MsgQueue
  receiverInterface : Option Service
  actuatorInterface : Option Service
  speedControlInterface : Option Service

/-- The filter of `StartMessengerService`, whose identifier is not assigned. -/
def canFilter (platform : Platform) : ZcanFilter where
  id := platform.filterId
  rtr := .dataFrame
  idType := .standard
  idMask := 0
  rtrMask := true

/-- `StartMessengerService`: the result of `ConfigureCan` is not looked at. -/
def startMessengerService (platform : Platform) (service : MessengerServiceDef) :
    StateM Robot Bool := do
  modify fun robot =>
    { robot with
      canConfigured := service.ddCan.any fun dd =>
        configureCan dd platform.canDriver .normal 500000 (canFilter platform) }
  if service.robotStateMsgq.isNone then return false
  if service.desiredMotionMsgq.isNone then return false
  if service.supervisorCmdMsgq.isNone then return false
  if service.ddCan.isNone then return false
  if service.receiverInterface.isNone ∨ service.actuatorInterface.isNone ∨
      service.speedControlInterface.isNone then
    return false
  kThreadCreate .messengerRx
  kThreadCreate .messengerTx
  return true

structure CoordinatorServiceDef where
  receiverInterface : Option Service
  messengerInterface : Option Service
  motionControlInterface : Option Service

/-- `StartCoordinatorService` -/
def startCoordinatorService (service : CoordinatorServiceDef) : StateM Robot Bool := do
  if service.receiverInterface.isNone ∨ service.messengerInterface.isNone ∨
      service.motionControlInterface.isNone then
    return false
  kThreadCreate .coordinator
  return true

/-- `rcvr_srv` -/
def rcvrSrv (platform : Platform) : ReceiverServiceDef where
  type := .rcvrSbus
  rcvrCfg := ⟨getUartDescriptor platform tbotUartSbus⟩
  rcDataMsgq := some .receiverData

/-- `actr_srv` -/
def actrSrv : ActuatorServiceDef where
  type := .actrTbot
  activeMotorNum := 2
  actuatorCfg := some ⟨0, 1, 2, 3, 0, 1⟩
  actuatorCmdMsgq := some .actuatorData

/-- `encoder_srv`: `TBOT_ENCODER1` is the second encoder of the board. -/
def encoderSrv : EncoderServiceDef where
  activeEncoderNum := 2
  ddEncoders := #v[some 1, some 0]
  encoderRpmMsgq := some .encoderRpm

/-- `spdcon_srv` -/
def spdconSrv : SpeedControlServiceDef where
  desiredRpmMsgq := some .desiredRpm
  controlFeedbackMsgq := some .speedControlFeedback
  encoderInterface := some .encoder
  actuatorInterface := some .actuator

/-- `motioncon_srv` -/
def motionconSrv : MotionControlServiceDef where
  desiredMotionMsgq := some .desiredMotion
  controlFeedbackMsgq := some .motionControlFeedback
  coordinatorInterface := some .coordinator
  speedControlInterface := some .speedControl

/-- `msger_srv` -/
def msgerSrv (platform : Platform) : MessengerServiceDef where
  ddCan := some (getCanDescriptor platform tbotCanUplink)
  robotStateMsgq := some .robotState
  supervisorCmdMsgq := some .supervisorCmd
  desiredMotionMsgq := some .canDesiredMotion
  receiverInterface := some .receiver
  actuatorInterface := some .actuator
  speedControlInterface := some .speedControl

/-- `coord_srv` -/
def coordSrv : CoordinatorServiceDef where
  receiverInterface := some .receiver
  messengerInterface := some .messenger
  motionControlInterface := some .motionControl

/-- `InitRobot` -/
def initRobot (platform : Platform) : StateM Robot Bool := do
  unless initHardware platform do return false
  unless ← startReceiverService platform (rcvrSrv platform) do return false
  unless ← startActuatorService actrSrv do return false
  unless ← startEncoderService encoderSrv do return false
  unless ← startSpeedControlService spdconSrv do return false
  unless ← startMotionService motionconSrv do return false
  unless ← startMessengerService platform (msgerSrv platform) do return false
  unless ← startCoordinatorService coordSrv do return false
  return true

/-- `ShowRobotPanic`, up to its loop. -/
def showRobotPanic : StateM Robot Unit := do
  kThreadAbort .receiver
  kThreadAbort .actuator
  kThreadAbort .coordinator
  kThreadAbort .encoder
  kThreadAbort .messengerTx
  kThreadAbort .messengerRx

/-- `main`: what `InitRobot` returned. -/
def startUp (platform : Platform) : StateM Robot Bool := do
  let started ← initRobot platform
  unless started do showRobotPanic
  return started

end Robofw.Model.Startup
