import Robofw.Model.TbotStartup

/-! # When the TBot starts up as a whole

`InitRobot` fails only where `InitHardware` does, before any thread exists, and `ShowRobotPanic` aborts
its threads all the same. Past that, it always succeeds: the results of configuring the SBUS UART and
the CAN link reach nobody. So start-up is all or nothing exactly on the boards where nothing fails.
-/

namespace Robofw.Model.Startup

/-- An interface is initialised when all of its devices are ready. -/
theorem initDevices_iff (nodes : List DeviceNode) :
    (initDevices nodes).2 = true ↔ ∀ node ∈ nodes, node.okay = true → node.ready = true := by
  induction nodes with
  | nil => exact ⟨fun _ node member => absurd member List.not_mem_nil, fun _ => rfl⟩
  | cons node rest ih =>
    rw [List.forall_mem_cons, ← ih]
    obtain ⟨okay, ready⟩ := node
    cases okay with
    | false => simp [initDevices]
    | true => cases ready <;> simp [initDevices]

/-- The devices that an initialised interface has active are those of the device tree. -/
theorem active_initDevices {nodes : List DeviceNode} (success : (initDevices nodes).2 = true) :
    (initDevices nodes).1 = nodes.map DeviceNode.okay := by
  induction nodes with
  | nil => rfl
  | cons node rest ih =>
    obtain ⟨okay, ready⟩ := node
    cases okay with
    | false =>
      change false :: (initDevices rest).1 = _
      rw [ih success]
      rfl
    | true =>
      cases ready with
      | false => exact absurd success Bool.false_ne_true
      | true =>
        change true :: (initDevices rest).1 = _
        rw [ih success]
        rfl

/-- The threads in the order of their creation. -/
def allThreads : List Thread :=
  [.receiver, .actuator, .encoder, .speedControl, .motionControl, .messengerRx, .messengerTx,
    .coordinator]

/-- Past `InitHardware`, every service is started. -/
theorem startUp_of_hardware {platform : Platform} (hardware : initHardware platform = true) :
    ∃ robot, (startUp platform).run .initial = (true, robot) ∧ robot.created = allThreads ∧
      robot.aborted = [] ∧
      robot.sbusConfigured =
        (configureUart (getUartDescriptor platform tbotUartSbus) platform.uartConfigure
          getUartSbusConfig && setupUartAsyncMode (getUartDescriptor platform tbotUartSbus)) ∧
      robot.canConfigured = configureCan (getCanDescriptor platform tbotCanUplink) platform.canDriver
        .normal 500000 (canFilter platform) := by
  refine ⟨((startUp platform).run .initial).2, ?_, ?_⟩
  · simp only [startUp, initRobot, hardware]
    rfl
  · simp only [startUp, initRobot, hardware]
    exact ⟨rfl, rfl, rfl, rfl⟩

/-- Without the hardware, identifiers of threads that do not exist are aborted. -/
theorem startUp_of_no_hardware {platform : Platform} (hardware : initHardware platform = false) :
    ∃ robot, (startUp platform).run .initial = (false, robot) ∧ robot.created = [] ∧
      robot.aborted = List.replicate 6 none := by
  refine ⟨((startUp platform).run .initial).2, ?_, ?_⟩
  · simp only [startUp, initRobot, hardware]
    rfl
  · simp only [startUp, initRobot, hardware]
    exact ⟨rfl, rfl⟩

/-- The thread was created and not aborted. -/
def Robot.Runs (robot : Robot) (thread : Thread) : Prop :=
  thread ∈ robot.created ∧ some thread ∉ robot.aborted

/-- Start-up ends with everything configured and running, or with every created thread aborted and
nothing else. -/
def AllOrNothing (platform : Platform) : Prop :=
  let (started, robot) := (startUp platform).run .initial
  (started = true ∧ robot.sbusConfigured = true ∧ robot.canConfigured = true ∧
      ∀ thread, robot.Runs thread) ∨
    (started = false ∧ (∀ thread ∈ robot.created, some thread ∈ robot.aborted) ∧
      ∀ tid ∈ robot.aborted, ∃ thread ∈ robot.created, tid = some thread)

/-- What start-up makes of the code's own results. -/
theorem allOrNothing_iff_configured (platform : Platform) : AllOrNothing platform ↔
    initHardware platform = true ∧
      (configureUart (getUartDescriptor platform tbotUartSbus) platform.uartConfigure
        getUartSbusConfig && setupUartAsyncMode (getUartDescriptor platform tbotUartSbus)) = true ∧
      configureCan (getCanDescriptor platform tbotCanUplink) platform.canDriver .normal 500000
        (canFilter platform) = true := by
  unfold AllOrNothing
  cases hardware : initHardware platform with
  | false =>
    obtain ⟨robot, ran, created, aborted⟩ := startUp_of_no_hardware hardware
    rw [ran]
    constructor
    · rintro (⟨started, -⟩ | ⟨-, -, onlyCreated⟩)
      · contradiction
      · obtain ⟨thread, member, -⟩ := onlyCreated none (by rw [aborted]; simp)
        rw [created] at member
        exact absurd member List.not_mem_nil
    · rintro ⟨ready, -⟩
      contradiction
  | true =>
    obtain ⟨robot, ran, created, aborted, sbus, can⟩ := startUp_of_hardware hardware
    rw [ran, ← sbus, ← can]
    constructor
    · rintro (⟨-, sbusReady, canReady, -⟩ | ⟨stopped, -⟩)
      · exact ⟨rfl, sbusReady, canReady⟩
      · contradiction
    · rintro ⟨-, sbusReady, canReady⟩
      refine .inl ⟨rfl, sbusReady, canReady, fun thread => ⟨?_, ?_⟩⟩
      · rw [created]
        cases thread <;> decide
      · rw [aborted]
        exact List.not_mem_nil

/-- A device that the device tree has is ready. -/
def DeviceNode.Works (node : DeviceNode) : Prop := node.okay = true → node.ready = true

/-- Nothing that start-up relies on fails. -/
structure Platform.Works (platform : Platform) : Prop where
  dio : ∀ node ∈ platform.dio.toList, node.Works
  led : ∀ node ∈ platform.led.toList, node.device.Works
  uart : ∀ node ∈ platform.uart.toList, node.Works
  can : ∀ node ∈ platform.can.toList, node.Works
  encoder : ∀ node ∈ platform.encoder.toList, node.Works
  sbus : (platform.uart.get tbotUartSbus).okay = true
  uartConfigure : platform.uartConfigure getUartSbusConfig = 0
  uplink : (platform.can.get tbotCanUplink).okay = true
  calcTiming : 0 ≤ (platform.canDriver.calcTiming 500000 canSamplingPoint).1
  setTiming : platform.canDriver.setTiming (platform.canDriver.calcTiming 500000 canSamplingPoint).2 = 0
  canConfigure : platform.canDriver.configure .normal 500000 = 0
  attachMsgq : platform.canDriver.attachMsgq (canFilter platform) ≠ canNoFreeFilter

theorem initHardware_iff (platform : Platform) : initHardware platform = true ↔
    (∀ node ∈ platform.dio.toList, node.Works) ∧ (∀ node ∈ platform.led.toList, node.device.Works) ∧
      (∀ node ∈ platform.uart.toList, node.Works) ∧ (∀ node ∈ platform.can.toList, node.Works) ∧
      ∀ node ∈ platform.encoder.toList, node.Works := by
  have pwm : (initPwm platform).2 = true := by
    apply (initDevices_iff _).mpr
    intro node member
    obtain ⟨okay, -, rfl⟩ := List.mem_map.mp member
    exact fun _ => rfl
  simp only [initHardware, Bool.and_eq_true, pwm, and_true]
  simp only [initDio, initLed, initUart, initCan, initEncoder, initDevices_iff, List.forall_mem_map]
  constructor
  · rintro ⟨⟨⟨⟨led, dio⟩, uart⟩, can⟩, encoder⟩
    exact ⟨dio, led, uart, can, encoder⟩
  · rintro ⟨dio, led, uart, can, encoder⟩
    exact ⟨⟨⟨⟨led, dio⟩, uart⟩, can⟩, encoder⟩

/-- The flag of a device on a board that works is the status of its node. -/
theorem getD_active {n : ℕ} {nodes : Vector DeviceNode n} (works : ∀ node ∈ nodes.toList, node.Works)
    (id : Fin n) : (initDevices nodes.toList).1.getD id.val false = (nodes.get id).okay := by
  rw [active_initDevices ((initDevices_iff _).mpr works), List.getD_eq_getElem?_getD,
    List.getElem?_map, Vector.getElem?_toList, Vector.getElem?_eq_getElem id.isLt]
  rfl

/-- Start-up is all or nothing exactly when nothing that it relies on fails. -/
theorem allOrNothing_iff (platform : Platform) : AllOrNothing platform ↔ platform.Works := by
  rw [allOrNothing_iff_configured, Bool.and_eq_true, configureUart_iff, setupUartAsyncMode_eq,
    configureCan_iff, initHardware_iff]
  constructor
  · rintro ⟨⟨dio, led, uart, can, encoder⟩, ⟨⟨active, uartConfigure⟩, -⟩,
      linked, calcTiming, setTiming, canConfigure, attachMsgq⟩
    have sbus := (getD_active uart tbotUartSbus).symm.trans active
    have uplink := (getD_active can tbotCanUplink).symm.trans linked
    exact ⟨dio, led, uart, can, encoder, sbus, uartConfigure, uplink, calcTiming, setTiming,
      canConfigure, attachMsgq⟩
  · rintro ⟨dio, led, uart, can, encoder, sbus, uartConfigure, uplink, calcTiming, setTiming,
      canConfigure, attachMsgq⟩
    have active := (getD_active uart tbotUartSbus).trans sbus
    have linked := (getD_active can tbotCanUplink).trans uplink
    exact ⟨⟨dio, led, uart, can, encoder⟩, ⟨⟨active, uartConfigure⟩, active⟩,
      linked, calcTiming, setTiming, canConfigure, attachMsgq⟩

/-- A board on which everything works except that the UART driver refuses the SBUS configuration. -/
def uartRefuses : Platform where
  dio := .replicate 6 ⟨true, true⟩
  led := .replicate 4 ⟨true, true, 0⟩
  pwm := .replicate 6 true
  uart := .replicate 8 ⟨true, true⟩
  can := .replicate 2 ⟨true, true⟩
  encoder := .replicate 4 ⟨true, true⟩
  uartConfigure _ := -134
  canDriver := ⟨fun _ _ => (0, ⟨1, 1, 10, 2, 3⟩), fun _ => 0, fun _ _ => 0, fun _ => 0⟩
  filterId := 0

/-- The receiver and all other services run all the same. -/
theorem uartRefuses_not_allOrNothing : ¬ AllOrNothing uartRefuses := by
  intro outcome
  obtain ⟨-, sbus, -⟩ := (allOrNothing_iff_configured _).mp outcome
  obtain ⟨configured, -⟩ := Bool.and_eq_true_iff.mp sbus
  exact absurd (configureUart_iff.mp configured).2 (by decide)

end Robofw.Model.Startup
