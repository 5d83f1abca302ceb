import Robofw.Model.RccarSystem
import Robofw.Soundness.RccarReplay
import Robofw.Soundness.SbusStream

/-! # The throttle of the RC car

The RPM frames stay within the VESC's limit as long as the published channels stay in their documented
range. The decoder passes raw values from 0 to 2047, the scaling maps 240 and 1807 to the ends of the
range, and no stage in between checks: the bound holds on exactly the byte streams whose frames carry
calibrated channels.
-/

namespace Robofw.Model

open Robofw.Core
open Rccar.Messenger (sendSetRpmCmd)

/-- The documented range of the channels: scaled to [-1, 1]. -/
def ReceiverData.InRange (data : ReceiverData) : Prop :=
  ∀ i, -1 ≤ data.channels.get i ∧ data.channels.get i ≤ 1

/-- The raw channels that the receiver uses lie between `SBUS_CHN_MIN` and `SBUS_CHN_MAX`. -/
def SbusMessage.Calibrated (sbusMsg : SbusMessage) : Prop :=
  ∀ i : Fin 8, 240 ≤ ((sbusMsg.channels.take 8).get i).toNat ∧
    ((sbusMsg.channels.take 8).get i).toNat ≤ 1807

private theorem scaleChannel_above {channel : UInt16} (above : 1023 < channel.toNat) :
    scaleChannel channel = ((channel.toNat : ℚ) - 1023) / 784 := by
  have taken : (channel.toNat : ℤ) > sbusChnMid := by rw [sbusChnMid]; exact_mod_cast above
  rw [scaleChannel, if_pos taken]
  norm_num [sbusChnMid, sbusChnMax]

private theorem scaleChannel_below {channel : UInt16} (below : channel.toNat ≤ 1023) :
    scaleChannel channel = ((channel.toNat : ℚ) - 1023) / 783 := by
  have taken : ¬ (channel.toNat : ℤ) > sbusChnMid := by rw [sbusChnMid]; omega
  rw [scaleChannel, if_neg taken]
  norm_num [sbusChnMid, sbusChnMin]

/-- A channel scales into the documented range exactly when it is calibrated. -/
theorem scaleChannel_inRange_iff (channel : UInt16) :
    -1 ≤ scaleChannel channel ∧ scaleChannel channel ≤ 1 ↔
      240 ≤ channel.toNat ∧ channel.toNat ≤ 1807 := by
  have cast : 240 ≤ channel.toNat ∧ channel.toNat ≤ 1807 ↔
      (240 : ℚ) ≤ channel.toNat ∧ (channel.toNat : ℚ) ≤ 1807 := by norm_cast
  rw [cast]
  rcases Nat.lt_or_ge 1023 channel.toNat with above | below
  · have low : (1023 : ℚ) < channel.toNat := by exact_mod_cast above
    rw [scaleChannel_above above, le_div_iff₀ (by norm_num), div_le_iff₀ (by norm_num)]
    constructor <;> rintro ⟨-, high⟩ <;> constructor <;> linarith
  · have high : (channel.toNat : ℚ) ≤ 1023 := by exact_mod_cast below
    rw [scaleChannel_below below, le_div_iff₀ (by norm_num), div_le_iff₀ (by norm_num)]
    constructor <;> rintro ⟨low, -⟩ <;> constructor <;> linarith

/-- A message scales into the documented range exactly when its channels are calibrated. -/
theorem scaleMessage_inRange_iff (sbusMsg : SbusMessage) :
    (scaleMessage sbusMsg).InRange ↔ sbusMsg.Calibrated := by
  have channel (i : Fin 8) : (scaleMessage sbusMsg).channels.get i =
      scaleChannel ((sbusMsg.channels.take 8).get i) := Vector.getElem_map ..
  simp only [ReceiverData.InRange, SbusMessage.Calibrated, channel, scaleChannel_inRange_iff]

namespace Rccar

/-- A motion whose linear part is within one unit. -/
def LinearBounded (motion : DesiredMotion) : Prop := -1 ≤ motion.linear ∧ motion.linear ≤ 1

theorem linearBounded_zero : LinearBounded .zero := by
  constructor <;> norm_num [DesiredMotion.zero]

private theorem deadzone_bounded {zone value : ℚ} (bounded : -1 ≤ value ∧ value ≤ 1) :
    -1 ≤ deadzone zone value ∧ deadzone zone value ≤ 1 := by
  unfold deadzone
  split
  · constructor <;> norm_num
  · exact bounded

theorem linearBounded_rcMotion {data : ReceiverData} (inRange : data.InRange) :
    LinearBounded (Coordinator.rcMotion data) := deadzone_bounded (inRange 2)

/-- A bounded motion asks for a speed within `VESC_MAX_RPM`. -/
theorem motorRpm_bounded {motion : DesiredMotion} (bounded : LinearBounded motion) :
    -23250 ≤ motorRpm motion ∧ motorRpm motion ≤ 23250 := by
  obtain ⟨low, high⟩ := bounded
  apply tdiv_bounded
  · push_cast [vescMaxRpm]; linarith
  · push_cast [vescMaxRpm]; linarith

/-- The RPM frame carries the speed it was made for. -/
theorem cmdWord_sendSetRpmCmd {board : Board} {rpm : Int32} {frame : ZcanFrame}
    (sent : (sendSetRpmCmd board rpm).1 = some frame) : cmdWord frame = rpm := by
  obtain ⟨-, rfl⟩ := sendCanFrame_sent.mp sent
  have word := congrArg UInt32.toInt32 (bigEndian32_bytes rpm.toUInt32)
  simp only [cmdWord, txFrame, get_memcpyData]
  simpa [vescSetRpmCmdPacketToFrame, wordCmdToFrame, get_set] using word

/-- Every RC message and every motion on its way through the services is within its range. -/
structure Throttled (s : State) : Prop where
  pending : ∀ data purging, s.receiver = some (data, purging) → data.InRange
  received : ∀ data ∈ s.receiverDataQueue.items, data.InRange
  desired : LinearBounded s.coordinator.desiredMotion.val
  waiting : ∀ motion ∈ s.rcDesiredMotionQueue.items, LinearBounded motion.val

theorem throttled_initial : Throttled .initial :=
  ⟨by intro data purging pending; contradiction, by intro data member; contradiction,
    linearBounded_zero, by intro motion member; contradiction⟩

/-- What the receiver holds after a step it held before, or the step handed it in. -/
theorem receiver_step {s : State} {event : Event} {data : ReceiverData} {purging : Bool}
    (pending : (step s event).1.receiver = some (data, purging)) :
    event = .rcMessage data ∨ ∃ before, s.receiver = some (data, before) := by
  cases event with
  | rcMessage message =>
    simp only [step] at pending
    split at pending
    · obtain ⟨rfl, -⟩ := Prod.mk.inj (Option.some.inj pending)
      exact .inl rfl
    · exact .inr ⟨purging, pending⟩
  | receiver =>
    simp only [step, receiverStep] at pending
    split at pending
    · exact .inr ⟨purging, pending⟩
    · split at pending
      · contradiction
      · obtain ⟨rfl, -⟩ := Prod.mk.inj (Option.some.inj pending)
        exact .inr ⟨_, ‹_›⟩
  | coordinator =>
    refine .inr ⟨purging, ?_⟩
    simp only [step, coordinatorStep] at pending
    split at pending <;> split at pending <;> exact pending
  | messengerTx =>
    refine .inr ⟨purging, ?_⟩
    simp only [step, messengerTxStep] at pending
    split at pending <;> split at pending <;> exact pending

/-- What waits in the RC data queue after a step waited there before, or the receiver held it. -/
theorem mem_receiverDataQueue_step {s : State} {event : Event} {data : ReceiverData}
    (member : data ∈ (step s event).1.receiverDataQueue.items) :
    data ∈ s.receiverDataQueue.items ∨ ∃ purging, s.receiver = some (data, purging) := by
  cases event with
  | rcMessage message => simp only [step] at member; split at member <;> exact .inl member
  | receiver =>
    simp only [step, receiverStep] at member
    split at member
    · exact .inl member
    case h_2 held purging pending =>
      have effect := @MessageQueue.mem_attempt _ _ s.receiverDataQueue _ purging held data _
        (Prod.eta (s.receiverDataQueue.attempt purging held)).symm
      split at member
      case h_1 queue attempted =>
        rw [attempted] at effect
        rcases effect member with old | ⟨-, rfl⟩
        · exact .inl old
        · exact .inr ⟨purging, pending⟩
      case h_2 queue outcome notDone attempted =>
        rw [attempted] at effect
        rcases effect member with old | ⟨-, rfl⟩
        · exact .inl old
        · exact .inr ⟨purging, pending⟩
  | coordinator =>
    simp only [step, coordinatorStep] at member
    split at member
    · split at member
      case h_1 taken =>
        exact .inl (MessageQueue.get_eq_some taken ▸ List.mem_cons_of_mem _ member)
      case h_2 => exact .inl member
    all_goals split at member <;> exact .inl member
  | messengerTx =>
    simp only [step, messengerTxStep] at member
    split at member <;> split at member <;> exact .inl member

/-- The update of the control keeps the motion to send bounded. -/
private theorem linearBounded_updateControl {c : Coordinator}
    (desired : LinearBounded c.desiredMotion.val) :
    LinearBounded c.updateControl.desiredMotion.val := by
  rcases @Coordinator.updateControl_source c (fun motion => LinearBounded motion.val)
    (.inr desired) with zero | bounded
  · exact zero ▸ linearBounded_zero
  · exact bounded

/-- A step keeps the services within range when the RC message it hands in is. -/
theorem Throttled.step {s : State} (throttled : Throttled s) {event : Event}
    (handed : ∀ data, event = .rcMessage data → data.InRange) : Throttled (step s event).1 := by
  have pending : ∀ data purging, (Rccar.step s event).1.receiver = some (data, purging) →
      data.InRange := by
    intro data purging held
    rcases receiver_step held with own | ⟨before, held⟩
    · exact handed data own
    · exact throttled.pending data before held
  have received : ∀ data ∈ (Rccar.step s event).1.receiverDataQueue.items, data.InRange := by
    intro data member
    rcases mem_receiverDataQueue_step member with old | ⟨purging, held⟩
    · exact throttled.received data old
    · exact throttled.pending data purging held
  have move := step_move s event
  generalize (Rccar.step s event).1 = next at pending received move
  cases move with
  | receiveRc data queue own at_pc items =>
    refine ⟨pending, received, linearBounded_updateControl ?_, throttled.waiting⟩
    have inRange := throttled.received data (items ▸ List.mem_cons_self ..)
    simp only [Coordinator.receiveRc]
    split
    · exact linearBounded_rcMotion inRange
    · exact throttled.desired
  | missRc =>
    refine ⟨pending, received, linearBounded_updateControl ?_, throttled.waiting⟩
    rw [Coordinator.desiredMotion_missRc]
    exact throttled.desired
  | put queue pc items =>
    refine ⟨pending, received, throttled.desired, fun motion member => ?_⟩
    rw [items, List.mem_append, List.mem_singleton] at member
    rcases member with member | rfl
    · exact throttled.waiting motion member
    · exact throttled.desired
  | purge _ items keeps =>
    refine ⟨pending, received, keeps.desiredMotion ▸ throttled.desired, ?_⟩
    rw [items]
    exact fun _ member => absurd member List.not_mem_nil
  | take _ motion items keeps =>
    refine ⟨pending, received, keeps.desiredMotion ▸ throttled.desired, fun other member => ?_⟩
    exact throttled.waiting other (items ▸ List.mem_cons_of_mem _ member)
  | other _ items keeps =>
    exact ⟨pending, received, keeps.desiredMotion ▸ throttled.desired, items ▸ throttled.waiting⟩

/-- What the throttle bound asks of an output. -/
def SystemOutput.Bounded : SystemOutput → Prop
  | .rcData data => data.InRange
  | .servoFrame _ => True
  | .rpmFrame frame => -23250 ≤ (cmdWord frame).toInt ∧ (cmdWord frame).toInt ≤ 23250
  | .outOfBounds => False

/-- In every interleaving in which the receiver takes this byte stream, every published channel is in
its range and every RPM frame within the limit. -/
def ThrottleBound (board : Board) (stream : List UInt8) : Prop :=
  ∀ inst sbusMsg events, takenBytes ((system board inst sbusMsg).steps events) = stream →
    ∀ step ∈ (system board inst sbusMsg).steps events,
      ∀ output ∈ (System.step board step.1 step.2).2, output.Bounded

theorem takenBytes_concat (past : List (System × SystemEvent)) (step : System × SystemEvent) :
    takenBytes (past ++ [step]) = takenBytes past ++ (takenByte step).toList := by
  simp only [takenBytes, List.filterMap_append]
  cases taken : takenByte step with
  | none => rw [List.filterMap_cons_none taken]; rfl
  | some ch => rw [List.filterMap_cons_some taken]; rfl

/-- The block that the decoder has open after these bytes. -/
def openBlock (stream : List UInt8) : List UInt8 := openAfter sbusFrameHead 25 [] stream

theorem opened_openBlock (stream : List UInt8) : Opened sbusFrameHead 25 (openBlock stream) :=
  (opened_nil (by decide)).openAfter stream

/-- The message that one more byte completes. -/
def completedMessage (stream : List UInt8) (ch : UInt8) : Option SbusMessage :=
  (feed sbusFrameHead 25 (openBlock stream) ch).2.bind frameMessage

theorem parseSbus_concat (stream : List UInt8) (ch : UInt8) :
    parseSbus (stream ++ [ch]) = parseSbus stream ++ (completedMessage stream ch).toList := by
  have fed (bytes : List UInt8) : blocks sbusFrameHead 25 bytes = feedAll sbusFrameHead 25 [] bytes :=
    (feedAll_eq_blocks (opened_nil (by decide)) bytes).symm
  rw [parseSbus, parseSbus, fed, fed, feedAll_concat, List.filterMap_append, completedMessage, openBlock]
  congr 1
  cases (feed sbusFrameHead 25 (openAfter sbusFrameHead 25 [] stream) ch).2 with
  | none => rfl
  | some block =>
    rw [Option.toList_some, Option.bind_some]
    cases framed : frameMessage block with
    | none => rw [List.filterMap_cons_none framed]; rfl
    | some message => rw [List.filterMap_cons_some framed]; rfl

/-- The decoder holds the open block of the bytes taken, and the services stay within range as long as
the messages of those bytes are calibrated. -/
structure Follows (past : List (System × SystemEvent)) (s : System) : Prop where
  decoder : Represents s.sbusDecoder (openBlock (takenBytes past))
  services : (∀ sbusMsg ∈ parseSbus (takenBytes past), sbusMsg.Calibrated) → Throttled s.services

/-- Taking a byte emits nothing, feeds it to the open block and hands in a completed message. -/
theorem takeByte_spec {s : System} {stream : List UInt8}
    (represents : Represents s.sbusDecoder (openBlock stream)) (ch : UInt8) :
    (s.takeByte ch).2 = [] ∧
      Represents (s.takeByte ch).1.sbusDecoder (openBlock (stream ++ [ch])) ∧
      (s.takeByte ch).1.services = (completedMessage stream ch).elim s.services
        fun message => (Rccar.step s.services (.rcMessage (scaleMessage message))).1 := by
  obtain ⟨next, success, after, -⟩ :=
    sbusDecodeMessage_represents represents (opened_openBlock stream) ch s.sbusMsgBuffer
  rw [openBlock, openAfter_concat, ← openBlock]
  unfold completedMessage
  simp only [System.takeByte, success, answer]
  cases (feed sbusFrameHead 25 (openBlock stream) ch).2.bind frameMessage with
  | none => exact ⟨rfl, after, rfl⟩
  | some message => exact ⟨rfl, after, rfl⟩

theorem takenByte_idle {s : System} (idle : s.services.receiver.isNone = true) (ch : UInt8) :
    takenByte (s, .sbusByte ch) = some ch := if_pos idle

theorem takenByte_busy {s : System} (busy : ¬ s.services.receiver.isNone = true) (ch : UInt8) :
    takenByte (s, .sbusByte ch) = none := if_neg busy

/-- A step that takes no byte and keeps the services within range. -/
theorem Follows.keep {past : List (System × SystemEvent)} {s next : System} {event : SystemEvent}
    (follows : Follows past s) (untaken : takenByte (s, event) = none)
    (decoder : next.sbusDecoder = s.sbusDecoder)
    (services : Throttled s.services → Throttled next.services) :
    Follows (past ++ [(s, event)]) next := by
  have taken : takenBytes (past ++ [(s, event)]) = takenBytes past := by
    rw [takenBytes_concat, untaken, Option.toList_none, List.append_nil]
  refine ⟨?_, fun calibrated => services (follows.services (taken ▸ calibrated))⟩
  rw [taken, decoder]
  exact follows.decoder

/-- A step of the car extends what its history says. -/
theorem Follows.step (board : Board) {past : List (System × SystemEvent)} {s : System}
    (follows : Follows past s) (event : SystemEvent) :
    Follows (past ++ [(s, event)]) (System.step board s event).1 := by
  cases event with
  | sbusByte ch =>
    by_cases idle : s.services.receiver.isNone = true
    · obtain ⟨-, after, handed⟩ := takeByte_spec follows.decoder ch
      have taken : takenBytes (past ++ [(s, .sbusByte ch)]) = takenBytes past ++ [ch] := by
        rw [takenBytes_concat, takenByte_idle idle, Option.toList_some]
      simp only [System.step, if_pos idle]
      refine ⟨taken ▸ after, fun calibrated => ?_⟩
      rw [taken, parseSbus_concat] at calibrated
      have throttled := follows.services fun sbusMsg member =>
        calibrated sbusMsg (List.mem_append_left _ member)
      rw [handed]
      cases completed : completedMessage (takenBytes past) ch with
      | none => exact throttled
      | some message =>
        apply throttled.step
        rintro data same
        obtain rfl := Event.rcMessage.inj same
        apply (scaleMessage_inRange_iff message).mpr
        apply calibrated
        rw [completed]
        exact List.mem_append_right _ (List.mem_singleton_self message)
    · simp only [System.step, if_neg idle]
      exact follows.keep (takenByte_busy idle ch) rfl id
  | receiver => exact follows.keep rfl rfl fun throttled => throttled.step (by simp)
  | coordinator => exact follows.keep rfl rfl fun throttled => throttled.step (by simp)
  | messengerTx =>
    have kept (throttled : Throttled s.services) := @Throttled.step _ throttled .messengerTx (by simp)
    exact follows.keep rfl rfl kept

theorem follows_run (board : Board) (inst : SbusDecoderInstance) (sbusMsg : SbusMessage)
    (events : List SystemEvent) : Follows ((system board inst sbusMsg).steps events)
      ((system board inst sbusMsg).run events) := by
  apply Machine.run_history (m := system board inst sbusMsg) Follows
  · exact ⟨represents_nil rfl, fun _ => throttled_initial⟩
  · exact fun past s event follows => follows.step board event

/-- What the RX thread puts is the data it holds. -/
theorem putData_eq_some {s : State} {data : ReceiverData} (put : putData s = some data) :
    ∃ purging, s.receiver = some (data, purging) := by
  unfold putData at put
  split at put
  · contradiction
  case h_2 held purging pending =>
    split at put
    · exact ⟨purging, Option.some.inj put ▸ pending⟩
    · contradiction

/-- The frames of a bounded motion are bounded. -/
theorem txFrames_bounded {board : Board} {sent : Output} (bounded : LinearBounded sent.motion.val)
    (speed : sent.motorRpm = motorRpm sent.motion.val) {output : SystemOutput}
    (emitted : output ∈ txFrames board sent) : output.Bounded := by
  unfold txFrames at emitted
  rcases List.mem_append.mp emitted with servo | rpm
  · obtain ⟨frame, -, rfl⟩ := Option.map_eq_some_iff.mp (Option.mem_toList.mp servo)
    trivial
  · obtain ⟨frame, handed, rfl⟩ := Option.map_eq_some_iff.mp (Option.mem_toList.mp rpm)
    obtain ⟨low, high⟩ := motorRpm_bounded bounded
    simp only [SystemOutput.Bounded]
    rw [cmdWord_sendSetRpmCmd handed, speed, Int32.toInt_ofInt_of_le (by omega) (by omega)]
    exact ⟨low, high⟩

/-- From services within range every output of a step is bounded. -/
theorem bounded_of_throttled {board : Board} {past : List (System × SystemEvent)} {s : System}
    (follows : Follows past s) (throttled : Throttled s.services) {event : SystemEvent}
    {output : SystemOutput} (emitted : output ∈ (System.step board s event).2) : output.Bounded := by
  cases event with
  | sbusByte ch =>
    simp only [System.step] at emitted
    split at emitted
    · rw [(takeByte_spec follows.decoder ch).1] at emitted
      contradiction
    · contradiction
  | receiver =>
    obtain ⟨data, put, rfl⟩ := Option.map_eq_some_iff.mp (Option.mem_toList.mp emitted)
    obtain ⟨purging, pending⟩ := putData_eq_some put
    exact throttled.pending data purging pending
  | coordinator => contradiction
  | messengerTx =>
    simp only [System.step, Rccar.step, messengerTxStep] at emitted
    split at emitted
    · split at emitted <;> contradiction
    · split at emitted
      case h_1 motion queue taken =>
        rw [List.flatMap_singleton] at emitted
        have member := MessageQueue.get_eq_some taken ▸ List.mem_cons_self ..
        exact txFrames_bounded (throttled.waiting motion member) rfl emitted
      case h_2 => contradiction

/-- With room in the queue the receiver's put succeeds. -/
private theorem receiver_room {s : State} {data : ReceiverData} (pending : s.receiver = some (data, false))
    (room : s.receiverDataQueue.items.length < 1) :
    putData s = some data ∧ (step s .receiver).1.receiver = none := by
  have done : (s.receiverDataQueue.attempt false data).2 = .done :=
    MessageQueue.attempt_done_iff.mpr ⟨rfl, room⟩
  constructor
  · simp only [putData, pending, done, if_true]
  · simp only [step, receiverStep, pending]
    split
    · rfl
    case h_2 queue outcome notDone attempted =>
      rw [attempted] at done
      exact absurd done notDone

/-- After a purge the receiver tries again with an empty queue. -/
private theorem receiver_purge {s : State} {data : ReceiverData} (pending : s.receiver = some (data, true)) :
    (step s .receiver).1 = { s with receiverDataQueue := .empty, receiver := some (data, false) } := by
  simp only [step, receiverStep, pending, MessageQueue.attempt]
  rfl

/-- With a full queue the receiver's put fails, and a purge comes next. -/
private theorem receiver_full {s : State} {data : ReceiverData} (pending : s.receiver = some (data, false))
    (full : s.receiverDataQueue.items.length = 1) :
    (step s .receiver).1.receiver = some (data, true) := by
  have failed : s.receiverDataQueue.put data = none := MessageQueue.put_eq_none_iff.mpr full
  simp only [step, receiverStep, pending, MessageQueue.attempt, failed]
  rfl

/-- The receiver can end its put loop at once, and then the data it held was put. -/
theorem exists_put (board : Board) (inst : SbusDecoderInstance) (sbusMsg : SbusMessage) {s : System}
    {data : ReceiverData} (pending : s.services.receiver = some (data, false)) :
    ∃ count,
      ((system board inst sbusMsg).runFrom s (List.replicate count .receiver)).services.receiver = none ∧
      ∃ step ∈ (system board inst sbusMsg).stepsFrom s (List.replicate count .receiver),
        .rcData data ∈ (System.step board step.1 step.2).2 := by
  have emits {state : System} (put : putData state.services = some data) :
      .rcData data ∈ (System.step board state .receiver).2 := by
    simp only [System.step, put, Option.map_some, Option.toList_some, List.mem_singleton]
  rcases Nat.lt_or_ge s.services.receiverDataQueue.items.length 1 with room | full
  · obtain ⟨put, done⟩ := receiver_room pending room
    exact ⟨1, done, (s, .receiver), List.mem_singleton_self _, emits put⟩
  · have length := Nat.le_antisymm s.services.receiverDataQueue.bounded full
    -- the put fails, the purge makes room, the second put succeeds
    have purging := receiver_full pending length
    have purged := receiver_purge purging
    obtain ⟨put, done⟩ := @receiver_room (Rccar.step (Rccar.step s.services .receiver).1 .receiver).1 data
      (by rw [purged]) (by rw [purged]; exact Nat.zero_lt_one)
    exact ⟨3, done, _, List.mem_cons_of_mem _ (List.mem_cons_of_mem _ (List.mem_singleton_self _)),
      @emits ⟨_, _, _⟩ put⟩

/-- Receiver steps take no byte. -/
private theorem takenBytes_receivers (m : Machine System SystemEvent SystemOutput) (s : System)
    (count : ℕ) : takenBytes (m.stepsFrom s (List.replicate count .receiver)) = [] := by
  induction count generalizing s with
  | zero => rfl
  | succ count ih => exact ih _

/-- A run in which the receiver takes this stream and puts every message of it. -/
theorem exists_run (board : Board) (inst : SbusDecoderInstance) (sbusMsg : SbusMessage)
    (stream : List UInt8) : ∃ events,
      takenBytes ((system board inst sbusMsg).steps events) = stream ∧
      ((system board inst sbusMsg).run events).services.receiver = none ∧
      ∀ message ∈ parseSbus stream, ∃ step ∈ (system board inst sbusMsg).steps events,
        .rcData (scaleMessage message) ∈ (System.step board step.1 step.2).2 := by
  induction stream using List.reverseRecOn with
  | nil => exact ⟨[], rfl, rfl, by intro message parsed; simp [parseSbus] at parsed⟩
  | append_singleton stream ch ih =>
    obtain ⟨events, taken, idle, published⟩ := ih
    have follows := follows_run board inst sbusMsg events
    have isNone : ((system board inst sbusMsg).run events).services.receiver.isNone = true := by
      rw [idle]; rfl
    have extended : takenBytes ((system board inst sbusMsg).steps (events ++ [.sbusByte ch])) =
        stream ++ [ch] := by
      rw [Machine.steps_concat, takenBytes_concat, taken, takenByte_idle isNone, Option.toList_some]
    have earlier : ∀ message ∈ parseSbus stream,
        ∃ step ∈ (system board inst sbusMsg).steps (events ++ [.sbusByte ch]),
          .rcData (scaleMessage message) ∈ (System.step board step.1 step.2).2 := by
      intro message parsed
      obtain ⟨step, member, emitted⟩ := published message parsed
      exact ⟨step, by rw [Machine.steps_concat]; exact List.mem_append_left _ member, emitted⟩
    obtain ⟨-, -, handed⟩ := takeByte_spec follows.decoder ch
    have reached : ((system board inst sbusMsg).run (events ++ [.sbusByte ch])).services =
        (((system board inst sbusMsg).run events).takeByte ch).1.services := by
      rw [Machine.run_concat]
      change (System.step board _ (.sbusByte ch)).1.services = _
      rw [System.step, if_pos isNone]
    rw [handed, taken] at reached
    rw [parseSbus_concat]
    cases completed : completedMessage stream ch with
    | none =>
      rw [completed] at reached
      refine ⟨events ++ [.sbusByte ch], extended, by rw [reached]; exact idle, ?_⟩
      rw [Option.toList_none, List.append_nil]
      exact earlier
    | some message =>
      have pending : ((system board inst sbusMsg).run (events ++ [.sbusByte ch])).services.receiver =
          some (scaleMessage message, false) := by
        rw [reached, completed]
        simp only [Option.elim_some, Rccar.step, isNone, if_true]
      obtain ⟨count, done, step, stepped, emitted⟩ := exists_put board inst sbusMsg pending
      refine ⟨(events ++ [.sbusByte ch]) ++ List.replicate count .receiver, ?_, ?_, ?_⟩
      · rw [Machine.steps, Machine.stepsFrom_append, takenBytes, List.filterMap_append]
        have nothing := takenBytes_receivers (system board inst sbusMsg)
          ((system board inst sbusMsg).run (events ++ [.sbusByte ch])) count
        exact (congrArg₂ (· ++ ·) extended nothing).trans (List.append_nil _)
      · rw [Machine.run, Machine.runFrom_append]
        exact done
      · intro other parsed
        rw [Machine.steps, Machine.stepsFrom_append]
        rcases List.mem_append.mp parsed with parsed | last
        · obtain ⟨step, member, emitted⟩ := earlier other parsed
          exact ⟨step, List.mem_append_left _ member, emitted⟩
        · obtain rfl := List.mem_singleton.mp last
          exact ⟨step, List.mem_append_right _ stepped, emitted⟩

/-- The messages of a stream are among those of every longer one. -/
theorem mem_parseSbus_append {stream : List UInt8} {message : SbusMessage}
    (parsed : message ∈ parseSbus stream) (rest : List UInt8) : message ∈ parseSbus (stream ++ rest) := by
  induction rest using List.reverseRecOn with
  | nil => rwa [List.append_nil]
  | append_singleton rest ch ih =>
    rw [← List.append_assoc, parseSbus_concat]
    exact List.mem_append_left _ ih

/-- The throttle bound holds on exactly the streams whose frames all carry calibrated channels. -/
theorem throttleBound_iff (board : Board) (stream : List UInt8) :
    ThrottleBound board stream ↔ ∀ sbusMsg ∈ parseSbus stream, sbusMsg.Calibrated := by
  constructor
  · intro bounded sbusMsg member
    obtain ⟨events, taken, -, published⟩ := exists_run board default default stream
    obtain ⟨step, stepped, emitted⟩ := published sbusMsg member
    exact (scaleMessage_inRange_iff sbusMsg).mp (bounded _ _ events taken step stepped _ emitted)
  · rintro calibrated inst sbusMsg events rfl ⟨s, event⟩ member output emitted
    obtain ⟨before, after, rfl, rfl⟩ := Machine.mem_steps_iff.mp member
    have follows := follows_run board inst sbusMsg before
    apply bounded_of_throttled follows (follows.services fun earlier parsed => ?_) emitted
    apply calibrated
    rw [Machine.steps, Machine.stepsFrom_append, takenBytes, List.filterMap_append]
    exact mem_parseSbus_append parsed _

/-- The speeds of the RPM frames that a run sends. -/
def sentRpms (board : Board) (past : List (System × SystemEvent)) : List ℤ :=
  past.flatMap fun step => (System.step board step.1 step.2).2.filterMap fun
    | .rpmFrame frame => some (cmdWord frame).toInt
    | _ => none

/-- Bounded outputs carry bounded speeds. -/
theorem sentRpms_bounded {board : Board} {past : List (System × SystemEvent)}
    (bounded : ∀ step ∈ past, ∀ output ∈ (System.step board step.1 step.2).2, output.Bounded) {rpm : ℤ}
    (sent : rpm ∈ sentRpms board past) : -23250 ≤ rpm ∧ rpm ≤ 23250 := by
  obtain ⟨step, member, carried⟩ := List.mem_flatMap.mp sent
  obtain ⟨output, emitted, word⟩ := List.mem_filterMap.mp carried
  have limit := bounded step member output emitted
  cases output with
  | rpmFrame frame => exact Option.some.inj word ▸ limit
  | _ => contradiction

/-- A board with an active CAN device. -/
def activeBoard : Board where
  dd_can := ⟨true⟩
  canSend := fun _ => 0
  packetFrame := ⟨0, .extended, .dataFrame, 0, Vector.replicate 8 0⟩
  sendFrame := ⟨0, .extended, .dataFrame, 0, Vector.replicate 8 0⟩

/-- A frame under RC control without e-stop, with the throttle channel at its largest raw value. -/
def fullThrottleFrame : SbusBytes :=
  #v[0x0F, 0xFF, 0xFB, 0xDF, 0xFF, 0xFF, 0xF7, 0xBF, 0x87, 0xC3, 0xE3, 0x7F, 0xFF, 0xFB, 0xDF, 0xFF, 0xFE,
    0xF7, 0xBF, 0xFF, 0xFD, 0xEF, 0x7F, 0, 0]

/-- The receiver takes that frame, and each service does its turn. -/
def fullThrottle : List SystemEvent :=
  fullThrottleFrame.toList.map .sbusByte ++
    [.receiver, .coordinator, .coordinator, .coordinator, .messengerTx, .messengerTx]

/-- The frame makes the car send 30367 rpm. -/
theorem fullThrottle_exceeds :
    sentRpms activeBoard ((system activeBoard default default).steps fullThrottle) = [30367] ∧
      ¬ ThrottleBound activeBoard fullThrottleFrame.toList := by
  have taken : takenBytes ((system activeBoard default default).steps fullThrottle) =
      fullThrottleFrame.toList := by decide +kernel
  have rpms : sentRpms activeBoard ((system activeBoard default default).steps fullThrottle) =
      [30367] := by decide +kernel
  refine ⟨rpms, fun bounded => ?_⟩
  have limit := sentRpms_bounded (bounded default default fullThrottle taken)
    (rpms ▸ List.mem_singleton_self (30367 : ℤ))
  omega

end Rccar

end Robofw.Model
