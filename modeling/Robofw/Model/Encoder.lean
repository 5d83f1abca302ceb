import Robofw.Core.Displacement
import Robofw.Core.Machine
import Robofw.Core.MessageQueue
import Robofw.Core.Words

/-! # The encoder service as a machine

`EncoderServiceMainLoop` of `service/common/encoder/src/encoder_service.c`, started by
`StartEncoderService`, over the position of each encoder: an iteration moves the encoders, reads their
16-bit counters and the millisecond clock, and may make a speed estimate. The filter coefficients are
the rationals they are written as. A zero divisor, undefined in C, gives zero here.

Each array over the channels is a field of `Channel`, also the elements of the local `speed_estimate`,
which are not initialised. Ghosts serve the specifications: the positions, and the displacements since
the last estimate.
-/

namespace Robofw.Model.Encoder

open Robofw.Core

/-- `MAX_PULSE_PER_PERIOD` -/
def maxPulsePerPeriod : ℤ := 150

/-- `MAX_POSSIBLE_RPM` -/
def maxPossibleRpm : Int32 := 600

/-- `MIN_ESTIMATE_NUM_BEFORE_VALID` -/
def minEstimateNumBeforeValid : UInt32 := 20

/-- `AVERAGE_FILTER_LEN` -/
def averageFilterLen : UInt32 := 10

/-- The coefficient `a` of the low-pass filter, and the two equal coefficients `b`. -/
def filterA : ℚ := 7284895 / 10000000
def filterB : ℚ := 13575525 / 100000000

/-- What the loop keeps for one channel. -/
structure Channel where
  lastFilteredRpm : Int32
  rawRpmHistory : Vector Int32 2
  indexer : Fin 10
  estimatedRpmHistory : Vector Int32 10
  isCountingUp : Bool
  encoderPrevReading : UInt16
  accumulatedError : UInt16
  overflowDetected : Bool
  underflowDetected : Bool
  rawRpm : Int32
  filteredRpm : Int32
deriving DecidableEq

structure EstimatedSpeed where
  rawRpms : Vector Int32 2
  filteredRpms : Vector Int32 2
deriving DecidableEq

/-- `EncoderSrvConf`, accepted by `StartEncoderService`: one or two active encoders. -/
structure SrvConf where
  activeEncoderNum : UInt8
  pulsePerRound : Vector UInt32 2
  samplePerEveryIteration : UInt32
  started : activeEncoderNum = 1 ∨ activeEncoderNum = 2

/-- The loops over the channels below `active_encoder_num`. -/
def SrvConf.forActive {α : Type} (conf : SrvConf) (channels : Vector α 2) (update : Fin 2 → α → α) :
    Vector α 2 :=
  Vector.ofFn fun i =>
    if i.val < conf.activeEncoderNum.toNat then update i (channels.get i) else channels.get i

namespace Channel

/-- Before the first iteration; `overflow_detected` is initialised to `{true}`, which sets its first
element only. -/
def initial (overflow : Bool) (rawRpm filteredRpm : Int32) : Channel where
  lastFilteredRpm := 0
  rawRpmHistory := .replicate 2 0
  indexer := 0
  estimatedRpmHistory := .replicate 10 0
  isCountingUp := true
  encoderPrevReading := 0
  accumulatedError := 0
  overflowDetected := overflow
  underflowDetected := false
  rawRpm := rawRpm
  filteredRpm := filteredRpm

/-- "check overflow/underflow" -/
def checkWrap (channel : Channel) (encoderReading : UInt16) : Channel :=
  if encoderReading ≥ channel.encoderPrevReading ∧
      (encoderReading.toNat : ℤ) - channel.encoderPrevReading.toNat > maxPulsePerPeriod then
    { channel with underflowDetected := true }
  else if (channel.encoderPrevReading.toNat : ℤ) - encoderReading.toNat > maxPulsePerPeriod then
    { channel with overflowDetected := true }
  else channel

/-- The direction of the sample; a wrap is used up by the sample that it explains. -/
def updateDirection (channel : Channel) (encoderReading : UInt16) : Channel :=
  if encoderReading ≥ channel.encoderPrevReading then
    if channel.underflowDetected then
      { channel with isCountingUp := false, underflowDetected := false }
    else { channel with isCountingUp := true }
  else if channel.overflowDetected then
    { channel with isCountingUp := true, overflowDetected := false }
  else { channel with isCountingUp := false }

/-- "save error values" and "update previous reading" -/
def saveError (channel : Channel) (encoderReading : UInt16) : Channel :=
  let readingError :=
    if channel.isCountingUp then encoderReading - channel.encoderPrevReading
    else channel.encoderPrevReading - encoderReading
  { channel with
    accumulatedError := channel.accumulatedError + readingError
    encoderPrevReading := encoderReading }

/-- One sample of a channel. -/
def sample (channel : Channel) (encoderReading : UInt16) : Channel :=
  ((channel.checkWrap encoderReading).updateDirection encoderReading).saveError encoderReading

end Channel

/-- `sign * (int32_t)accumulated_error * 60 * 1000 / accumulated_time / pulse_per_round`: the product
is 32 bits wide, the quotients are 64. -/
def calculateRpm (isCountingUp : Bool) (accumulatedError : UInt16) (accumulatedTime : ℤ)
    (pulsePerRound : UInt32) : Int32 :=
  let sign : Int32 := if isCountingUp then 1 else -1
  let product := sign * Int32.ofInt accumulatedError.toNat * 60 * 1000
  Int32.ofInt ((product.toInt.tdiv accumulatedTime).tdiv pulsePerRound.toNat)

namespace Channel

/-- The low-pass expression over the rationals, cut to an integer. -/
def lowPassValue (channel : Channel) : Int32 :=
  let filtered := filterA * channel.lastFilteredRpm.toInt +
    filterB * (channel.rawRpmHistory.get 1).toInt + filterB * (channel.rawRpmHistory.get 0).toInt
  Int32.ofInt (filtered.num.tdiv filtered.den)

/-- An outlier repeats the last value. -/
def removeOutlier (channel : Channel) (filteredRpm : Int32) : Int32 :=
  if filteredRpm > maxPossibleRpm ∨ filteredRpm < -maxPossibleRpm then channel.lastFilteredRpm
  else filteredRpm

/-- The low-pass filter over the rationals. -/
def lowPass (channel : Channel) : Int32 := channel.removeOutlier channel.lowPassValue

/-- The estimate of a channel from the value of its low-pass expression: raw, filtered, and averaged once
enough estimates have been made. -/
def estimate (channel : Channel) (lowPassValue : Int32) (estimatorCounter : UInt32) (accumulatedTime : ℤ)
    (pulsePerRound : UInt32) : Channel :=
  let raw := calculateRpm channel.isCountingUp channel.accumulatedError accumulatedTime pulsePerRound
  let filtered := channel.removeOutlier lowPassValue
  let history := channel.estimatedRpmHistory.set channel.indexer.val filtered channel.indexer.isLt
  { channel with
    rawRpm := raw
    rawRpmHistory := Vector.ofFn fun i => if i = 0 then channel.rawRpmHistory.get 1 else raw
    lastFilteredRpm := filtered
    estimatedRpmHistory := history
    indexer := channel.indexer + 1
    filteredRpm :=
      if estimatorCounter ≥ averageFilterLen then
        Int32.ofInt ((history.toList.map Int32.toInt).sum.tdiv 10)
      else filtered }

/-- "clear time and error" -/
def clearError (channel : Channel) : Channel := { channel with accumulatedError := 0 }

end Channel

/-- The local variables of the loop and its queue. -/
structure Service where
  channels : Vector Channel 2
  firstTime : Bool
  timeStamp : ℤ
  accumulatedTime : ℤ
  loopCounter : UInt32
  estimatorCounter : UInt32
  rpmQueue : MessageQueue EstimatedSpeed 1

/-- What the low-pass expression of a channel gives in a state of the loop, cut to an integer. The code
computes it in single precision; `exactLowPass` computes it over the rationals. -/
abbrev LowPassValue := Service → Fin 2 → Int32

def exactLowPass : LowPassValue := fun s i => (s.channels.get i).lowPassValue

namespace Service

/-- At the start of the thread, with what its stack held in `speed_estimate`. -/
def initial (uptime : ℤ) (garbage : EstimatedSpeed) : Service where
  channels := Vector.ofFn fun i =>
    Channel.initial (i = 0) (garbage.rawRpms.get i) (garbage.filteredRpms.get i)
  firstTime := true
  timeStamp := uptime
  accumulatedTime := 0
  loopCounter := 0
  estimatorCounter := 0
  rpmQueue := .empty

/-- `speed_estimate` -/
def speedEstimate (s : Service) : EstimatedSpeed :=
  ⟨s.channels.map (·.rawRpm), s.channels.map (·.filteredRpm)⟩

/-- The first iteration only saves the readings. -/
def firstIteration (conf : SrvConf) (s : Service) (readings : Vector UInt16 2) : Service :=
  { s with
    channels := conf.forActive s.channels fun i channel =>
      { channel with encoderPrevReading := readings.get i }
    firstTime := false }

/-- The part of a later iteration that samples the channels. -/
def takeSample (conf : SrvConf) (s : Service) (readings : Vector UInt16 2) (uptime : ℤ) : Service :=
  { s with
    channels := conf.forActive s.channels fun i channel => channel.sample (readings.get i)
    timeStamp := uptime
    accumulatedTime := s.accumulatedTime + (uptime - s.timeStamp)
    loopCounter := s.loopCounter + 1 }

/-- The channels after an estimate, before their errors are cleared. -/
def estimateChannels (value : LowPassValue) (conf : SrvConf) (s : Service) : Vector Channel 2 :=
  conf.forActive s.channels fun i channel =>
    channel.estimate (value s i) s.estimatorCounter s.accumulatedTime (conf.pulsePerRound.get i)

/-- "calculate rpm every ~20ms": the estimate, put into the queue after enough estimates. -/
def makeEstimate (value : LowPassValue) (conf : SrvConf) (s : Service) : Service :=
  let estimated := { s with channels := s.estimateChannels value conf }
  let estimatorCounter := s.estimatorCounter + 1
  let valid := estimatorCounter > minEstimateNumBeforeValid
  { estimated with
    channels := conf.forActive estimated.channels fun _ channel => channel.clearError
    accumulatedTime := 0
    estimatorCounter := if valid then minEstimateNumBeforeValid else estimatorCounter
    rpmQueue := if valid then s.rpmQueue.putOrPurge estimated.speedEstimate else s.rpmQueue }

/-- `loop_counter++ % sample_per_every_iteration == 0`, asked in an iteration after the first. -/
def Estimates (conf : SrvConf) (s : Service) : Prop :=
  s.firstTime = false ∧ s.loopCounter % conf.samplePerEveryIteration = 0

instance (conf : SrvConf) (s : Service) : Decidable (s.Estimates conf) :=
  inferInstanceAs (Decidable (_ ∧ _))

/-- One iteration of the loop, and the estimate it makes. -/
def iterate (value : LowPassValue) (conf : SrvConf) (s : Service) (readings : Vector UInt16 2)
    (uptime : ℤ) : Service × List EstimatedSpeed :=
  if s.firstTime then (s.firstIteration conf readings, [])
  else
    let sampled := s.takeSample conf readings uptime
    if s.loopCounter % conf.samplePerEveryIteration = 0 then
      let next := sampled.makeEstimate value conf
      (next, [next.speedEstimate])
    else (sampled, [])

end Service

/-- An iteration after the encoders have moved, or a get of the speed service from the queue. -/
inductive Event where
  | iteration (displacements : Vector ℤ 2) (uptime : ℤ)
  | rpmGet
deriving DecidableEq

/-- The service, the positions, and the displacements sampled since the last estimate. -/
structure State where
  service : Service
  positions : Vector ℤ 2
  window : List (Vector ℤ 2)

namespace State

/-- The positions after a movement. -/
def moved (s : State) (displacements : Vector ℤ 2) : Vector ℤ 2 :=
  Vector.ofFn fun i => s.positions.get i + displacements.get i

/-- `GetEncoderCount`, cut to 16 bits. -/
def readings (s : State) (displacements : Vector ℤ 2) : Vector UInt16 2 :=
  Vector.ofFn fun i => reading (s.positions.get i + displacements.get i)

/-- The window after an iteration, before an estimate closes it. -/
def sampled (s : State) (displacements : Vector ℤ 2) : List (Vector ℤ 2) :=
  if s.service.firstTime then [] else s.window ++ [displacements]

def step (value : LowPassValue) (conf : SrvConf) (s : State) : Event → State × List EstimatedSpeed
  | .iteration displacements uptime =>
    let (service, estimates) := s.service.iterate value conf (s.readings displacements) uptime
    (⟨service, s.moved displacements,
      if s.service.Estimates conf then [] else s.sampled displacements⟩, estimates)
  | .rpmGet => ({ s with service.rpmQueue := s.service.rpmQueue.afterGet }, [])

end State

/-- The service from the start of its thread. -/
def machine (value : LowPassValue) (conf : SrvConf) (uptime : ℤ) (garbage : EstimatedSpeed)
    (positions : Vector ℤ 2) : Machine State Event EstimatedSpeed where
  initial := ⟨.initial uptime garbage, positions, []⟩
  step := State.step value conf

end Robofw.Model.Encoder
