import Robofw.Core.RingBuffer
import Robofw.Soundness.EncoderFilter

/-! # The estimates of the encoder service

The channels after each estimate of a run are its log. What a channel keeps for its filters is what its
log determines: the ring of the average filter holds the last ten low-pass outputs of the log, whatever the
low-pass expression gives, and over the rationals these outputs are a recurrence on the raw rpms of the log.
From the 21st estimate on no initial zero is left in the ring, and that is when estimates are published.
-/

namespace Robofw.Model.Encoder

open Robofw.Core

/-! ## The log -/

/-- The channels after the estimate that a step makes. -/
def State.estimated (value : LowPassValue) (conf : SrvConf) (s : State) : Event → Option (Vector Channel 2)
  | .iteration displacements uptime =>
    if s.service.Estimates conf then
      some (s.step value conf (.iteration displacements uptime)).1.service.channels
    else none
  | .rpmGet => none

/-- The channels after each estimate of a run. -/
def estimateLog (value : LowPassValue) (conf : SrvConf) (steps : List (State × Event)) :
    List (Vector Channel 2) :=
  steps.filterMap fun step => step.1.estimated value conf step.2

/-- The raw rpms of a channel. -/
def rawRpms (log : List (Vector Channel 2)) (i : Fin 2) : List ℤ :=
  log.map fun channels => (channels.get i).rawRpm.toInt

/-- The accepted outputs of a channel's low-pass filter, before averaging. -/
def lowPasses (log : List (Vector Channel 2)) (i : Fin 2) : List ℤ :=
  log.map fun channels => (channels.get i).lastFilteredRpm.toInt

theorem estimateLog_concat (value : LowPassValue) (conf : SrvConf) (steps : List (State × Event)) (s : State)
    (event : Event) : estimateLog value conf (steps ++ [(s, event)]) =
      estimateLog value conf steps ++ (s.estimated value conf event).toList := by
  rw [estimateLog, estimateLog, List.filterMap_append]
  cases estimated : s.estimated value conf event <;> simp [estimated]

theorem rawRpms_concat (log : List (Vector Channel 2)) (channels : Vector Channel 2) (i : Fin 2) :
    rawRpms (log ++ [channels]) i = rawRpms log i ++ [(channels.get i).rawRpm.toInt] := by
  rw [rawRpms, List.map_append]
  rfl

theorem lowPasses_concat (log : List (Vector Channel 2)) (channels : Vector Channel 2) (i : Fin 2) :
    lowPasses (log ++ [channels]) i = lowPasses log i ++ [(channels.get i).lastFilteredRpm.toInt] := by
  rw [lowPasses, List.map_append]
  rfl

@[simp] theorem length_rawRpms (log : List (Vector Channel 2)) (i : Fin 2) :
    (rawRpms log i).length = log.length := List.length_map _

@[simp] theorem length_lowPasses (log : List (Vector Channel 2)) (i : Fin 2) :
    (lowPasses log i).length = log.length := List.length_map _

/-! ## What a channel keeps -/

/-- What the channel keeps for its filters has not changed. -/
structure SameFilters (before after : Channel) : Prop where
  last : after.lastFilteredRpm = before.lastFilteredRpm
  history : after.rawRpmHistory = before.rawRpmHistory
  indexer : after.indexer = before.indexer
  ring : after.estimatedRpmHistory = before.estimatedRpmHistory

theorem sameFilters_sample (channel : Channel) (encoderReading : UInt16) :
    SameFilters channel (channel.sample encoderReading) := by
  obtain ⟨up, previous, error, overflow, underflow, sampled⟩ := sample_frame channel encoderReading
  rw [sampled]
  exact ⟨rfl, rfl, rfl, rfl⟩

/-- A step leaves the filters of an active channel alone, or makes an estimate with the value of the low-pass
expression in the state after the sample. -/
theorem filters_step (value : LowPassValue) {conf : SrvConf} {i : Fin 2} (active : conf.Active i) (s : State)
    (event : Event) :
    (s.estimated value conf event = none ∧
      SameFilters (s.service.channels.get i) ((s.step value conf event).1.service.channels.get i)) ∨
    ∃ (sampled : Service) (counter : UInt32) (time : ℤ) (pulses : UInt32),
      SameFilters (s.service.channels.get i) (sampled.channels.get i) ∧
      s.estimated value conf event = some (s.step value conf event).1.service.channels ∧
      (s.step value conf event).1.service.channels.get i =
        ((sampled.channels.get i).estimate (value sampled i) counter time pulses).clearError := by
  cases event with
  | rpmGet => exact .inl ⟨rfl, rfl, rfl, rfl, rfl⟩
  | iteration displacements uptime =>
    have sampled : SameFilters (s.service.channels.get i) (s.sampledChannel conf displacements uptime i) := by
      rw [sampledChannel_eq displacements uptime active]
      exact sameFilters_sample _ _
    by_cases closes : s.service.Estimates conf
    · exact .inr ⟨_, _, _, _, sampled, if_pos closes,
        channel_closing value displacements uptime active closes⟩
    · refine .inl ⟨if_neg closes, ?_⟩
      cases later : s.service.firstTime with
      | true =>
        rw [step_first later]
        simp only [Service.firstIteration, SrvConf.get_forActive active]
        exact ⟨rfl, rfl, rfl, rfl⟩
      | false =>
        rw [channel_between value displacements uptime later closes]
        exact sampled

theorem removeOutlier_bounded {channel : Channel} (bounded : |channel.lastFilteredRpm.toInt| ≤ 600)
    (filteredRpm : Int32) : |(channel.removeOutlier filteredRpm).toInt| ≤ 600 := by
  have above : maxPossibleRpm.toInt = 600 := rfl
  have below : (-maxPossibleRpm).toInt = -600 := rfl
  unfold Channel.removeOutlier
  split
  case isTrue outlier => exact bounded
  case isFalse plain =>
    simp only [gt_iff_lt, Int32.lt_iff_toInt_lt, above, below, not_or, not_lt] at plain
    exact abs_le.mpr ⟨plain.2, plain.1⟩

/-- The ring of the channel holds the last low-pass outputs of the log, and none of them is an outlier. -/
structure Remembers (i : Fin 2) (log : List (Vector Channel 2)) (channel : Channel) : Prop where
  bounded : |channel.lastFilteredRpm.toInt| ≤ 600
  outputs : ∀ low ∈ lowPasses log i, |low| ≤ 600
  ring : Holds channel.estimatedRpmHistory channel.indexer 0
    (log.map fun channels => (channels.get i).lastFilteredRpm)

/-- The outputs of the log are those of the recurrence, and the channel keeps its state. -/
structure Recurs (i : Fin 2) (log : List (Vector Channel 2)) (channel : Channel) : Prop where
  filter : channel.filterState = (rawRpms log i).foldl FilterState.feed .zero
  outputs : lowPasses log i = FilterState.zero.outputs (rawRpms log i)

section

variable {i : Fin 2} {log : List (Vector Channel 2)} {channel next : Channel}

theorem Remembers.kept (remembers : Remembers i log channel) (same : SameFilters channel next) :
    Remembers i log next := by
  obtain ⟨bounded, outputs, ring⟩ := remembers
  obtain ⟨last, history, indexer, slots⟩ := same
  exact ⟨last ▸ bounded, outputs, slots ▸ indexer ▸ ring⟩

/-- An estimate enters the log, with any value of the low-pass expression. -/
theorem Remembers.estimate (remembers : Remembers i log channel) {lowPassValue : Int32} {counter : UInt32}
    {time : ℤ} {pulses : UInt32} {channels : Vector Channel 2}
    (entry : channels.get i = (channel.estimate lowPassValue counter time pulses).clearError) :
    Remembers i (log ++ [channels]) (channels.get i) := by
  have output : (channels.get i).lastFilteredRpm = channel.removeOutlier lowPassValue := by
    rw [entry]
    rfl
  have accepted := removeOutlier_bounded remembers.bounded lowPassValue
  rw [← output] at accepted
  refine ⟨accepted, ?_, ?_⟩
  · intro low mem
    rw [lowPasses_concat, List.mem_append, List.mem_singleton] at mem
    rcases mem with earlier | rfl
    · exact remembers.outputs low earlier
    · exact accepted
  · have pushed := remembers.ring.push (channel.removeOutlier lowPassValue)
    rw [List.map_append, List.map_singleton, output, entry]
    exact pushed

/-- A step of the service appends its estimate, if it makes one, to the log. -/
theorem Remembers.step (value : LowPassValue) {conf : SrvConf} (active : conf.Active i) {s : State}
    (remembers : Remembers i log (s.service.channels.get i)) (event : Event) :
    Remembers i (log ++ (s.estimated value conf event).toList)
      ((s.step value conf event).1.service.channels.get i) := by
  rcases filters_step value active s event with ⟨none, same⟩ | ⟨sampled, _, _, _, same, made, entry⟩
  · rw [none, Option.toList_none, List.append_nil]
    exact remembers.kept same
  · rw [made, Option.toList_some]
    exact (remembers.kept same).estimate entry

theorem Recurs.kept (recurs : Recurs i log channel) (same : SameFilters channel next) :
    Recurs i log next := by
  refine ⟨?_, recurs.outputs⟩
  rw [← recurs.filter, Channel.filterState, same.last, same.history]
  rfl

/-- The last output keeps to the limit. -/
theorem Recurs.bounded (recurs : Recurs i log channel) : |channel.lastFilteredRpm.toInt| ≤ 600 := by
  have last := FilterState.foldl_bounded (s := .zero) (by decide) (rawRpms log i)
  rw [← recurs.filter] at last
  exact last

/-- An estimate over the rationals is a step of the recurrence. -/
theorem Recurs.estimate (recurs : Recurs i log channel) {counter : UInt32} {time : ℤ} {pulses : UInt32}
    {channels : Vector Channel 2}
    (entry : channels.get i = (channel.estimate channel.lowPassValue counter time pulses).clearError) :
    Recurs i (log ++ [channels]) (channels.get i) := by
  have output : (channels.get i).lastFilteredRpm = channel.lowPass := by
    rw [entry]
    rfl
  have low : (channels.get i).lastFilteredRpm.toInt = channel.filterState.output := by
    rw [output, toInt_lowPass recurs.bounded]
  refine ⟨?_, ?_⟩
  · rw [rawRpms_concat, List.foldl_append, ← recurs.filter, List.foldl_cons, List.foldl_nil,
      FilterState.feed, ← low]
    simp only [entry]
    rfl
  · rw [rawRpms_concat, lowPasses_concat, FilterState.outputs_concat, ← recurs.filter, ← recurs.outputs,
      low]

theorem Recurs.step {conf : SrvConf} (active : conf.Active i) {s : State}
    (recurs : Recurs i log (s.service.channels.get i)) (event : Event) :
    Recurs i (log ++ (s.estimated exactLowPass conf event).toList)
      ((s.step exactLowPass conf event).1.service.channels.get i) := by
  rcases filters_step exactLowPass active s event with
    ⟨none, same⟩ | ⟨sampled, _, _, _, same, made, entry⟩
  · rw [none, Option.toList_none, List.append_nil]
    exact recurs.kept same
  · rw [made, Option.toList_some]
    exact (recurs.kept same).estimate entry

end

/-- The log of a run of the service. -/
def runLog (value : LowPassValue) (conf : SrvConf) (uptime : ℤ) (garbage : EstimatedSpeed)
    (positions : Vector ℤ 2) (events : List Event) : List (Vector Channel 2) :=
  estimateLog value conf ((machine value conf uptime garbage positions).steps events)

section

variable (value : LowPassValue) (conf : SrvConf) (uptime : ℤ) (garbage : EstimatedSpeed)
  (positions : Vector ℤ 2)

theorem initial_remembers (i : Fin 2) :
    Remembers i [] ((machine value conf uptime garbage positions).initial.service.channels.get i) := by
  simp only [machine, Service.initial, Vector.get_ofFn]
  exact ⟨abs_zero.trans_le (by decide), fun low absent => absurd absent List.not_mem_nil, holds_replicate 0⟩

theorem initial_recurs (i : Fin 2) :
    Recurs i [] ((machine value conf uptime garbage positions).initial.service.channels.get i) := by
  simp only [machine, Service.initial, Vector.get_ofFn]
  exact ⟨rfl, rfl⟩

variable {conf}

/-- In every run an active channel remembers its log. -/
theorem run_remembers {i : Fin 2} (active : conf.Active i) (events : List Event) :
    Remembers i (runLog value conf uptime garbage positions events)
      (((machine value conf uptime garbage positions).run events).service.channels.get i) := by
  apply Machine.run_history (m := machine value conf uptime garbage positions)
    (fun past s => Remembers i (estimateLog value conf past) (s.service.channels.get i))
  · exact initial_remembers value conf uptime garbage positions i
  · intro past s event remembers
    rw [estimateLog_concat]
    exact remembers.step value active event

/-- In every run over the rationals the low-pass outputs of an active channel are the recurrence. -/
theorem run_recurs {i : Fin 2} (active : conf.Active i) (events : List Event) :
    Recurs i (runLog exactLowPass conf uptime garbage positions events)
      (((machine exactLowPass conf uptime garbage positions).run events).service.channels.get i) := by
  apply Machine.run_history (m := machine exactLowPass conf uptime garbage positions)
    (fun past s => Recurs i (estimateLog exactLowPass conf past) (s.service.channels.get i))
  · exact initial_recurs exactLowPass conf uptime garbage positions i
  · intro past s event recurs
    rw [estimateLog_concat]
    exact recurs.step active event

end

/-! ## The low-pass filter against its design -/

/-- From program start, for every sequence of raw rpms, and so in every run, the low-pass outputs of a channel
are the designed ones exactly when every estimate is masked. -/
theorem lowPass_design_iff (conf : SrvConf) (uptime : ℤ) (garbage : EstimatedSpeed) (positions : Vector ℤ 2)
    (i : Fin 2) :
    (∀ raws : List Int32,
      (((machine exactLowPass conf uptime garbage positions).initial.service.channels.get i).lowPassOutputs
          raws).map Int32.toInt = designOutputs 0 0 (raws.map Int32.toInt) ↔
        MaskedRun .zero (raws.map Int32.toInt)) ∧
    ∀ events : List Event, conf.Active i →
      (lowPasses (runLog exactLowPass conf uptime garbage positions events) i =
          designOutputs 0 0 (rawRpms (runLog exactLowPass conf uptime garbage positions events) i) ↔
        MaskedRun .zero (rawRpms (runLog exactLowPass conf uptime garbage positions events) i)) := by
  constructor
  · intro raws
    have start := initial_recurs exactLowPass conf uptime garbage positions i
    have zero := start.filter
    rw [toInt_lowPassOutputs start.bounded, zero]
    exact outputs_eq_iff .zero _
  · intro events active
    rw [(run_recurs uptime garbage positions active events).outputs]
    exact outputs_eq_iff .zero _

/-- The log of the two encoders at position 0. -/
private abbrev logAtZero (events : List Event) : List (Vector Channel 2) :=
  runLog exactLowPass twoEncoders 0 ⟨.replicate 2 0, .replicate 2 0⟩ (.replicate 2 0) events

/-- A first estimate of 100 rpm has no part in its own output, which the design makes 13. -/
theorem firstEstimate_not_designed : lowPasses (logAtZero (movesBy [0, 22])) 1 ≠
    designOutputs 0 0 (rawRpms (logAtZero (movesBy [0, 22])) 1) := by
  decide +kernel

/-! ## Published means -/

/-- The estimate that a step puts into the queue. -/
def State.published (value : LowPassValue) (conf : SrvConf) (s : State) : Event → Option EstimatedSpeed
  | .iteration displacements uptime =>
    if s.service.Estimates conf ∧ s.service.estimatorCounter + 1 > minEstimateNumBeforeValid then
      some (s.step value conf (.iteration displacements uptime)).1.service.speedEstimate
    else none
  | .rpmGet => none

theorem SrvConf.map_forActive {α β : Type} (conf : SrvConf) (channels : Vector α 2)
    {update : Fin 2 → α → α} {read : α → β} (kept : ∀ i channel, read (update i channel) = read channel) :
    (conf.forActive channels update).map read = channels.map read := by
  apply Vector.ext
  intro i inside
  rw [SrvConf.forActive, Vector.getElem_map, Vector.getElem_map, Vector.getElem_ofFn]
  split
  case isTrue active => exact kept _ _
  case isFalse idle => rfl

theorem speedEstimate_makeEstimate (value : LowPassValue) (conf : SrvConf) (s : Service) :
    (s.makeEstimate value conf).speedEstimate =
      ({ s with channels := s.estimateChannels value conf } : Service).speedEstimate := by
  simp only [Service.speedEstimate, Service.makeEstimate]
  exact congrArg₂ EstimatedSpeed.mk (conf.map_forActive _ fun _ _ => rfl)
    (conf.map_forActive _ fun _ _ => rfl)

/-- What an iteration does to the queue: it puts its estimate, if it publishes one. -/
theorem rpmQueue_iteration (value : LowPassValue) (conf : SrvConf) (s : State)
    (displacements : Vector ℤ 2) (uptime : ℤ) :
    (s.step value conf (.iteration displacements uptime)).1.service.rpmQueue =
      (s.published value conf (.iteration displacements uptime)).elim s.service.rpmQueue
        s.service.rpmQueue.putOrPurge := by
  by_cases closes : s.service.Estimates conf
  · simp only [State.published, closes, true_and]
    rw [step_closing closes]
    simp only [speedEstimate_makeEstimate]
    by_cases valid : s.service.estimatorCounter + 1 > minEstimateNumBeforeValid
    · rw [if_pos valid]
      exact if_pos valid
    · rw [if_neg valid]
      exact if_neg valid
  · simp only [State.published, closes, false_and, if_false, Option.elim_none]
    cases later : s.service.firstTime with
    | true =>
      rw [step_first later]
      rfl
    | false =>
      rw [step_between later closes]
      rfl

/-- Another estimate counts up to 20. -/
theorem estimatorCounter_step (value : LowPassValue) {conf : SrvConf} {s : State} {count : ℕ}
    (counts : s.service.estimatorCounter.toNat = min count 20) (event : Event) :
    (s.step value conf event).1.service.estimatorCounter.toNat =
      min (count + (s.estimated value conf event).toList.length) 20 := by
  cases event with
  | rpmGet => exact counts
  | iteration displacements uptime =>
    by_cases closes : s.service.Estimates conf
    · have next : (s.step value conf (.iteration displacements uptime)).1.service.estimatorCounter =
          if s.service.estimatorCounter + 1 > minEstimateNumBeforeValid then minEstimateNumBeforeValid
          else s.service.estimatorCounter + 1 := by
        rw [step_closing closes]
        rfl
      have last : minEstimateNumBeforeValid.toNat = 20 := rfl
      rw [next, State.estimated, if_pos closes, Option.toList_some, List.length_singleton,
        apply_ite UInt32.toNat]
      simp only [gt_iff_lt, UInt32.lt_iff_toNat_lt, UInt32.toNat_add, counts, last, UInt32.reduceToNat]
      split <;> omega
    · rw [State.estimated, if_neg closes, Option.toList_none, List.length_nil]
      cases later : s.service.firstTime with
      | true =>
        rw [step_first later]
        exact counts
      | false =>
        rw [step_between later closes]
        exact counts

/-- The counter counts the estimates of a run up to 20. -/
theorem run_estimatorCounter (value : LowPassValue) (conf : SrvConf) (uptime : ℤ)
    (garbage : EstimatedSpeed) (positions : Vector ℤ 2) (events : List Event) :
    ((machine value conf uptime garbage positions).run events).service.estimatorCounter.toNat =
      min (runLog value conf uptime garbage positions events).length 20 := by
  apply Machine.run_history (m := machine value conf uptime garbage positions)
    (fun past s => s.service.estimatorCounter.toNat = min (estimateLog value conf past).length 20)
  · rfl
  · intro past s event counts
    rw [estimateLog_concat, List.length_append]
    exact estimatorCounter_step value counts event

/-- The truncated mean of ten values near a centre is as near to it. -/
theorem mean_near {values : List ℤ} {centre radius : ℤ}
    (near : ∀ value ∈ values, |value - centre| ≤ radius) (ten : values.length = 10) :
    |values.sum.tdiv 10 - centre| ≤ radius := by
  have high : ∀ value ∈ values, value ≤ centre + radius := by
    intro value mem
    have bound := abs_le.mp (near value mem)
    linarith
  have low : ∀ value ∈ values, centre - radius ≤ value := by
    intro value mem
    have bound := abs_le.mp (near value mem)
    linarith
  have above := List.sum_le_card_nsmul values _ high
  have below := List.card_nsmul_le_sum values _ low
  rw [ten, nsmul_eq_mul] at above below
  push_cast at above below
  rw [abs_le]
  rcases tdiv_cases values.sum 10 with ⟨sign, cut⟩ | ⟨sign, cut⟩
  all_goals
    rw [cut]
    omega

/-- The truncated mean of the last ten outputs, of which there are ten. -/
structure MeanOfTen (outputs : List ℤ) (mean : ℤ) : Prop where
  ten : 10 ≤ outputs.length
  cut : mean = (outputs.drop (outputs.length - 10)).sum.tdiv 10
  bounded : |mean| ≤ 600

section

variable {conf : SrvConf} {s : State} {i : Fin 2} {log : List (Vector Channel 2)}

theorem runLog_concat (value : LowPassValue) (conf : SrvConf) (uptime : ℤ) (garbage : EstimatedSpeed)
    (positions : Vector ℤ 2) (events : List Event) (event : Event) :
    runLog value conf uptime garbage positions (events ++ [event]) =
      runLog value conf uptime garbage positions events ++
        (((machine value conf uptime garbage positions).run events).estimated value conf event).toList := by
  rw [runLog, Machine.steps_concat, estimateLog_concat]
  rfl

/-- A ring that has been filled averages the last ten outputs. -/
theorem Remembers.mean {channel : Channel} (remembers : Remembers i log channel) (filled : 10 ≤ log.length) :
    MeanOfTen (lowPasses log i)
      (Int32.ofInt ((channel.estimatedRpmHistory.toList.map Int32.toInt).sum.tdiv 10)).toInt := by
  have sum := remembers.ring.sum_map (by simpa using filled) Int32.toInt
  rw [List.map_drop, List.length_map, List.map_map] at sum
  have lows : log.map (Int32.toInt ∘ fun channels => (channels.get i).lastFilteredRpm) =
      lowPasses log i := rfl
  rw [lows] at sum
  have bounded : ∀ low ∈ (lowPasses log i).drop (log.length - 10), |low - 0| ≤ 600 := by
    intro low mem
    rw [sub_zero]
    exact remembers.outputs low (List.mem_of_mem_drop mem)
  have ten : ((lowPasses log i).drop (log.length - 10)).length = 10 := by
    rw [List.length_drop, length_lowPasses]
    omega
  have short := mean_near bounded ten
  rw [sub_zero, ← sum] at short
  have range := abs_le.mp short
  rw [Int32.toInt_ofInt_of_le (by omega) (by omega)]
  refine ⟨by simpa using filled, ?_, short⟩
  rw [sum, length_lowPasses]

/-- From the tenth estimate on, an estimate is the mean of the ring. -/
theorem filteredRpm_closing (value : LowPassValue) (active : conf.Active i) (closes : s.service.Estimates conf)
    (averages : s.service.estimatorCounter ≥ averageFilterLen) (displacements : Vector ℤ 2) (uptime : ℤ) :
    let channel := (s.step value conf (.iteration displacements uptime)).1.service.channels.get i
    channel.filteredRpm =
      Int32.ofInt ((channel.estimatedRpmHistory.toList.map Int32.toInt).sum.tdiv 10) := by
  have entry := channel_closing value displacements uptime active closes
  simp only [entry]
  exact if_pos averages

end

/-- The estimates from the 21st on are published. -/
theorem published_isSome_iff (value : LowPassValue) (conf : SrvConf) {s : State} {count : ℕ}
    (counts : s.service.estimatorCounter.toNat = min count 20) (event : Event) :
    (s.published value conf event).isSome ↔
      (s.estimated value conf event).isSome ∧
        21 ≤ count + (s.estimated value conf event).toList.length := by
  have last : minEstimateNumBeforeValid.toNat = 20 := rfl
  have valid : s.service.estimatorCounter + 1 > minEstimateNumBeforeValid ↔ 21 ≤ count + 1 := by
    rw [gt_iff_lt, UInt32.lt_iff_toNat_lt, UInt32.toNat_add, counts, last, UInt32.toNat_one]
    omega
  cases event with
  | rpmGet => exact iff_of_false Bool.false_ne_true fun made => Bool.false_ne_true made.1
  | iteration displacements uptime =>
    by_cases closes : s.service.Estimates conf
    · rw [State.published, State.estimated, if_pos closes, Option.toList_some, List.length_singleton,
        ← valid]
      split
      case isTrue both => exact iff_of_true rfl ⟨rfl, both.2⟩
      case isFalse silent => exact iff_of_false Bool.false_ne_true fun made => silent ⟨closes, made.2⟩
    · rw [State.published, State.estimated, if_neg closes, if_neg fun both => closes both.1]
      exact iff_of_false Bool.false_ne_true fun made => Bool.false_ne_true made.1

/-- A published estimate of a channel that remembers its log is a mean of ten outputs. -/
theorem published_mean {value : LowPassValue} {conf : SrvConf} {s : State} {i : Fin 2}
    {log : List (Vector Channel 2)} (active : conf.Active i) {displacements : Vector ℤ 2} {now : ℤ}
    (remembers : Remembers i log ((s.step value conf (.iteration displacements now)).1.service.channels.get i))
    (filled : 10 ≤ log.length) {speed : EstimatedSpeed}
    (published : speed ∈ s.published value conf (.iteration displacements now)) :
    MeanOfTen (lowPasses log i) (speed.filteredRpms.get i).toInt := by
  rw [State.published] at published
  split at published
  case isTrue valid =>
    have averages : s.service.estimatorCounter ≥ averageFilterLen := by
      have above := UInt32.lt_iff_toNat_lt.mp valid.2
      have last : minEstimateNumBeforeValid.toNat = 20 := rfl
      have first : averageFilterLen.toNat = 10 := rfl
      rw [UInt32.toNat_add, UInt32.toNat_one] at above
      rw [ge_iff_le, UInt32.le_iff_toNat_le]
      omega
    obtain rfl := Option.mem_some_iff.mp published
    rw [Service.speedEstimate, Vector.get_map, filteredRpm_closing value active valid.1 averages]
    exact remembers.mean filled
  case isFalse silent => exact absurd published (Option.not_mem_none _)

/-- Whatever the low-pass expression gives, every estimate that is published is, for each active channel, the
mean of the last ten accepted outputs of its low-pass filter; the estimates from the 21st on are published, and
no others. -/
theorem published_means (value : LowPassValue) (conf : SrvConf) (uptime : ℤ) (garbage : EstimatedSpeed)
    (positions : Vector ℤ 2) (events : List Event) (displacements : Vector ℤ 2) (now : ℤ) :
    let s := (machine value conf uptime garbage positions).run events
    let event := Event.iteration displacements now
    let log := runLog value conf uptime garbage positions (events ++ [event])
    (s.step value conf event).1.service.rpmQueue =
        (s.published value conf event).elim s.service.rpmQueue s.service.rpmQueue.putOrPurge ∧
      ((s.published value conf event).isSome ↔ (s.estimated value conf event).isSome ∧ 21 ≤ log.length) ∧
      ∀ speed ∈ s.published value conf event, ∀ i, conf.Active i →
        MeanOfTen (lowPasses log i) (speed.filteredRpms.get i).toInt := by
  intro s event log
  have counter := run_estimatorCounter value conf uptime garbage positions events
  have grown : log.length = (runLog value conf uptime garbage positions events).length +
      (s.estimated value conf event).toList.length := by
    rw [← List.length_append]
    exact congrArg List.length (runLog_concat value conf uptime garbage positions events event)
  have valid := published_isSome_iff value conf counter event
  rw [← grown] at valid
  refine ⟨rpmQueue_iteration value conf s displacements now, valid, fun speed published i active => ?_⟩
  have remembers := run_remembers value uptime garbage positions active (events ++ [event])
  rw [Machine.run_concat] at remembers
  have some : (s.published value conf event).isSome := Option.isSome_iff_exists.mpr ⟨speed, published⟩
  have filled : 10 ≤ log.length := le_trans (by decide) (valid.mp some).2
  exact published_mean active remembers filled published

end Robofw.Model.Encoder
