import Robofw.Soundness.EncoderSamples

/-! # The low-pass filter of the encoder service

The design takes the raw rpm of the estimate itself and of the one before. The code shifts its history
only after it has filtered, so it takes the two raw rpms before the estimate. Its output is the designed
one exactly when truncation or the rejection of outliers hides the difference.
-/

namespace Robofw.Model.Encoder

open Robofw.Core

/-! ## The recurrence -/

/-- The truncated output for the last output and two raw rpms. -/
def filterCut (last recent older : ℤ) : ℤ :=
  let filtered : ℚ := filterA * last + filterB * recent + filterB * older
  filtered.num.tdiv filtered.den

/-- An outlier repeats the last output. -/
def accept (last value : ℤ) : ℤ := if value > 600 ∨ value < -600 then last else value

/-- What the filter keeps: the last output and the two last raw rpms. -/
structure FilterState where
  last : ℤ
  recent : ℤ
  older : ℤ
deriving DecidableEq

namespace FilterState

/-- All zero, before the first estimate. -/
def zero : FilterState := ⟨0, 0, 0⟩

def cut (s : FilterState) : ℤ := filterCut s.last s.recent s.older

/-- The output of an estimate, which does not depend on its own raw rpm. -/
def output (s : FilterState) : ℤ := accept s.last s.cut

/-- After an estimate with a raw rpm. -/
def feed (s : FilterState) (raw : ℤ) : FilterState := ⟨s.output, raw, s.recent⟩

/-- The outputs for a sequence of raw rpms. -/
def outputs : FilterState → List ℤ → List ℤ
  | _, [] => []
  | s, raw :: rest => s.output :: (s.feed raw).outputs rest

theorem outputs_append (s : FilterState) (first second : List ℤ) :
    s.outputs (first ++ second) = s.outputs first ++ (first.foldl feed s).outputs second := by
  induction first generalizing s with
  | nil => rfl
  | cons raw rest ih => exact congrArg (s.output :: ·) (ih (s.feed raw))

theorem outputs_concat (s : FilterState) (raws : List ℤ) (raw : ℤ) :
    s.outputs (raws ++ [raw]) = s.outputs raws ++ [(raws.foldl feed s).output] :=
  outputs_append s raws [raw]

@[simp] theorem length_outputs (s : FilterState) (raws : List ℤ) : (s.outputs raws).length = raws.length := by
  induction raws generalizing s with
  | nil => rfl
  | cons raw rest ih => exact congrArg (· + 1) (ih (s.feed raw))

end FilterState

/-- The sum of the filter in units of `10 ^ -8`. -/
def filterSum (last recent older : ℤ) : ℤ := 72848950 * last + 13575525 * (recent + older)

/-- The output is cut by an integer division. -/
theorem filterCut_eq (last recent older : ℤ) :
    filterCut last recent older = (filterSum last recent older).tdiv 100000000 := by
  have fraction : filterA * last + filterB * recent + filterB * older =
      (filterSum last recent older : ℚ) / (100000000 : ℕ) := by
    simp only [filterA, filterB, filterSum]
    push_cast
    ring
  simp only [filterCut, fraction]
  exact tdiv_fraction _ (by decide)

theorem accept_bounded {last : ℤ} (bounded : |last| ≤ 600) (value : ℤ) : |accept last value| ≤ 600 := by
  unfold accept
  split
  case isTrue outlier => exact bounded
  case isFalse plain =>
    rw [abs_le]
    omega

/-! ## The filter in the code -/

/-- What the code keeps of a channel for the filter. -/
def Channel.filterState (channel : Channel) : FilterState :=
  ⟨channel.lastFilteredRpm.toInt, (channel.rawRpmHistory.get 1).toInt, (channel.rawRpmHistory.get 0).toInt⟩

/-- The sum of raw rpms of 32 bits is cut to 32 bits. -/
theorem filterCut_fits {last : ℤ} (bounded : |last| ≤ 600) (recent older : Int32) :
    -2 ^ 31 ≤ filterCut last recent.toInt older.toInt ∧ filterCut last recent.toInt older.toInt < 2 ^ 31 := by
  have recentLow := recent.le_toInt
  have recentHigh := recent.toInt_lt
  have olderLow := older.le_toInt
  have olderHigh := older.toInt_lt
  rw [abs_le] at bounded
  rw [filterCut_eq, filterSum]
  rcases tdiv_cases (72848950 * last + 13575525 * (recent.toInt + older.toInt)) 100000000 with
    ⟨-, cut⟩ | ⟨-, cut⟩
  all_goals
    rw [cut]
    omega

/-- The code's filter is the recurrence, without overflow. -/
theorem toInt_lowPass {channel : Channel} (bounded : |channel.lastFilteredRpm.toInt| ≤ 600) :
    channel.lowPass.toInt = channel.filterState.output := by
  obtain ⟨low, high⟩ :=
    filterCut_fits bounded (channel.rawRpmHistory.get 1) (channel.rawRpmHistory.get 0)
  have held := Int32.toInt_ofInt_of_le low high
  have above : maxPossibleRpm.toInt = 600 := rfl
  have below : (-maxPossibleRpm).toInt = -600 := rfl
  have code : channel.lowPass = if Int32.ofInt channel.filterState.cut > maxPossibleRpm ∨
      Int32.ofInt channel.filterState.cut < -maxPossibleRpm then channel.lastFilteredRpm
    else Int32.ofInt channel.filterState.cut := rfl
  rw [code, FilterState.output, accept, apply_ite Int32.toInt]
  simp only [gt_iff_lt, Int32.lt_iff_toInt_lt, FilterState.cut, Channel.filterState, held, above, below]

/-- A filter with a raw rpm of 32 bits, after an estimate. -/
def Channel.feed (channel : Channel) (raw : Int32) : Channel :=
  { channel with
    lastFilteredRpm := channel.lowPass
    rawRpmHistory := Vector.ofFn fun i => if i = 0 then channel.rawRpmHistory.get 1 else raw }

/-- The low-pass outputs of a channel for a sequence of raw rpms. -/
def Channel.lowPassOutputs : Channel → List Int32 → List Int32
  | _, [] => []
  | channel, raw :: rest => channel.lowPass :: (channel.feed raw).lowPassOutputs rest

theorem filterState_feed {channel : Channel} (bounded : |channel.lastFilteredRpm.toInt| ≤ 600) (raw : Int32) :
    (channel.feed raw).filterState = channel.filterState.feed raw.toInt := by
  rw [FilterState.feed, ← toInt_lowPass bounded]
  rfl

theorem FilterState.output_bounded {s : FilterState} (bounded : |s.last| ≤ 600) : |s.output| ≤ 600 :=
  accept_bounded bounded _

theorem FilterState.foldl_bounded {s : FilterState} (bounded : |s.last| ≤ 600) (raws : List ℤ) :
    |(raws.foldl feed s).last| ≤ 600 := by
  induction raws generalizing s with
  | nil => exact bounded
  | cons raw rest ih => exact ih (s := s.feed raw) (output_bounded bounded)

/-- The outputs of the code are those of the recurrence. -/
theorem toInt_lowPassOutputs {channel : Channel} (bounded : |channel.lastFilteredRpm.toInt| ≤ 600)
    (raws : List Int32) : (channel.lowPassOutputs raws).map Int32.toInt =
      channel.filterState.outputs (raws.map Int32.toInt) := by
  induction raws generalizing channel with
  | nil => rfl
  | cons raw rest ih =>
    have next : |(channel.feed raw).lastFilteredRpm.toInt| ≤ 600 := by
      change |channel.lowPass.toInt| ≤ 600
      rw [toInt_lowPass bounded]
      exact FilterState.output_bounded bounded
    rw [Channel.lowPassOutputs, List.map_cons, List.map_cons, FilterState.outputs, toInt_lowPass bounded,
      ih next, filterState_feed bounded]

/-! ## The design -/

/-- The outputs that the design prescribes, from the last output and the last raw rpm. -/
def designOutputs (last older : ℤ) : List ℤ → List ℤ
  | [] => []
  | raw :: rest =>
    let output := accept last (filterCut last raw older)
    output :: designOutputs output raw rest

/-- The sum is cut to an outlier, or to the last output. -/
def Repeats (last sum : ℤ) : Prop :=
  sum.tdiv 100000000 > 600 ∨ sum.tdiv 100000000 < -600 ∨ sum.tdiv 100000000 = last

/-- The sums with the late and with the designed raw rpms are cut to one integer, or both repeat the last
output. -/
def Masked (s : FilterState) (raw : ℤ) : Prop :=
  (filterSum s.last s.recent s.older).tdiv 100000000 = (filterSum s.last raw s.recent).tdiv 100000000 ∨
    Repeats s.last (filterSum s.last s.recent s.older) ∧ Repeats s.last (filterSum s.last raw s.recent)

/-- Every estimate of a designed filter is masked. -/
def MaskedRun : FilterState → List ℤ → Prop
  | _, [] => True
  | s, raw :: rest =>
    Masked s raw ∧ MaskedRun ⟨accept s.last (filterCut s.last raw s.recent), raw, s.recent⟩ rest

theorem accept_eq_last_iff {last value : ℤ} :
    accept last value = last ↔ value > 600 ∨ value < -600 ∨ value = last := by
  unfold accept
  split
  case isTrue outlier => exact iff_of_true rfl (by omega)
  case isFalse plain => omega

theorem accept_eq_accept_iff {last used prescribed : ℤ} : accept last used = accept last prescribed ↔
    used = prescribed ∨ (used > 600 ∨ used < -600 ∨ used = last) ∧
      (prescribed > 600 ∨ prescribed < -600 ∨ prescribed = last) := by
  rw [← accept_eq_last_iff, ← accept_eq_last_iff]
  constructor
  · intro same
    by_cases plain : accept last used = last
    · exact Or.inr ⟨plain, same ▸ plain⟩
    · have other : accept last prescribed ≠ last := same ▸ plain
      unfold accept at same plain other
      split_ifs at same plain other with usedOut prescribedOut
      · exact absurd rfl plain
      · exact absurd rfl plain
      · exact absurd rfl other
      · exact Or.inl same
  · rintro (rfl | ⟨left, right⟩)
    · rfl
    · rw [left, right]

/-- An estimate has the designed output exactly when it is masked. -/
theorem output_eq_iff (s : FilterState) (raw : ℤ) :
    s.output = accept s.last (filterCut s.last raw s.recent) ↔ Masked s raw := by
  rw [FilterState.output, accept_eq_accept_iff, FilterState.cut, filterCut_eq, filterCut_eq]
  rfl

/-- A sequence has the designed outputs exactly when every estimate is masked. -/
theorem outputs_eq_iff (s : FilterState) (raws : List ℤ) :
    s.outputs raws = designOutputs s.last s.recent raws ↔ MaskedRun s raws := by
  induction raws generalizing s with
  | nil => exact iff_of_true rfl trivial
  | cons raw rest ih =>
    rw [FilterState.outputs, designOutputs, List.cons.injEq, output_eq_iff, MaskedRun]
    refine and_congr_right fun masked => ?_
    have same := (output_eq_iff s raw).mpr masked
    rw [FilterState.feed, same]
    exact ih ⟨_, raw, s.recent⟩

end Robofw.Model.Encoder
