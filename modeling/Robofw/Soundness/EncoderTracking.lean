import Robofw.Core.Approach
import Robofw.Soundness.EncoderEstimates

/-! # Tracking a steady speed

While the raw rpm stays at `r`, each estimate moves the low-pass output by 0.2715105 of its distance to
`r` and then cuts it toward zero. So its distance, which is at most 1200, shrinks to 0.7284895 of itself,
rounded up, until the output is within 3 of `r`, where the cut can stop it, on the side of zero. It is no
outlier on the way, so the rejection of outliers does not freeze it.
-/

namespace Robofw.Model.Encoder

open Robofw.Core

/-- The next output while the raw rpm is steady. -/
def pull (r last : ℤ) : ℤ := accept last (filterCut last r r)

/-- What an estimate leaves of a distance to the steady raw rpm, at most. -/
def shrink (distance : ℕ) : ℕ := (72848950 * distance + 99999999) / 100000000

/-- The output moves toward the steady raw rpm and not past it. -/
theorem pull_eq {r last : ℤ} (limit : |r| ≤ 600) (bounded : |last| ≤ 600) :
    pull r last = (100000000 * last + 27151050 * (r - last)).tdiv 100000000 := by
  rw [abs_le] at limit bounded
  have sum : filterSum last r r = 100000000 * last + 27151050 * (r - last) := by
    rw [filterSum]
    ring
  rw [pull, filterCut_eq, sum, accept, if_neg]
  rcases tdiv_cases (100000000 * last + 27151050 * (r - last)) 100000000 with ⟨-, cut⟩ | ⟨-, cut⟩
  all_goals
    rw [cut]
    omega

/-- The distance to the steady raw rpm shrinks. -/
theorem pull_contracts {r : ℤ} (limit : |r| ≤ 600) :
    Contracts (pull r) (fun last => (last - r).natAbs) shrink (fun last => |last| ≤ 600) := by
  refine ⟨fun _ bounded => accept_bounded bounded _, fun first second less => ?_, fun last bounded => ?_⟩
  · unfold shrink
    omega
  · rw [pull_eq limit bounded, shrink]
    rcases tdiv_cases (100000000 * last + 27151050 * (r - last)) 100000000 with ⟨sign, cut⟩ | ⟨sign, cut⟩
    all_goals
      rw [cut]
      omega

/-- After 21 estimates the output is in the dead band. -/
theorem pull_iterate {r last : ℤ} (limit : |r| ≤ 600) (bounded : |last| ≤ 600) :
    |(pull r)^[21] last - r| ≤ 3 := by
  have contracts := pull_contracts limit
  have start : (last - r).natAbs ≤ 1200 := by
    rw [abs_le] at limit bounded
    omega
  have shrunk : shrink^[21] 1200 = 3 := by decide
  have inside := (contracts.iterate_le 21 bounded).trans (contracts.monotone.iterate 21 start)
  rw [shrunk] at inside
  rw [abs_le]
  omega

namespace FilterState

theorem foldl_steady (r last : ℤ) (count : ℕ) :
    (List.replicate count r).foldl feed ⟨last, r, r⟩ = ⟨(pull r)^[count] last, r, r⟩ := by
  induction count generalizing last with
  | zero => rfl
  | succ count ih =>
    rw [List.replicate_succ, List.foldl_cons, Function.iterate_succ_apply]
    exact ih (pull r last)

/-- The history is steady after two estimates, and the output has settled 21 estimates later. -/
theorem foldl_settled {r : ℤ} (limit : |r| ≤ 600) {s : FilterState} (bounded : |s.last| ≤ 600) :
    ∃ last, (List.replicate 23 r).foldl feed s = ⟨last, r, r⟩ ∧ |last| ≤ 600 ∧ |last - r| ≤ 3 := by
  have two : List.replicate 23 r = r :: r :: List.replicate 21 r := by
    rw [← List.replicate_succ, ← List.replicate_succ]
  have first : |((s.feed r).feed r).last| ≤ 600 := output_bounded (s := s.feed r) (output_bounded bounded)
  have steady : (List.replicate 21 r).foldl feed ((s.feed r).feed r) =
      ⟨(pull r)^[21] ((s.feed r).feed r).last, r, r⟩ := foldl_steady r _ 21
  have kept := foldl_bounded bounded (List.replicate 23 r)
  rw [two, List.foldl_cons, List.foldl_cons, steady] at kept ⊢
  exact ⟨_, rfl, kept, pull_iterate limit first⟩

/-- From a settled filter every output stays in the dead band. -/
theorem outputs_settled {r last : ℤ} (limit : |r| ≤ 600) (bounded : |last| ≤ 600) (near : |last - r| ≤ 3)
    (count : ℕ) : ∀ output ∈ outputs ⟨last, r, r⟩ (List.replicate count r), |output - r| ≤ 3 := by
  induction count generalizing last with
  | zero => exact fun output absent => absurd absent List.not_mem_nil
  | succ count ih =>
    have stays : |pull r last - r| ≤ 3 := by
      have closer := (pull_contracts limit).closer last bounded
      unfold shrink at closer
      rw [abs_le] at near ⊢
      omega
    rw [List.replicate_succ, outputs, List.forall_mem_cons]
    exact ⟨stays, ih (accept_bounded bounded _) stays⟩

/-- The last ten outputs after a long steady stretch are in the dead band. -/
theorem outputs_steady {r : ℤ} (limit : |r| ≤ 600) (past : List ℤ) :
    ∀ output ∈ (outputs .zero (past ++ List.replicate 33 r)).drop
      ((outputs .zero (past ++ List.replicate 33 r)).length - 10), |output - r| ≤ 3 := by
  have bounded := foldl_bounded (s := .zero) (by decide) past
  obtain ⟨last, settled, inside, near⟩ := foldl_settled limit bounded
  have split : List.replicate 33 r = List.replicate 23 r ++ List.replicate 10 r := by
    rw [List.replicate_append_replicate]
  have tail : outputs .zero (past ++ List.replicate 33 r) =
      outputs .zero (past ++ List.replicate 23 r) ++ outputs ⟨last, r, r⟩ (List.replicate 10 r) := by
    rw [split, ← List.append_assoc, outputs_append, List.foldl_append, settled]
  have ten : (outputs ⟨last, r, r⟩ (List.replicate 10 r)).length = 10 := by
    rw [length_outputs, List.length_replicate]
  rw [tail, List.length_append, ten, Nat.add_sub_cancel, List.drop_left]
  exact outputs_settled limit inside near 10

end FilterState

/-- The number of estimates after which a steady speed is published. -/
def settlingEstimates : ℕ := 33

/-- In every run over the rationals, whatever its filters have seen before, every published speed of a channel
whose raw rpm has been steady for the settling number of estimates is within 3 rpm of it. -/
theorem published_tracks {conf : SrvConf} (uptime : ℤ) (garbage : EstimatedSpeed)
    (positions : Vector ℤ 2) (events : List Event) (displacements : Vector ℤ 2) (now : ℤ) {i : Fin 2}
    (active : conf.Active i) {r : ℤ} (limit : |r| ≤ 600) (steady : List.replicate settlingEstimates r <:+
      rawRpms (runLog exactLowPass conf uptime garbage positions
        (events ++ [.iteration displacements now])) i) :
    ∀ speed ∈ ((machine exactLowPass conf uptime garbage positions).run events).published exactLowPass conf
      (.iteration displacements now), |(speed.filteredRpms.get i).toInt - r| ≤ 3 := by
  intro speed published
  obtain ⟨past, raws⟩ := steady
  have remembers := run_remembers exactLowPass uptime garbage positions active
    (events ++ [.iteration displacements now])
  have outputs := (run_recurs uptime garbage positions active
    (events ++ [.iteration displacements now])).outputs
  rw [← raws] at outputs
  have long : settlingEstimates ≤ (runLog exactLowPass conf uptime garbage positions
      (events ++ [.iteration displacements now])).length := by
    rw [← length_rawRpms _ i, ← raws, List.length_append, List.length_replicate]
    exact Nat.le_add_left ..
  rw [Machine.run_concat] at remembers
  have mean := published_mean active remembers (le_trans (by decide) long) published
  rw [mean.cut]
  apply mean_near
  · rw [outputs]
    exact FilterState.outputs_steady limit past
  · have ten := mean.ten
    rw [List.length_drop]
    omega

/-- Both encoders roll at 400 rpm for three estimates, and then at 100 rpm. -/
private def slowingDown : List Event := movesBy ([0, 88, 44, 44, 44, 44] ++ List.replicate 65 11)

/-- The 33rd estimate at 100 rpm is published within the band. -/
theorem published_tracks_slowingDown :
    ∃ speed ∈ ((machine exactLowPass twoEncoders 0 ⟨.replicate 2 0, .replicate 2 0⟩ (.replicate 2 0)).run
      slowingDown).published exactLowPass twoEncoders (.iteration (.replicate 2 11) 360),
      |(speed.filteredRpms.get 0).toInt - 100| ≤ 3 := by
  have seen : ⟨.replicate 2 100, .replicate 2 100⟩ ∈ ((machine exactLowPass twoEncoders 0
      ⟨.replicate 2 0, .replicate 2 0⟩ (.replicate 2 0)).run slowingDown).published exactLowPass twoEncoders
        (.iteration (.replicate 2 11) 360) := by decide +kernel
  exact ⟨_, seen, published_tracks 0 ⟨.replicate 2 0, .replicate 2 0⟩ (.replicate 2 0) slowingDown
    (.replicate 2 11) 360 (by decide) (by decide) ⟨.replicate 3 400, by decide +kernel⟩ _ seen⟩

end Robofw.Model.Encoder
