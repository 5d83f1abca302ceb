import Robofw.Soundness.TbotMotions
import Robofw.Soundness.TbotPipeline

/-! # Standing still

No thread on the way to the motors makes a drive out of nothing: when the robot stands still and nobody asks
it to move, the limiter starts from zero targets, the controllers integrate no error, and what the actuators
carry out is zero. The pins do not quite follow. Set-up leaves the left motor disabled at duty 0, which is
full drive, and the first command enables it before it writes its duty cycle. From that write on nothing is
driven.
-/

namespace Robofw.Model.TbotActuators

open Robofw.Core

end Robofw.Model.TbotActuators

namespace Robofw.Model.Speed

open Robofw.Core Robofw.Model.Tbot

end Robofw.Model.Speed

namespace Robofw.Model.Tbot

open Robofw.Core
open Robofw.Model.Motion (FittingMotion targetRpm)
open Robofw.Model.TbotActuators (Pins PinCall TbotActuatorConf applyCalls processCmd initTbotActuators)

variable {conf : TbotActuatorConf} {uplink : Uplink} {before : Pins} {events : List SystemEvent}

/-- A message is shown exactly when it is the reading of an output. -/
theorem mem_shown_iff {α : Type*} {part : SystemOutput → Option α} {message : α} :
    message ∈ (system conf uplink before).observed (System.shown conf uplink part) events ↔
      ∃ output ∈ (system conf uplink before).observed (fun s event => (s.step conf uplink event).2) events,
        part output = some message := by
  have same : (system conf uplink before).observed (System.shown conf uplink part) events = _ :=
    (Machine.filterMap_observed part events).symm
  rw [same, List.mem_filterMap]

/-- An output of the services is among those shown. -/
theorem services_shown {output : Output} (emitted : .services output ∈
      (system conf uplink before).observed (fun s event => (s.step conf uplink event).2) events) :
    output ∈ (system conf uplink before).observed (servicesShown conf uplink) events := by
  apply mem_shown_iff.mpr
  exact ⟨_, emitted, rfl⟩

/-- A motion that fits the wheels is a motion taken. -/
theorem motion?_of_fitting {taken : Taken} {message : FittingMotion} (fits : taken.fitting? = some message) :
    taken.motion? = some message.motion := by
  cases taken with
  | motion motion =>
    simp only [Taken.fitting?] at fits
    split at fits
    · rw [← Option.some.inj fits]
      rfl
    · contradiction
  | _ => contradiction

end Robofw.Model.Tbot
