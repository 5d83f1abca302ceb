import Robofw.Model.Encoder

/-! # The encoder thread against the clock

The loop of `EncoderServiceMainLoop` cut where it reads the clock or sleeps: `k_loop_start`, the body,
and the two calls of `k_msleep_until` in `service/interface/include/interface/service.h`. The clock
advances between any two of them by any time, so the thread may be delayed anywhere. A sleep ends at the
earliest when its time is over, and a negative time is none.
-/

namespace Robofw.Model.Encoder

open Robofw.Core

/-- What the thread does next. -/
inductive ThreadPc where
  | loopStart
  | body
  | sleepTime
  | sleep (ms : Int32)
  | sleeping (wakeAt : ℤ)
deriving DecidableEq

/-- The encoder service, the clock, and the local `t0`. -/
structure TimedState where
  encoder : State
  clock : ℤ
  t0 : ℤ
  pc : ThreadPc

/-- The clock advances, the thread takes its next step, or the speed service gets from the queue. -/
inductive TimedEvent where
  | advance (ms : ℕ)
  | thread (displacements : Vector ℤ 2)
  | rpmGet
deriving DecidableEq

namespace TimedState

/-- The thread's next step; the encoders have moved when the body reads them. -/
def threadStep (value : LowPassValue) (conf : SrvConf) (periodMs : UInt32) (s : TimedState)
    (displacements : Vector ℤ 2) : TimedState × List EstimatedSpeed :=
  match s.pc with
  | .loopStart => ({ s with t0 := s.clock, pc := .body }, [])
  | .body =>
    let (encoder, estimates) := s.encoder.step value conf (.iteration displacements s.clock)
    ({ s with encoder := encoder, pc := .sleepTime }, estimates)
  | .sleepTime =>
    -- `period - k_uptime_delta(&t0)` is 64 bits wide, the parameter of `k_msleep` 32.
    let left := (periodMs.toNat : ℤ) - (s.clock - s.t0)
    ({ s with t0 := s.clock, pc := .sleep (Int32.ofInt left) }, [])
  | .sleep ms => ({ s with pc := .sleeping (s.clock + max ms.toInt 0) }, [])
  | .sleeping wakeAt => (if wakeAt ≤ s.clock then { s with pc := .loopStart } else s, [])

def step (value : LowPassValue) (conf : SrvConf) (periodMs : UInt32) (s : TimedState) :
    TimedEvent → TimedState × List EstimatedSpeed
  | .advance ms => ({ s with clock := s.clock + ms }, [])
  | .thread displacements => s.threadStep value conf periodMs displacements
  | .rpmGet => ({ s with encoder := (s.encoder.step value conf .rpmGet).1 }, [])

end TimedState

/-- The thread from its start; `t0` is not read before `k_loop_start` sets it. -/
def timedMachine (value : LowPassValue) (conf : SrvConf) (periodMs : UInt32) (uptime : ℤ)
    (garbage : EstimatedSpeed) (positions : Vector ℤ 2) (t0 : ℤ) :
    Machine TimedState TimedEvent EstimatedSpeed where
  initial := ⟨(machine value conf uptime garbage positions).initial, uptime, t0, .loopStart⟩
  step := TimedState.step value conf periodMs

end Robofw.Model.Encoder
