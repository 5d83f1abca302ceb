import Mathlib.Data.Int.Notation
import Mathlib.Data.Nat.Notation

/-! # UART interface

`ConfigureUart` and `SetupUartAsyncMode` of `module/mcal/src/uart_interface.c`. The driver's
`uart_configure` is an argument.
-/

namespace Robofw.Model

/-- `enum uart_config_parity` -/
inductive UartParity where
  | none
  | odd
  | even
  | mark
  | space
deriving DecidableEq, Repr

/-- `enum uart_config_stop_bits` -/
inductive UartStopBits where
  | half
  | one
  | oneAndHalf
  | two
deriving DecidableEq, Repr

/-- `enum uart_config_flow_control` -/
inductive UartFlowControl where
  | none
  | rtsCts
  | dtrDsr
deriving DecidableEq, Repr

/-- `struct uart_config`; `data_bits` counts the bits. -/
structure UartConfig where
  baudrate : UInt32
  parity : UartParity
  stopBits : UartStopBits
  dataBits : ℕ
  flowCtrl : UartFlowControl
deriving DecidableEq, Repr

/-- `GetUartSbusConfig` -/
def getUartSbusConfig : UartConfig where
  baudrate := 100000
  parity := .even
  stopBits := .two
  dataBits := 8
  flowCtrl := .none

/-- The members of a `UartDescriptor` that set-up reads. -/
structure UartDescriptor where
  active : Bool
deriving DecidableEq, Repr

/-- `k_sem_init`: a limit of zero, or an initial count above the limit, is `-EINVAL`. -/
def kSemInit (initialCount limit : ℕ) : ℤ := if limit = 0 ∨ initialCount > limit then -22 else 0

/-- `ConfigureUart` -/
def configureUart (dd : UartDescriptor) (uartConfigure : UartConfig → ℤ) (config : UartConfig) :
    Bool :=
  if !dd.active then false else uartConfigure config == 0

/-- `SetupUartAsyncMode`: past the semaphores, no result is looked at. -/
def setupUartAsyncMode (dd : UartDescriptor) : Bool :=
  if !dd.active then false
  else if kSemInit 0 1 ≠ 0 ∨ kSemInit 0 1 ≠ 0 then false
  else true

/-- A UART is configured when it is active and its driver takes the configuration. -/
theorem configureUart_iff {dd : UartDescriptor} {uartConfigure : UartConfig → ℤ}
    {config : UartConfig} : configureUart dd uartConfigure config = true ↔
      dd.active = true ∧ uartConfigure config = 0 := by
  unfold configureUart
  cases dd.active <;> simp

theorem setupUartAsyncMode_eq (dd : UartDescriptor) : setupUartAsyncMode dd = dd.active := by
  unfold setupUartAsyncMode
  cases dd.active <;> rfl

end Robofw.Model
