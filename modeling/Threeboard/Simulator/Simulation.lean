import Threeboard.Events.EventLoop
import Threeboard.Simulator.KeyPins
import Threeboard.Simulator.LedRefresh

namespace Threeboard.Simulator

open Actions Events Keys Layers Leds

-- The firmware as simavr runs it, with the keys, the LEDs and the USB host of the simulator. The
-- host has taken the first `taken` of the keypresses sent to it.
structure Simulation (σ : Type) where
  threeboard : EventLoop σ
  nextScanLine : UInt8 := 0
  simavr : Simulated
  pinb : UInt8 := 0b1110
  taken : ℕ := 0

inductive Turn where
  | timer1
  | timer1During (led : LedState)
  | timer3
  | iterate
  | finish
  | wake
  | usbOutput
  deriving DecidableEq, Repr

namespace Simulation

variable {σ : Type} (s : Simulation σ)

def board : Board σ := s.threeboard.board

def setLedState (ledState : LedState) : Simulation σ :=
  { s with threeboard := { s.threeboard with board := { s.board with ledState } } }

def ledController : LedController Simulated :=
  ⟨s.board.ledState, s.nextScanLine, s.threeboard.blinkStatus, s.simavr⟩

-- But for the message that each timer logs at its first interrupt: Startup.handleTimer has both.
def handleTimer1Interrupt : Simulation σ :=
  let c := s.ledController.after Simulator.simavr .scanNextLine
  { s.setLedState c.state with nextScanLine := c.nextScanLine, simavr := c.hardware }

-- The timer comes in while HandleEvent has set some of the LEDs; of what it changes in them only
-- the pulse timers of ERR and STATUS are not overwritten.
def handleTimer1During (led : LedState) : Simulation σ :=
  let c := { s.ledController with state := led }.after Simulator.simavr .scanNextLine
  let ledState :=
    { s.board.ledState with ledErr := c.state.ledErr, ledStatus := c.state.ledStatus }
  { s.setLedState ledState with nextScanLine := c.nextScanLine, simavr := c.hardware }

def handleTimer3Interrupt : Simulation σ :=
  { s with threeboard := s.threeboard.handleTimer3Interrupt s.pinb }

def handleUsbOutput (modCode keyCode : UInt8) : Simulation σ :=
  let text := Integration.printable (Integration.fromUsbKeycodes keyCode modCode)
  { s with simavr.deviceState.usbBuffer := s.simavr.deviceState.usbBuffer ++ text }

def handleKeypress (keypress : Keypress) (state : Bool) : Simulation σ :=
  { s with pinb := Simulator.handleKeypress keypress state s.pinb }

def getDeviceState : DeviceState × Simulation σ :=
  (s.simavr.deviceState, { s with simavr.deviceState.usbBuffer := [] })

variable (d : Devices σ) (sent : σ → List (UInt8 × UInt8))

def takeOutput : Simulation σ :=
  match (sent s.board.world)[s.taken]? with
  | some (key, mod) => { s.handleUsbOutput mod key with taken := s.taken + 1 }
  | none => s

def turn : Turn → Simulation σ
  | .timer1 => s.handleTimer1Interrupt
  | .timer1During led =>
    match s.threeboard.phase with
    | .handling _ => s.handleTimer1During led
    | _ => s
  | .timer3 => s.handleTimer3Interrupt
  | .iterate =>
    match s.threeboard.phase with
    | .between => { s with threeboard := s.threeboard.beginIteration d }
    | _ => s
  | .finish =>
    match s.threeboard.phase with
    | .handling rest => { s with threeboard := s.threeboard.endIteration rest }
    | _ => s
  | .wake =>
    match s.threeboard.phase with
    | .sleeping => { s with threeboard := { s.threeboard with phase := .between } }
    | _ => s
  | .usbOutput => s.takeOutput sent

def run (turns : List Turn) : Simulation σ := turns.foldl (fun s => s.turn d sent) s

end Simulation

end Threeboard.Simulator
