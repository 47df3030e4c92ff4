import Threeboard.Leds.LedState
import Threeboard.Native.Native

namespace Threeboard.Leds

open Actions Mcu

-- Named instances, for the literals of the pulse timer, the columns and the rows.
scoped instance pulseTimerNeZero : @NeZero ℕ ⟨0⟩ 64 := ⟨by decide⟩
scoped instance columnNeZero : @NeZero ℕ ⟨0⟩ 4 := ⟨by decide⟩
scoped instance rowNeZero : @NeZero ℕ ⟨0⟩ 5 := ⟨by decide⟩

inductive Led where
  | r
  | g
  | b
  | prog
  | err
  | status
  deriving DecidableEq, Repr

namespace LedState

def get (led : LedState) : Led → FullState
  | .r => led.ledR
  | .g => led.ledG
  | .b => led.ledB
  | .prog => led.ledProg
  | .err => led.ledErr
  | .status => led.ledStatus

def put (which : Led) (full : FullState) (led : LedState) : LedState :=
  match which with
  | .r => { led with ledR := full }
  | .g => { led with ledG := full }
  | .b => { led with ledB := full }
  | .prog => { led with ledProg := full }
  | .err => { led with ledErr := full }
  | .status => { led with ledStatus := full }

end LedState

structure LedController (σ : Type) where
  state : LedState := {}
  nextScanLine : UInt8 := 0
  blinkStatus : UInt8 := 0
  hardware : σ

-- One tick of the counter in the low six bits; bit 7 is the phase of the blinking LEDs.
def nextBlinkStatus (blinkStatus : UInt8) : UInt8 :=
  let blinkStatus := blinkStatus + 1
  if blinkStatus &&& bit 6 ≠ 0 then (blinkStatus &&& ~~~bit 6) ^^^ bit 7 else blinkStatus

namespace LedController

variable {σ α : Type}

def onHardware (x : Action σ α) : Action (LedController σ) α :=
  Action.zoom hardware (fun hardware c => { c with hardware }) x

def putState (which : Led) (full : FullState) : Action (LedController σ) Unit :=
  Action.modify fun c => { c with state := c.state.put which full }

def shouldEnableBlinkingLed (c : LedController σ) : Bool := c.blinkStatus &&& bit 7 ≠ 0

def applyLedState (portModFn : UInt8 → Action σ Unit) (val : UInt8) (which : Led) :
    Action (LedController σ) Unit := do
  let state ← Action.gets fun c => c.state.get which
  let blinking ← Action.gets shouldEnableBlinkingLed
  if state.state = .on ∨ state.state = .blink ∧ blinking then onHardware (portModFn val)
  if state.state = .pulse then
    let pulseTimer := state.pulseTimer + 1
    if pulseTimer = 0 then putState which ⟨.off, pulseTimer⟩
    else do
      putState which ⟨state.state, pulseTimer⟩
      onHardware (portModFn val)

variable (native : Native σ)

def writeColumns (vals : UInt8) : Action σ Unit := do
  if vals &&& 8 ≠ 0 then native.disablePORTF (bit PF0)
  if vals &&& 4 ≠ 0 then native.disablePORTF (bit PF1)
  if vals &&& 2 ≠ 0 then native.disablePORTF (bit PF4)
  if vals &&& 1 ≠ 0 then native.disablePORTF (bit PF5)

def writeStatusAndErr (row : UInt8) : Action (LedController σ) Unit :=
  if row = 0 then applyLedState native.enablePORTB (bit PB6) .status
  else if row = 1 then do
    onHardware (native.disablePORTB (bit PB6))
    applyLedState native.enablePORTC (bit PC6) .err
  else if row = 2 then onHardware (native.disablePORTC (bit PC6))
  else pure ()

def clearPins : Action σ Unit := do
  native.disablePORTB 0b00110000
  native.disablePORTD 0b11010000
  native.enablePORTF 0b00110011

def writeRow (row : UInt8) : Action (LedController σ) Unit := do
  let state ← Action.gets state
  if row = 0 then onHardware do
    writeColumns native (state.bank0 >>> 4)
    native.enablePORTD (bit PD7)
  else if row = 1 then onHardware do
    writeColumns native state.bank0
    native.enablePORTB (bit PB4)
  else if row = 2 then onHardware do
    writeColumns native (state.bank1 >>> 4)
    native.enablePORTD (bit PD6)
  else if row = 3 then onHardware do
    writeColumns native state.bank1
    native.enablePORTD (bit PD4)
  else if row = 4 then do
    applyLedState native.disablePORTF (bit PF0) .r
    applyLedState native.disablePORTF (bit PF1) .g
    applyLedState native.disablePORTF (bit PF4) .b
    applyLedState native.disablePORTF (bit PF5) .prog
    onHardware (native.enablePORTB (bit PB5))
  else pure ()

def writeStateToPins (row : UInt8) : Action (LedController σ) Unit := do
  writeStatusAndErr native row
  onHardware (clearPins native)
  writeRow native row

def scanNextLine : Action (LedController σ) Unit := do
  let scanLine ← Action.gets nextScanLine
  Action.modify fun c => { c with nextScanLine := (c.nextScanLine + 1) % 5 }
  writeStateToPins native scanLine

def updateBlinkStatus : Action (LedController σ) Unit :=
  Action.modify fun c => { c with blinkStatus := nextBlinkStatus c.blinkStatus }

def updateLedState (f : LedState → LedState) : Action (LedController σ) Unit :=
  Action.modify fun c => { c with state := f c.state }

end LedController

end Threeboard.Leds
