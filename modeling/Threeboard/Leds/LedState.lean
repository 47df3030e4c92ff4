import Mathlib.Tactic.Common

namespace Threeboard.Leds

inductive State where
  | off
  | on
  | blink
  | pulse
  deriving DecidableEq, Repr

structure FullState where
  state : State
  pulseTimer : Fin 64
  deriving DecidableEq, Repr

def FullState.of (state : State) : FullState := ⟨state, 0⟩

structure LedState where
  bank0 : UInt8 := 0
  bank1 : UInt8 := 0
  ledR : FullState := .of .off
  ledG : FullState := .of .off
  ledB : FullState := .of .off
  ledProg : FullState := .of .off
  ledErr : FullState := .of .off
  ledStatus : FullState := .of .off
  deriving DecidableEq, Repr

namespace LedState

def setBank0 (val : UInt8) (led : LedState) : LedState := { led with bank0 := val }
def setBank1 (val : UInt8) (led : LedState) : LedState := { led with bank1 := val }
def setR (state : State) (led : LedState) : LedState := { led with ledR := .of state }
def setG (state : State) (led : LedState) : LedState := { led with ledG := .of state }
def setB (state : State) (led : LedState) : LedState := { led with ledB := .of state }
def setProg (state : State) (led : LedState) : LedState := { led with ledProg := .of state }
def setErr (state : State) (led : LedState) : LedState := { led with ledErr := .of state }
def setStatus (state : State) (led : LedState) : LedState := { led with ledStatus := .of state }

end LedState

end Threeboard.Leds
