import Threeboard.Usb.UsbControllerImpl
import Mathlib.Data.Int.Notation
import Mathlib.Logic.Function.Basic

namespace Threeboard.Usb

open Actions Actions.Action Mcu

def kFrameTimeout : UInt8 := 50

-- Both bytes are promoted to int before the subtraction.
def timedOut (frameNum initialFrameNum : UInt8) : Bool :=
  (frameNum.toNat : ℤ) - initialFrameNum.toNat ≥ kFrameTimeout.toNat

def doneFlags : UInt8 := bit RWAL ||| bit NAKOUTI ||| bit RXSTPI ||| bit STALLEDI

namespace UsbControllerImpl

variable {σ : Type} (c : UsbControllerImpl σ)

def enableInterrupts : Action (Device σ) Unit := onHardware c.native.enableInterrupts
def disableInterrupts : Action (Device σ) Unit := onHardware c.native.disableInterrupts

def checkFrames (initialFrameNum intrState : UInt8) :
    Action (Device σ) (UInt8 ⊕ Option UInt8) := do
  c.set .SREG intrState
  let hid ← Action.gets Device.hidState
  if hid.configuration = 0 then pure (.inr none)
  else do
    let udfnuml ← c.get .UDFNUML
    if timedOut udfnuml initialFrameNum then pure (.inr none)
    else do
      let intrState ← c.get .SREG
      c.disableInterrupts
      pure (.inl intrState)

-- What the interrupt handlers do while a round of the loop has them enabled.
variable (meanwhile : Action (Device σ) Unit)

def pollEndpoint (initialFrameNum intrState : UInt8) :
    Action (Device σ) (UInt8 ⊕ Option UInt8) := do
  c.set .UENUM kKeyboardEndpoint
  c.enableInterrupts
  meanwhile
  let ueintx ← c.get .UEINTX
  if ueintx &&& bit RWAL ≠ 0 then pure (.inr (some intrState))
  else c.checkFrames initialFrameNum intrState

def finishSending : Option UInt8 → Action (Device σ) Bool
  | none => pure false
  | some intrState => do
    c.sendHidState
    c.set .SREG intrState
    pure true

def sendState : Action (Device σ) Bool := do
  let intrState ← c.get .SREG
  c.disableInterrupts
  let initialFrameNum ← c.get .UDFNUML
  let ready ← Action.loop (c.pollEndpoint meanwhile initialFrameNum) c.polls intrState
  c.finishSending ready

def hold (key mod : UInt8) (hid : HidState) : HidState :=
  { hid with modifierKeys := mod, keyboardKeys := Function.update hid.keyboardKeys 0 key }

def sendKeypress (key mod : UInt8) : Action (Device σ) Bool := do
  updateHid (hold key mod)
  if ← c.sendState meanwhile then do
    updateHid (hold 0 0)
    c.sendState meanwhile
  else pure false

end UsbControllerImpl

end Threeboard.Usb
