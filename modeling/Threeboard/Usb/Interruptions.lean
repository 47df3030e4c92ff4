import Threeboard.Usb.SendKeypress
import Mathlib.Data.List.FinRange

namespace Threeboard.Usb

open Actions Actions.Action Mcu

-- Where an interrupt finds SendKeypress with the interrupts enabled: before it looks at the endpoint,
-- anywhere else while no report is being sent, between the two halves of a key, and in a report.
inductive Moment where
  | looking
  | waiting
  | holding
  | sending
  deriving DecidableEq, Repr

def HidState.bytes : List (HidState → UInt8) :=
  [HidState.modifierKeys, fun _ => 0] ++ (List.finRange 6).map fun i hid => hid.keyboardKeys i

theorem HidState.report_eq_bytes (hid : HidState) : hid.report = HidState.bytes.map (· hid) := by
  rw [HidState.report, List.ofFn_eq_map]
  rfl

namespace UsbControllerImpl

variable {σ : Type} (c : UsbControllerImpl σ) (interrupts : Moment → Action (Device σ) Unit)

def putByte (byte : HidState → UInt8) : Action (Device σ) Unit := do
  interrupts .sending
  let hid ← Action.gets Device.hidState
  c.set .UEDATX (byte hid)

def sendHidStateAmid : Action (Device σ) Unit := do
  interrupts .sending
  updateHid fun hid => { hid with idleCount := 0 }
  forM HidState.bytes (c.putByte interrupts)
  interrupts .sending
  c.set .UEINTX doneFlags

def checkFramesAmid (initialFrameNum intrState : UInt8) :
    Action (Device σ) (UInt8 ⊕ Option UInt8) := do
  interrupts .waiting
  c.set .SREG intrState
  interrupts .waiting
  let hid ← Action.gets Device.hidState
  if hid.configuration = 0 then pure (.inr none)
  else do
    let udfnuml ← c.get .UDFNUML
    interrupts .waiting
    if timedOut udfnuml initialFrameNum then pure (.inr none)
    else do
      let intrState ← c.get .SREG
      interrupts .waiting
      c.disableInterrupts
      pure (.inl intrState)

def pollEndpointAmid (initialFrameNum intrState : UInt8) :
    Action (Device σ) (UInt8 ⊕ Option UInt8) := do
  c.set .UENUM kKeyboardEndpoint
  c.enableInterrupts
  interrupts .looking
  let ueintx ← c.get .UEINTX
  if ueintx &&& bit RWAL ≠ 0 then pure (.inr (some intrState))
  else c.checkFramesAmid interrupts initialFrameNum intrState

def finishSendingAmid : Option UInt8 → Action (Device σ) Bool
  | none => pure false
  | some intrState => do
    c.sendHidStateAmid interrupts
    interrupts .waiting
    c.set .SREG intrState
    interrupts .waiting
    pure true

def sendStateAmid : Action (Device σ) Bool := do
  let intrState ← c.get .SREG
  interrupts .waiting
  c.disableInterrupts
  let initialFrameNum ← c.get .UDFNUML
  let ready ← Action.loop (c.pollEndpointAmid interrupts initialFrameNum) c.polls intrState
  c.finishSendingAmid interrupts ready

def holdAmid (key mod : UInt8) : Action (Device σ) Unit := do
  updateHid fun hid => { hid with modifierKeys := mod }
  interrupts .holding
  updateHid fun hid => { hid with keyboardKeys := (hold key mod hid).keyboardKeys }
  interrupts .waiting

def sendKeypressAmid (key mod : UInt8) : Action (Device σ) Bool := do
  holdAmid interrupts key mod
  if ← c.sendStateAmid interrupts then do
    holdAmid interrupts 0 0
    c.sendStateAmid interrupts
  else pure false

section Uninterrupted

variable (meanwhile : Action (Device σ) Unit)

def whenLooking : Moment → Action (Device σ) Unit
  | .looking => meanwhile
  | .waiting | .holding | .sending => pure ()

theorem fill_bytes (bytes : List (HidState → UInt8)) (u : Device σ) :
    forM bytes (c.putByte (whenLooking meanwhile)) u = c.fill (bytes.map (· u.hidState)) u := by
  induction bytes generalizing u with
  | nil => rfl
  | cons byte rest ih => exact ih { u with hardware := c.native.setRegister .UEDATX (byte u.hidState) u.hardware }

theorem sendHidStateAmid_eq :
    c.sendHidStateAmid (whenLooking meanwhile) = c.sendHidState := by
  funext u
  simp only [sendHidStateAmid, sendHidState, whenLooking, pure_bind, updateHid, modify_bind, gets_bind,
    HidState.report_eq_bytes]
  rw [bind_run, bind_run, fill_bytes]
  rfl

theorem sendStateAmid_eq :
    c.sendStateAmid (whenLooking meanwhile) = c.sendState meanwhile := by
  have hround (initialFrameNum intrState : UInt8) :
      c.pollEndpointAmid (whenLooking meanwhile) initialFrameNum intrState =
        c.pollEndpoint meanwhile initialFrameNum intrState := by
    simp only [pollEndpointAmid, pollEndpoint, checkFramesAmid, checkFrames, whenLooking, pure_bind]
  have hfinish (ready : Option UInt8) :
      c.finishSendingAmid (whenLooking meanwhile) ready = c.finishSending ready := by
    cases ready with
    | none => rfl
    | some intrState =>
      simp only [finishSendingAmid, finishSending, sendHidStateAmid_eq, whenLooking, pure_bind]
  have hrounds (initialFrameNum : UInt8) :
      c.pollEndpointAmid (whenLooking meanwhile) initialFrameNum =
        c.pollEndpoint meanwhile initialFrameNum := funext (hround initialFrameNum)
  simp only [sendStateAmid, sendState, hrounds, hfinish, whenLooking, pure_bind]

theorem sendKeypressAmid_eq (key mod : UInt8) :
    c.sendKeypressAmid (whenLooking meanwhile) key mod = c.sendKeypress meanwhile key mod := by
  have hhold (key mod : UInt8) :
      holdAmid (whenLooking meanwhile) key mod = updateHid (hold key mod) := by
    simp only [holdAmid, whenLooking, pure_bind]
    rfl
  simp only [sendKeypressAmid, sendKeypress, hhold, sendStateAmid_eq]

end Uninterrupted

end UsbControllerImpl

end Threeboard.Usb
