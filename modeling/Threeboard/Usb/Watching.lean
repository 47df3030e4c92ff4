import Threeboard.Usb.Sending

namespace Threeboard.Usb

open Actions Actions.Action Mcu UsbControllerImpl

namespace Script

def sent (s : Script) : List (UInt8 × UInt8) :=
  (s.log.filter fun a => a.writes ∧ a.register = .UEDATX).map fun a => (a.endpoint, a.value)

variable (r : Register) (value : UInt8) (s : Script)

@[simp] theorem reading_sent : (s.reading r).sent = s.sent := by
  simp [sent, reading, access]

@[simp] theorem writing_sent :
    (s.writing r value).sent = s.sent ++ if r = .UEDATX then [(s.uenum, value)] else [] := by
  by_cases hr : r = .UEDATX <;> simp [sent, writing, access, hr]

theorem filled_sent (bytes : List UInt8) :
    (s.filled bytes).sent = s.sent ++ bytes.map (s.uenum, ·) := by
  induction bytes generalizing s with
  | nil => simp [filled]
  | cons byte rest ih => simpa [filled] using ih (s.writing .UEDATX byte)

end Script

def eligible (s : Script) (hid : HidState) : Bool :=
  s.read .UDINT &&& bit SOFI ≠ 0 ∧ s.read .UDMFN &&& bit FNCERR = 0 ∧ hid.configuration ≠ 0 ∧
    s.read .UEINTX &&& bit RWAL ≠ 0

structure Frame where
  eligible : Bool
  hidState : HidState
  since : ℕ
  sent : List (UInt8 × UInt8)

def Event.isSetIdle : Event → Bool
  | .handled .setIdle _ => true
  | _ => false

structure Watched where
  script : Script
  since : ℕ := 0
  frames : List Frame := []

namespace Watched

def read (r : Register) (w : Watched) : UInt8 := w.script.read r

def reading (r : Register) (w : Watched) : Watched := { w with script := w.script.reading r }

def writing (r : Register) (value : UInt8) (w : Watched) : Watched := { w with
  script := w.script.writing r value
  since := if r = .UEINTX ∧ value = doneFlags then 0 else w.since }

def native : Native Watched where
  getRegister r w := (w.read r, w.reading r)
  setRegister := writing

def controller (descriptorList : List DescriptorContainer) (polls : ℕ) :
    UsbControllerImpl Watched := ⟨native, descriptorList, polls⟩

end Watched

def Device.onWatched (f : Watched → Watched) (u : Device Watched) : Device Watched :=
  { u with hardware := f u.hardware }

section Observing

variable (descriptorList : List DescriptorContainer) (polls : ℕ)

def Device.facing (script : Script) (u : Device Watched) : Device Watched :=
  u.onWatched fun w => { w with script }

def Device.counting (script : Script) (u : Device Watched) : Device Watched :=
  (u.facing script).onWatched fun w =>
    { w with since := if eligible script u.hidState then w.since + 1 else w.since }

def observeGeneral (script : Script) (u : Device Watched) : Device Watched :=
  let t := ((Watched.controller descriptorList polls).handleGeneralInterrupt (u.counting script)).2
  t.onWatched fun w => { w with
    frames := w.frames ++ [{
      eligible := eligible script u.hidState
      hidState := u.hidState
      since := (u.counting script).hardware.since
      sent := w.script.sent.drop script.sent.length }] }

def observeEndpoint (script : Script) (u : Device Watched) : Device Watched :=
  let t := ((Watched.controller descriptorList polls).handleEndpointInterrupt (u.facing script)).2
  t.onWatched fun w => { w with
    since := if (t.events.drop u.events.length).any Event.isSetIdle then 0 else w.since }

def observe (u : Device Watched) : Interrupt Script → Device Watched
  | .general script => observeGeneral descriptorList polls script u
  | .endpoint script => observeEndpoint descriptorList polls script u

-- What the firmware does: it handles an interrupt, or it sends a keypress. In a round of the polling
-- any interrupts may come, as the state of the hardware has it.
inductive Activity where
  | interrupt (i : Interrupt Script)
  | keypress (script : Script) (key mod : UInt8) (during : Script → List (Interrupt Script))

def handled (during : Script → List (Interrupt Script)) : Action (Device Watched) Unit :=
  Action.modify fun u => (during u.hardware.script).foldl (observe descriptorList polls) u

def perform (u : Device Watched) : Activity → Device Watched
  | .interrupt i => observe descriptorList polls u i
  | .keypress script key mod during =>
    ((Watched.controller descriptorList polls).sendKeypress (handled descriptorList polls during)
      key mod (u.facing script)).2

end Observing

end Threeboard.Usb
