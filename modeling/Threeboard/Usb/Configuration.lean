import Threeboard.Usb.ClassRequests
import Threeboard.Library.Runs

namespace Threeboard.Usb

open Mcu Runs

def Event.select : Option UInt8 → Event → Option UInt8
  | _, .reset => none
  | _, .handled .setConfiguration packet => some packet.wValue.toUInt8
  | selected, _ => selected

-- A bus reset disables every endpoint but the first.
def Event.enable : Bool → Event → Bool
  | _, .reset => false
  | _, .endpointEnabled => true
  | enabled, _ => enabled

namespace Session

variable (s : Session)

def selected : Option UInt8 := s.events.foldl Event.select none

def enabled : Bool := s.events.foldl Event.enable false

def Sound : Prop :=
  s.configuration ≠ 0 → s.selected = some kConfigurationValue ∧ s.enabled = true

instance : Decidable s.Sound := inferInstanceAs (Decidable (_ → _))

variable {s}

theorem sound_reset_iff : s.reset.Sound ↔ s.configuration = 0 := by
  simp [Sound, reset, selected, Event.select]

theorem sound_called_setConfiguration_iff {packet : SetupPacket} :
    (s.called packet .setConfiguration).Sound ↔
      packet.wValue.toUInt8 = 0 ∨ packet.wValue.toUInt8 = kConfigurationValue := by
  by_cases h : packet.wValue.toUInt8 = kConfigurationValue
  · simp [Sound, called, selected, enabled, Event.select, Event.enable, h]
  · simp [Sound, called, selected, Event.select, h]

theorem sound_called {packet : SetupPacket} {h : Handler} (hne : h ≠ .setConfiguration)
    (hs : s.Sound) : (s.called packet h).Sound := by
  cases h with
  | setConfiguration => exact absurd rfl hne
  | _ => simpa [Sound, called, selected, enabled, Event.select, Event.enable] using hs

theorem sound_answered_iff {packet : SetupPacket} (hs : s.Sound) :
    (s.answered packet).Sound ↔ (packet.accepted .setConfiguration →
      packet.wValue.toUInt8 = 0 ∨ packet.wValue.toUInt8 = kConfigurationValue) := by
  by_cases hset : packet.accepted .setConfiguration
  · rw [answered_of_accepted s hset, sound_called_setConfiguration_iff]
    exact ⟨fun h _ => h, fun h => h hset⟩
  · refine ⟨fun _ h => absurd h hset, fun _ => ?_⟩
    rcases answered_cases s packet with heq | ⟨h, ha, heq⟩
    · rw [heq]
      exact hs
    · rw [heq]
      refine sound_called ?_ hs
      rintro rfl
      exact hset ha

end Session

namespace UsbControllerImpl

variable {σ : Type} (c : UsbControllerImpl σ)

def ReportsSoundly (u : Device σ) : Prop :=
  hasConfigured u = true →
    u.session.selected = some kConfigurationValue ∧ u.session.enabled = true

instance (u : Device σ) : Decidable (ReportsSoundly u) := inferInstanceAs (Decidable (_ → _))

theorem reportsSoundly_iff {u : Device σ} : ReportsSoundly u ↔ u.session.Sound := by
  simp [ReportsSoundly, Session.Sound, hasConfigured, Device.session]

def Supported (u : Device σ) : Interrupt σ → Prop
  | .general hardware =>
    ¬ ((c.native.getRegister .UDINT hardware).1 &&& bit EORSTI ≠ 0 ∧ hasConfigured u = true)
  | .endpoint hardware =>
    c.interruptByte hardware &&& bit RXSTPI ≠ 0 →
      (c.received hardware).bRequest = Request.SET_CONFIGURATION ∧
          (c.received hardware).bmRequestType.getDirection = .hostToDevice →
        (c.received hardware).wValue.toUInt8 = 0 ∨
          (c.received hardware).wValue.toUInt8 = kConfigurationValue

theorem sound_interrupt_iff {u : Device σ} (hs : u.session.Sound) (i : Interrupt σ) :
    (c.interrupt u i).session.Sound ↔ c.Supported u i := by
  cases i with
  | general hardware =>
    have hu : Session.Sound (Device.session { u with hardware }) := hs
    rw [interrupt, handleGeneralInterrupt_session, Supported]
    by_cases hbyte : (c.native.getRegister .UDINT hardware).1 &&& bit EORSTI = 0
    · simp [hbyte, hu]
    · rw [if_neg hbyte, Session.sound_reset_iff]
      simp [hbyte, Device.session, hasConfigured]
  | endpoint hardware =>
    have hu : Session.Sound (Device.session { u with hardware }) := hs
    rw [interrupt, handleEndpointInterrupt_session, Supported]
    by_cases hbyte : c.interruptByte hardware &&& bit RXSTPI = 0
    · simp [hbyte, hu]
    · rw [if_neg hbyte, Session.sound_answered_iff hu]
      simp [hbyte, SetupPacket.accepted]

theorem has_configured_sound_iff (hardware : σ) (interrupts : List (Interrupt σ)) :
    Always ReportsSoundly (path c.interrupt (.initial hardware) interrupts) ↔
      Obeys c.Supported (.initial hardware)
        (path c.interrupt (.initial hardware) interrupts) := by
  have hinit : (Device.initial hardware).session.Sound := fun h => absurd rfl h
  have hgood : ∀ u i r, u.session.Sound → c.interrupt u i = r → c.Supported u i →
      r.session.Sound ∧ ReportsSoundly r := by
    rintro u i r hu rfl hi
    have hr := (c.sound_interrupt_iff hu i).mpr hi
    exact ⟨hr, reportsSoundly_iff.mpr hr⟩
  have hbad : ∀ u i r, u.session.Sound → c.interrupt u i = r → ReportsSoundly r →
      c.Supported u i := by
    rintro u i r hu rfl hr
    exact (c.sound_interrupt_iff hu i).mp (reportsSoundly_iff.mp hr)
  exact always_iff_obeys hgood hbad (path_isPath _ _ _) hinit

end UsbControllerImpl

open Endpoint UsbControllerImpl

theorem reset_or_unsupported_stays_configured :
    ¬ Always ReportsSoundly (path controller.interrupt (.initial afterReset)
        [.endpoint (holding (setConfiguration 1)), .general afterReset]) ∧
      ¬ Always ReportsSoundly (path controller.interrupt (.initial afterReset)
        [.endpoint (holding (setConfiguration 5))]) := by
  constructor
  · decide
  · decide

end Threeboard.Usb
