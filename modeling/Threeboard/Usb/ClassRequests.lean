import Threeboard.Usb.Endpoint

namespace Threeboard.Usb

open Mcu

def Event.standard : Event → Bool
  | .handled handler _ => handler.standard
  | _ => false

namespace SetupPacket

variable (packet : SetupPacket)

def classInterface : Prop :=
  packet.bmRequestType.getType = .ofClass ∧
    packet.bmRequestType.getRecipient = Recipient.interface

instance : Decidable packet.classInterface := inferInstanceAs (Decidable (_ ∧ _))

def standardCode : Prop :=
  packet.bRequest ∈ [Request.GET_STATUS, Request.SET_ADDRESS, Request.GET_DESCRIPTOR] ∨
    packet.bRequest = Request.GET_CONFIGURATION ∧
      packet.bmRequestType.getDirection = .deviceToHost ∨
    packet.bRequest = Request.SET_CONFIGURATION ∧
      packet.bmRequestType.getDirection = .hostToDevice

variable {packet}

theorem standardCode_iff :
    packet.standardCode ↔ ∃ h : Handler, h.standard = true ∧ packet.accepted h = true := by
  constructor
  · rintro (h | h | h)
    · simp only [List.mem_cons, List.not_mem_nil, or_false] at h
      rcases h with h | h | h
      · exact ⟨.getStatus, rfl, decide_eq_true h⟩
      · exact ⟨.setAddress, rfl, decide_eq_true h⟩
      · exact ⟨.getDescriptor, rfl, decide_eq_true h⟩
    · exact ⟨.getConfiguration, rfl, decide_eq_true h⟩
    · exact ⟨.setConfiguration, rfl, decide_eq_true h⟩
  · rintro ⟨h, hs, ha⟩
    cases h <;> simp_all [Handler.standard, accepted, standardCode]

end SetupPacket

namespace Session

variable {packet : SetupPacket} {h : Handler} (s : Session)

theorem answered_of_accepted (ha : packet.accepted h = true) :
    s.answered packet = s.called packet h := by
  cases hf : Handler.all.find? packet.accepted with
  | none =>
    have hnone := List.find?_eq_none.mp hf h (by cases h <;> decide)
    exact absurd ha hnone
  | some h' =>
    have hh : h' = h := SetupPacket.accepted_unique (List.find?_some hf) ha
    simp only [answered, answeredBy, hf, hh]

theorem answered_cases (packet : SetupPacket) :
    s.answered packet = s ∨
      ∃ h, packet.accepted h = true ∧ s.answered packet = s.called packet h := by
  cases hf : Handler.all.find? packet.accepted with
  | none => exact .inl (by simp only [answered, answeredBy, hf])
  | some h => exact .inr ⟨h, List.find?_some hf, by simp only [answered, answeredBy, hf]⟩

def Spared (s t : Session) : Prop :=
  (∀ e ∈ t.events.drop s.events.length, e.standard = false) ∧ t.configuration = s.configuration

theorem spared_refl : Spared s s := by simp [Spared]

theorem spared_called (hh : h.standard = false) : Spared s (s.called packet h) := by
  cases h <;> simp_all [Spared, called, Handler.standard, Event.standard]

theorem not_spared_called (hh : h.standard = true) : ¬ Spared s (s.called packet h) := by
  rintro ⟨hevents, -⟩
  have hmem : Event.handled h packet ∈ (s.called packet h).events.drop s.events.length := by
    cases h with
    | setConfiguration =>
      by_cases hv : packet.wValue.toUInt8 = kConfigurationValue
      · simp [called, hv]
      · simp [called, hv]
    | _ => simp [called]
  have hfalse := hevents _ hmem
  rw [Event.standard, hh] at hfalse
  contradiction

theorem spared_answered_iff (packet : SetupPacket) :
    Spared s (s.answered packet) ↔ ¬ packet.standardCode := by
  rw [SetupPacket.standardCode_iff]
  constructor
  · rintro hspared ⟨h, hs, ha⟩
    rw [answered_of_accepted s ha] at hspared
    exact not_spared_called s hs hspared
  · intro hnone
    rcases answered_cases s packet with heq | ⟨h, ha, heq⟩
    · rw [heq]
      exact spared_refl s
    · rw [heq]
      refine spared_called s ?_
      by_contra hs
      exact hnone ⟨h, by simpa using hs, ha⟩

end Session

namespace UsbControllerImpl

variable {σ : Type} (c : UsbControllerImpl σ)

def KeepsToClass (u : Device σ) : Prop :=
  (c.received u.hardware).classInterface →
    Session.Spared u.session (c.handleEndpointInterrupt u).2.session

def MistakenForStandard (hardware : σ) : Prop :=
  (c.received hardware).classInterface ∧ c.interruptByte hardware &&& bit RXSTPI ≠ 0 ∧
    (c.received hardware).standardCode

theorem spared_iff (u : Device σ) :
    Session.Spared u.session (c.handleEndpointInterrupt u).2.session ↔
      ¬ (c.interruptByte u.hardware &&& bit RXSTPI ≠ 0 ∧
        (c.received u.hardware).standardCode) := by
  rw [handleEndpointInterrupt_session]
  by_cases hbyte : c.interruptByte u.hardware &&& bit RXSTPI = 0
  · simp [hbyte, Session.spared_refl]
  · simp [hbyte, Session.spared_answered_iff]

theorem class_requests_keep_to_class_iff (u : Device σ) :
    c.KeepsToClass u ↔ ¬ c.MistakenForStandard u.hardware := by
  rw [KeepsToClass, spared_iff, MistakenForStandard, not_and (b := _ ∧ _)]

end UsbControllerImpl

def setConfiguration (value : UInt16) : SetupPacket :=
  ⟨⟨0x00⟩, Request.SET_CONFIGURATION, value, 0, 0⟩

def setReport : SetupPacket := ⟨⟨0x21⟩, Request.HID_SET_REPORT, 0x0200, 0, 1⟩

open Endpoint UsbControllerImpl

def configured : Device Endpoint :=
  controller.interrupt (.initial afterReset) (.endpoint (holding (setConfiguration 1)))

theorem set_report_unconfigures :
    hasConfigured configured = true ∧
      ¬ controller.KeepsToClass { configured with hardware := holding setReport } ∧
      .handled .setConfiguration setReport ∈
        (controller.interrupt configured (.endpoint (holding setReport))).events ∧
      hasConfigured (controller.interrupt configured (.endpoint (holding setReport))) = false := by
  refine ⟨by decide, ?_, by decide, by decide⟩
  intro hkeeps
  have hclass : (controller.received (holding setReport)).classInterface := by
    rw [received_holding]
    decide
  have hspared := (spared_iff _ _).mp (hkeeps hclass)
  refine hspared ⟨by decide, ?_⟩
  rw [received_holding]
  exact .inr (.inr ⟨rfl, by decide⟩)

end Threeboard.Usb
