import Threeboard.Usb.Invariants

namespace Threeboard.Usb

open Actions Actions.Action Mcu

structure Session where
  configuration : UInt8
  events : List Event
  deriving DecidableEq, Repr

namespace Handler

def all : List Handler :=
  [.getStatus, .setAddress, .getDescriptor, .getConfiguration, .setConfiguration,
    .getReport, .getIdle, .getProtocol, .setIdle, .setProtocol]

theorem all_nodup : all.Nodup := by decide

def request : Handler → UInt8
  | .getStatus => Request.GET_STATUS
  | .setAddress => Request.SET_ADDRESS
  | .getDescriptor => Request.GET_DESCRIPTOR
  | .getConfiguration => Request.GET_CONFIGURATION
  | .setConfiguration => Request.SET_CONFIGURATION
  | .getReport => Request.HID_GET_REPORT
  | .getIdle => Request.HID_GET_IDLE
  | .getProtocol => Request.HID_GET_PROTOCOL
  | .setIdle => Request.HID_SET_IDLE
  | .setProtocol => Request.HID_SET_PROTOCOL

theorem request_injective : Function.Injective request := by
  intro h h'
  cases h <;> cases h' <;> decide

end Handler

namespace SetupPacket

variable (packet : SetupPacket)

def toKeyboard : Prop :=
  packet.wIndex = kKeyboardInterfaceIndex ∧ packet.bmRequestType.getType = .ofClass ∧
    packet.bmRequestType.getRecipient = Recipient.interface

instance : Decidable packet.toKeyboard := inferInstanceAs (Decidable (_ ∧ _ ∧ _))

def accepted : Handler → Bool
  | .getStatus => packet.bRequest = Request.GET_STATUS
  | .setAddress => packet.bRequest = Request.SET_ADDRESS
  | .getDescriptor => packet.bRequest = Request.GET_DESCRIPTOR
  | .getConfiguration => packet.bRequest = Request.GET_CONFIGURATION ∧
      packet.bmRequestType.getDirection = .deviceToHost
  | .setConfiguration => packet.bRequest = Request.SET_CONFIGURATION ∧
      packet.bmRequestType.getDirection = .hostToDevice
  | .getReport => packet.toKeyboard ∧ packet.bmRequestType.getDirection = .deviceToHost ∧
      packet.bRequest = Request.HID_GET_REPORT
  | .getIdle => packet.toKeyboard ∧ packet.bmRequestType.getDirection = .deviceToHost ∧
      packet.bRequest = Request.HID_GET_IDLE
  | .getProtocol => packet.toKeyboard ∧ packet.bmRequestType.getDirection = .deviceToHost ∧
      packet.bRequest = Request.HID_GET_PROTOCOL
  | .setIdle => packet.toKeyboard ∧ packet.bmRequestType.getDirection = .hostToDevice ∧
      packet.bRequest = Request.HID_SET_IDLE
  | .setProtocol => packet.toKeyboard ∧ packet.bmRequestType.getDirection = .hostToDevice ∧
      packet.bRequest = Request.HID_SET_PROTOCOL

variable {packet}

theorem request_of_accepted {h : Handler} (ha : packet.accepted h = true) :
    packet.bRequest = h.request := by
  cases h <;> simp_all [accepted, Handler.request]

theorem accepted_unique {h h' : Handler} (ha : packet.accepted h = true)
    (ha' : packet.accepted h' = true) : h = h' :=
  Handler.request_injective ((request_of_accepted ha).symm.trans (request_of_accepted ha'))

end SetupPacket

namespace Session

def reset (s : Session) : Session := { s with events := s.events ++ [.reset] }

def called (packet : SetupPacket) : Handler → Session → Session
  | .setConfiguration, s =>
    let handled := s.events ++ [.handled .setConfiguration packet]
    if packet.wValue.toUInt8 = kConfigurationValue then
      ⟨packet.wValue.toUInt8, handled ++ [.endpointEnabled]⟩
    else ⟨packet.wValue.toUInt8, handled⟩
  | h, s => { s with events := s.events ++ [.handled h packet] }

def answeredBy (handlers : List Handler) (packet : SetupPacket) (s : Session) : Session :=
  match handlers.find? packet.accepted with
  | none => s
  | some h => s.called packet h

def answered (packet : SetupPacket) (s : Session) : Session := s.answeredBy Handler.all packet

end Session

def Device.session {σ : Type} (u : Device σ) : Session := ⟨u.hidState.configuration, u.events⟩

namespace UsbControllerImpl

variable {σ α β : Type} {c : UsbControllerImpl σ}

def Unseen (x : Action (Device σ) α) : Prop := ∀ s, Keeps (fun u => u.session = s) x

namespace Unseen

theorem session_eq {x : Action (Device σ) α} (h : Unseen x) (u : Device σ) :
    (x u).2.session = u.session := h _ u rfl

theorem pure (a : α) : Unseen (σ := σ) (Pure.pure a) := fun _ => Keeps.pure a

theorem gets (f : Device σ → α) : Unseen (Action.gets f) := fun _ => Keeps.gets f

theorem bind {x : Action (Device σ) α} {f : α → Action (Device σ) β} (hx : Unseen x)
    (hf : ∀ a, Unseen (f a)) : Unseen (x >>= f) := fun s => (hx s).bind fun a => hf a s

theorem ite {p : Prop} [Decidable p] {x y : Action (Device σ) α} (hx : Unseen x)
    (hy : Unseen y) : Unseen (if p then x else y) := fun s => (hx s).ite (hy s)

theorem onHardware (x : Action σ α) : Unseen (onHardware x) := fun _ _ hu => hu

theorem get (r : Register) : Unseen (c.get r) := onHardware _

theorem set (r : Register) (value : UInt8) : Unseen (c.set r value) := onHardware _

theorem updateHid {f : HidState → HidState}
    (h : ∀ hid, (f hid).configuration = hid.configuration) :
    Unseen (updateHid (σ := σ) f) := fun _ u hu => by
  rw [← hu]
  exact congrArg (Session.mk · u.events) (h u.hidState)

theorem store {f : HidState → HidState} (h : ∀ hid, (f hid).configuration = hid.configuration) :
    Unseen (c.store f) := (set _ _).bind fun _ => updateHid h

end Unseen

theorem steady_session (s : Session) : Steady c fun u => u.session = s :=
  ⟨fun _ _ hu => hu, fun _ _ _ _ hu => hu⟩

theorem unseen_handle (packet : SetupPacket) {h : Handler} (hne : h ≠ .setConfiguration) :
    Unseen (c.handle packet h) := by
  cases h with
  | setConfiguration => exact absurd rfl hne
  | setAddress => exact fun s => (steady_session s).handleSetAddress packet
  | getDescriptor => exact fun s => (steady_session s).handleGetDescriptor packet
  | setIdle | setProtocol => exact Unseen.store fun _ => rfl
  | getStatus | getConfiguration | getReport | getIdle | getProtocol =>
    exact fun s => (steady_session s).reply _

theorem setConfiguration_session (packet : SetupPacket) (u : Device σ) :
    (c.call .setConfiguration packet u).2.session =
      u.session.called packet .setConfiguration := by
  by_cases h : packet.wValue.toUInt8 = kConfigurationValue
  · simp [call, handle, handleSetConfiguration, store, handshakeTransmitterInterrupt, record,
      updateHid, set, onHardware, bind_run, Native.set, h, Session.called, Device.session]
  · simp [call, handle, handleSetConfiguration, store, handshakeTransmitterInterrupt, record,
      updateHid, set, onHardware, bind_run, Native.set, h, Session.called, Device.session]

theorem call_session (packet : SetupPacket) (h : Handler) (u : Device σ) :
    (c.call h packet u).2.session = u.session.called packet h := by
  by_cases hset : h = .setConfiguration
  · subst hset
    exact setConfiguration_session packet u
  · have hrun : (c.call h packet u).2.session =
        Device.session { u with events := u.events ++ [.handled h packet] } :=
      (unseen_handle packet hset).session_eq _
    rw [hrun]
    cases h with
    | setConfiguration => exact absurd rfl hset
    | _ => rfl

theorem dispatch_eq (packet : SetupPacket) :
    (do c.dispatchStandard packet; c.dispatchHid packet) =
      forM Handler.all fun h => c.callIf (packet.accepted h) h packet := by
  simp only [Handler.all, List.forM_cons, List.forM_nil, dispatchStandard, dispatchHid,
    SetupPacket.accepted, callIf, decide_eq_true_eq, bind_assoc]
  have hd : packet.bmRequestType.getDirection = .hostToDevice ∨
      packet.bmRequestType.getDirection = .deviceToHost := by
    cases packet.bmRequestType.getDirection <;> simp
  by_cases hk : packet.toKeyboard
  · have hif : packet.toKeyboard ↔ True := iff_true_intro hk
    rw [SetupPacket.toKeyboard] at hif
    rcases hd with hd | hd
    · simp [hd, hk, hif]
    · simp [hd, hk, hif]
  · have hif : packet.toKeyboard ↔ False := iff_false_intro hk
    rw [SetupPacket.toKeyboard] at hif
    simp only [hk, hif, false_and, if_false, pure_bind]

theorem forM_callIf_none {packet : SetupPacket} {handlers : List Handler}
    (hnone : ∀ h ∈ handlers, ¬ packet.accepted h) :
    (forM handlers fun h => c.callIf (packet.accepted h) h packet) = pure () := by
  induction handlers with
  | nil => rfl
  | cons h rest ih =>
    rw [List.forM_cons, callIf, if_neg (hnone h (by simp)), pure_bind]
    exact ih fun h' hmem => hnone h' (by simp [hmem])

theorem forM_callIf_session (packet : SetupPacket) {handlers : List Handler}
    (hn : handlers.Nodup) (u : Device σ) :
    ((forM handlers fun h => c.callIf (packet.accepted h) h packet) u).2.session =
      u.session.answeredBy handlers packet := by
  induction handlers with
  | nil => rfl
  | cons h rest ih =>
    obtain ⟨hnot, hrest⟩ := List.nodup_cons.mp hn
    rw [List.forM_cons]
    by_cases ha : packet.accepted h
    · have hnone : ∀ h' ∈ rest, ¬ packet.accepted h' := by
        intro h' hmem ha'
        exact hnot (SetupPacket.accepted_unique ha ha' ▸ hmem)
      rw [forM_callIf_none hnone, callIf, if_pos ha, bind_pure_unit, call_session, Session.answeredBy,
        List.find?_cons_of_pos ha]
    · have hfind : u.session.answeredBy (h :: rest) packet = u.session.answeredBy rest packet := by
        rw [Session.answeredBy, List.find?_cons_of_neg ha]
        rfl
      rw [callIf, if_neg ha, pure_bind, ih hrest, hfind]

theorem dispatch_session (packet : SetupPacket) (u : Device σ) :
    ((do c.dispatchStandard packet; c.dispatchHid packet) u).2.session =
      u.session.answered packet := by
  rw [dispatch_eq]
  exact forM_callIf_session packet Handler.all_nodup u

variable (c) in
def received (s : σ) : SetupPacket := ((SetupPacket.parseFromUsbEndpoint c.native s).1).get rfl

variable (c) in
def interruptByte (s : σ) : UInt8 :=
  (c.native.getRegister .UEINTX (SetupPacket.parseFromUsbEndpoint c.native s).2).1

theorem handleEndpointInterrupt_session (u : Device σ) :
    (c.handleEndpointInterrupt u).2.session =
      if c.interruptByte u.hardware &&& bit RXSTPI = 0 then u.session
      else u.session.answered (c.received u.hardware) := by
  have hrest (interrupt : UInt8) (packet : SetupPacket) (u : Device σ) :
      ((if interrupt &&& bit RXSTPI = 0 then c.set .UECONX (bit STALLRQ ||| bit EPEN)
        else do c.dispatchStandard packet; c.dispatchHid packet) u).2.session =
      if interrupt &&& bit RXSTPI = 0 then u.session else u.session.answered packet := by
    split
    · exact (Unseen.set _ _).session_eq u
    · exact dispatch_session packet u
  exact hrest _ (c.received u.hardware) _

theorem unseen_sendHidState : Unseen c.sendHidState := by
  refine Unseen.bind (Unseen.updateHid fun _ => rfl) fun _ => (Unseen.gets _).bind fun _ => ?_
  exact Unseen.bind (fun s => (steady_session s).fill _) fun _ => Unseen.set _ _

theorem unseen_reportWhenIdle : Unseen c.reportWhenIdle := by
  refine (Unseen.set _ _).bind fun _ => (Unseen.get _).bind fun _ => Unseen.ite ?_ (Unseen.pure ())
  refine Unseen.bind (Unseen.updateHid fun _ => rfl) fun _ => (Unseen.gets _).bind fun _ => ?_
  exact Unseen.ite unseen_sendHidState (Unseen.pure ())

theorem configureEndpoint0_session (u : Device σ) :
    ∃ v, c.configureEndpoint0 u = (some (), v) ∧ v.session = u.session.reset :=
  ⟨_, rfl, rfl⟩

theorem unseen_countFrame : Unseen c.countFrame :=
  (Unseen.get _).bind fun _ => (Unseen.gets _).bind fun _ =>
    .ite unseen_reportWhenIdle (.pure ())

theorem handleGeneralInterrupt_session (u : Device σ) :
    (c.handleGeneralInterrupt u).2.session =
      if (c.native.getRegister .UDINT u.hardware).1 &&& bit EORSTI = 0 then u.session
      else u.session.reset := by
  have hrest (interrupt : UInt8) (u : Device σ) :
      ((do if interrupt &&& bit EORSTI ≠ 0 then c.configureEndpoint0 else pure ()
           if interrupt &&& bit SOFI ≠ 0 then c.countFrame else pure ()) u).2.session =
        if interrupt &&& bit EORSTI = 0 then u.session else u.session.reset := by
    have hframe : Unseen (if interrupt &&& bit SOFI ≠ 0 then c.countFrame else pure ()) :=
      .ite unseen_countFrame (.pure ())
    by_cases h : interrupt &&& bit EORSTI = 0
    · rw [if_neg (not_not.mpr h), if_pos h]
      exact hframe.session_eq u
    · obtain ⟨v, hv, hsession⟩ := configureEndpoint0_session (c := c) u
      rw [if_pos h, bind_of_some hv, hframe.session_eq, if_neg h, hsession]
  exact hrest _ _

end UsbControllerImpl

end Threeboard.Usb
