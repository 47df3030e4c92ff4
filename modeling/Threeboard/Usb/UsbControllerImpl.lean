import Threeboard.Usb.RequestHandler

namespace Threeboard.Usb.UsbControllerImpl

open Actions Actions.Action Mcu

variable {σ : Type} (c : UsbControllerImpl σ)

def hasConfigured (u : Device σ) : Bool := u.hidState.configuration ≠ 0

def sendHidState : Action (Device σ) Unit := do
  updateHid fun hid => { hid with idleCount := 0 }
  let hid ← Action.gets Device.hidState
  c.fill hid.report
  c.set .UEINTX (bit RWAL ||| bit NAKOUTI ||| bit RXSTPI ||| bit STALLEDI)

def configureEndpoint0 : Action (Device σ) Unit := do
  record .reset
  c.set .UENUM 0
  c.set .UECONX (bit EPEN)
  c.set .UECFG0X 0
  c.set .UECFG1X (k32BytePacketSize ||| kEndpointAlloc)
  c.set .UEIENX (bit RXSTPE)

def reportWhenIdle : Action (Device σ) Unit := do
  c.set .UENUM kKeyboardEndpoint
  let ueintx ← c.get .UEINTX
  if ueintx &&& bit RWAL ≠ 0 then do
    updateHid fun hid => { hid with idleCount := hid.idleCount + 1 }
    let hid ← Action.gets Device.hidState
    if hid.idleCount = hid.idleConfig then c.sendHidState else pure ()
  else pure ()

def countFrame : Action (Device σ) Unit := do
  let udmfn ← c.get .UDMFN
  let hid ← Action.gets Device.hidState
  if udmfn &&& bit FNCERR = 0 ∧ hid.configuration ≠ 0 ∧ hid.idleConfig ≠ 0 then c.reportWhenIdle
  else pure ()

def handleGeneralInterrupt : Action (Device σ) Unit := do
  let deviceInterrupt ← c.get .UDINT
  c.set .UDINT 0
  if deviceInterrupt &&& bit EORSTI ≠ 0 then c.configureEndpoint0 else pure ()
  if deviceInterrupt &&& bit SOFI ≠ 0 then c.countFrame else pure ()

def call (handler : Handler) (packet : SetupPacket) : Action (Device σ) Unit := do
  record (.handled handler packet)
  c.handle packet handler

def callIf (condition : Prop) [Decidable condition] (handler : Handler) (packet : SetupPacket) :
    Action (Device σ) Unit :=
  if condition then c.call handler packet else pure ()

def dispatchStandard (packet : SetupPacket) : Action (Device σ) Unit := do
  c.callIf (packet.bRequest = Request.GET_STATUS) .getStatus packet
  c.callIf (packet.bRequest = Request.SET_ADDRESS) .setAddress packet
  c.callIf (packet.bRequest = Request.GET_DESCRIPTOR) .getDescriptor packet
  c.callIf (packet.bRequest = Request.GET_CONFIGURATION ∧
    packet.bmRequestType.getDirection = .deviceToHost) .getConfiguration packet
  c.callIf (packet.bRequest = Request.SET_CONFIGURATION ∧
    packet.bmRequestType.getDirection = .hostToDevice) .setConfiguration packet

def dispatchHid (packet : SetupPacket) : Action (Device σ) Unit :=
  if packet.wIndex = kKeyboardInterfaceIndex ∧ packet.bmRequestType.getType = .ofClass ∧
      packet.bmRequestType.getRecipient = Recipient.interface then
    match packet.bmRequestType.getDirection with
    | .deviceToHost => do
      c.callIf (packet.bRequest = Request.HID_GET_REPORT) .getReport packet
      c.callIf (packet.bRequest = Request.HID_GET_IDLE) .getIdle packet
      c.callIf (packet.bRequest = Request.HID_GET_PROTOCOL) .getProtocol packet
    | .hostToDevice => do
      c.callIf (packet.bRequest = Request.HID_SET_IDLE) .setIdle packet
      c.callIf (packet.bRequest = Request.HID_SET_PROTOCOL) .setProtocol packet
  else pure ()

def handleEndpointInterrupt : Action (Device σ) Unit := do
  let packet ← onHardware (SetupPacket.parseFromUsbEndpoint c.native)
  let interrupt ← c.get .UEINTX
  let ueintx ← c.get .UEINTX
  c.set .UEINTX (ueintx &&& ~~~(bit RXSTPI ||| bit RXOUTI ||| bit TXINI))
  if interrupt &&& bit RXSTPI = 0 then c.set .UECONX (bit STALLRQ ||| bit EPEN)
  else do
    c.dispatchStandard packet
    c.dispatchHid packet

end Threeboard.Usb.UsbControllerImpl

namespace Threeboard.Usb

-- The hardware may have come to any state by the time of an interrupt.
inductive Interrupt (σ : Type) where
  | general (hardware : σ)
  | endpoint (hardware : σ)

variable {σ : Type}

def Device.initial (hardware : σ) : Device σ := ⟨{}, hardware, []⟩

def UsbControllerImpl.interrupt (c : UsbControllerImpl σ) (u : Device σ) : Interrupt σ → Device σ
  | .general hardware => (c.handleGeneralInterrupt { u with hardware }).2
  | .endpoint hardware => (c.handleEndpointInterrupt { u with hardware }).2

end Threeboard.Usb
