import Threeboard.Usb.Protocol

namespace Threeboard.Usb

open Actions Actions.Action Mcu

def kKeyboardEndpoint : UInt8 := 1
def kKeyboardInterfaceIndex : UInt16 := 0
def kConfigurationValue : UInt8 := 1
def kEndpointTypeInterrupt : UInt8 := 0b11000000
def kEndpointDirectionIn : UInt8 := 0b00000001
def kEndpointAlloc : UInt8 := 0b00000010
def kEndpointDoubleBank : UInt8 := 0b00000100
def k32BytePacketSize : UInt8 := 0b00100000

structure HidState where
  configuration : UInt8 := 0
  modifierKeys : UInt8 := 0
  keyboardKeys : Fin 6 → UInt8 := fun _ => 0
  protocol : UInt8 := 1
  idleConfig : UInt8 := 125
  idleCount : UInt8 := 0

def HidState.report (hid : HidState) : List UInt8 :=
  hid.modifierKeys :: 0 :: List.ofFn hid.keyboardKeys

structure DescriptorContainer where
  id : UInt16
  index : UInt16
  data : ℕ → UInt8
  length : UInt8

-- The entries that a count of one byte reaches.
def counted (descriptorList : List DescriptorContainer) : List DescriptorContainer :=
  descriptorList.take (UInt8.ofNat descriptorList.length).toNat

theorem counted_of_le {descriptorList : List DescriptorContainer}
    (h : descriptorList.length ≤ 255) : counted descriptorList = descriptorList := by
  have hsize : (UInt8.ofNat descriptorList.length).toNat = descriptorList.length :=
    UInt8.toNat_ofNat_of_lt (Nat.lt_succ_of_le h)
  rw [counted, hsize, List.take_length]

inductive Handler where
  | getStatus
  | setAddress
  | getDescriptor
  | getConfiguration
  | setConfiguration
  | getReport
  | getIdle
  | setIdle
  | getProtocol
  | setProtocol
  deriving DecidableEq, Repr

def Handler.standard : Handler → Bool
  | .getStatus | .setAddress | .getDescriptor | .getConfiguration | .setConfiguration => true
  | _ => false

-- What has come of the interrupts so far; no code of the controller reads it.
inductive Event where
  | reset
  | handled (handler : Handler) (packet : SetupPacket)
  | endpointEnabled
  deriving DecidableEq, Repr

structure Device (σ : Type) where
  hidState : HidState
  hardware : σ
  events : List Event

structure UsbControllerImpl (σ : Type) where
  native : Native σ
  descriptorList : List DescriptorContainer
  polls : ℕ

namespace UsbControllerImpl

variable {σ α : Type}

def onHardware (x : Action σ α) : Action (Device σ) α :=
  zoom Device.hardware (fun hardware u => { u with hardware }) x

def updateHid (f : HidState → HidState) : Action (Device σ) Unit :=
  Action.modify fun u => { u with hidState := f u.hidState }

def record (event : Event) : Action (Device σ) Unit :=
  Action.modify fun u => { u with events := u.events ++ [event] }

variable (c : UsbControllerImpl σ)

def get (r : Register) : Action (Device σ) UInt8 := onHardware (c.native.get r)

def set (r : Register) (value : UInt8) : Action (Device σ) Unit := onHardware (c.native.set r value)

def awaitTransmitterReady : Action (Device σ) Unit :=
  Action.poll (do let ueintx ← c.get .UEINTX; pure (ueintx &&& bit TXINI ≠ 0)) c.polls

def handshakeTransmitterInterrupt : Action (Device σ) Unit := c.set .UEINTX (~~~bit TXINI)

def fill (bytes : List UInt8) : Action (Device σ) Unit := forM bytes fun byte => c.set .UEDATX byte

def reply (bytes : HidState → List UInt8) : Action (Device σ) Unit := do
  c.awaitTransmitterReady
  let hid ← Action.gets Device.hidState
  c.fill (bytes hid)
  c.handshakeTransmitterInterrupt

def store (f : HidState → HidState) : Action (Device σ) Unit := do
  c.handshakeTransmitterInterrupt
  updateHid f

def getDescriptorListSize : UInt8 := UInt8.ofNat c.descriptorList.length

def findFrom (packet : SetupPacket) (size : UInt8) :
    UInt8 → List DescriptorContainer → Option DescriptorContainer
  | _, [] => none
  | i, container :: rest =>
    if i < size then
      if container.id = packet.wValue then some container else findFrom packet size (i + 1) rest
    else none

def findMatchingContainer (packet : SetupPacket) : Option DescriptorContainer :=
  findFrom packet c.getDescriptorListSize 0 c.descriptorList

theorem findFrom_eq (packet : SetupPacket) (size i : UInt8) (entries : List DescriptorContainer) :
    findFrom packet size i entries =
      (entries.take (size.toNat - i.toNat)).find? fun container => container.id = packet.wValue := by
  induction entries generalizing i with
  | nil => simp [findFrom]
  | cons container rest ih =>
    rw [findFrom]
    by_cases hi : i < size
    · have hlt : i.toNat < size.toNat := UInt8.lt_iff_toNat_lt.mp hi
      have hnext : (i + 1).toNat = i.toNat + 1 := by
        have hsize := size.toNat_lt
        rw [UInt8.toNat_add]
        exact Nat.mod_eq_of_lt (by simp; omega)
      have hcount : size.toNat - i.toNat = size.toNat - (i + 1).toNat + 1 := by omega
      rw [if_pos hi, ih, hcount, List.take_succ_cons, List.find?_cons]
      by_cases hid : container.id = packet.wValue <;> simp [hid]
    · have hle : size.toNat ≤ i.toNat := UInt8.le_iff_toNat_le.mp (UInt8.not_lt.mp hi)
      rw [if_neg hi, Nat.sub_eq_zero_of_le hle, List.take_zero, List.find?_nil]

theorem findMatchingContainer_eq (packet : SetupPacket) : c.findMatchingContainer packet =
    (counted c.descriptorList).find? fun container => container.id = packet.wValue :=
  findFrom_eq packet _ 0 _

def handleGetStatus : Action (Device σ) Unit := c.reply fun _ => [0]

def handleSetAddress (packet : SetupPacket) : Action (Device σ) Unit := do
  c.handshakeTransmitterInterrupt
  c.set .UDADDR packet.wValue.toUInt8
  c.awaitTransmitterReady
  let udaddr ← c.get .UDADDR
  c.set .UDADDR (udaddr ||| bit ADDEN)

-- The frames of a descriptor from the given byte on; each round sends one.
def sendFrames (data : ℕ → UInt8) : ℕ → ℕ → ℕ → ℕ → Action (Device σ) Unit
  | 0, _, _, _ => pure ()
  | rounds + 1, sent, remaining, current =>
    if remaining > 0 ∨ current = k32BytePacketSize.toNat then do
      c.awaitTransmitterReady
      let frame := min remaining k32BytePacketSize.toNat
      c.fill ((List.range frame).map fun i => data (sent + i))
      c.handshakeTransmitterInterrupt
      sendFrames data rounds (sent + frame) (remaining - frame) frame
    else pure ()

def handleGetDescriptor (packet : SetupPacket) : Action (Device σ) Unit :=
  match c.findMatchingContainer packet with
  | none => c.set .UECONX (bit STALLRQ ||| bit EPEN)
  | some container =>
    let remaining := min (min packet.wLength.toNat 255) container.length.toNat
    c.sendFrames container.data (remaining + 2) 0 remaining 0

def handleGetConfiguration : Action (Device σ) Unit := c.reply fun hid => [hid.configuration]

def handleSetConfiguration (packet : SetupPacket) : Action (Device σ) Unit := do
  c.store fun hid => { hid with configuration := packet.wValue.toUInt8 }
  let configuration ← Action.gets fun u => u.hidState.configuration
  if configuration ≠ kConfigurationValue then pure ()
  else do
    c.set .UENUM kKeyboardEndpoint
    c.set .UECONX (bit EPEN)
    c.set .UECFG0X (kEndpointTypeInterrupt ||| kEndpointDirectionIn)
    c.set .UECFG1X (kEndpointDoubleBank ||| kEndpointAlloc)
    c.set .UERST (bit kKeyboardEndpoint)
    c.set .UERST 0
    record .endpointEnabled

def handleGetReport : Action (Device σ) Unit := c.reply HidState.report

def handleGetIdle : Action (Device σ) Unit := c.reply fun hid => [hid.idleConfig]

def handleSetIdle (packet : SetupPacket) : Action (Device σ) Unit :=
  c.store fun hid => { hid with idleConfig := (packet.wValue >>> 8).toUInt8, idleCount := 0 }

def handleGetProtocol : Action (Device σ) Unit := c.reply fun hid => [hid.protocol]

def handleSetProtocol (packet : SetupPacket) : Action (Device σ) Unit :=
  c.store fun hid => { hid with protocol := packet.wValue.toUInt8 }

def handle (packet : SetupPacket) : Handler → Action (Device σ) Unit
  | .getStatus => c.handleGetStatus
  | .setAddress => c.handleSetAddress packet
  | .getDescriptor => c.handleGetDescriptor packet
  | .getConfiguration => c.handleGetConfiguration
  | .setConfiguration => c.handleSetConfiguration packet
  | .getReport => c.handleGetReport
  | .getIdle => c.handleGetIdle
  | .setIdle => c.handleSetIdle packet
  | .getProtocol => c.handleGetProtocol
  | .setProtocol => c.handleSetProtocol packet

end UsbControllerImpl

end Threeboard.Usb
