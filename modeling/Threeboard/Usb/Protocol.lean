import Threeboard.Native.Native

namespace Threeboard.Usb

open Actions Mcu

inductive Direction where
  | hostToDevice
  | deviceToHost
  deriving DecidableEq, Repr

inductive RequestKind where
  | standard
  | ofClass
  | vendor
  | reserved
  deriving DecidableEq, Repr

def Recipient.interface : UInt8 := 1

structure RequestType where
  value : UInt8
  deriving DecidableEq, Repr

namespace RequestType

variable (t : RequestType)

def getDirection : Direction := if t.value >>> 7 = 0 then .hostToDevice else .deviceToHost

def getType : RequestKind :=
  let bits := (t.value >>> 5) &&& 3
  if bits = 0 then .standard else if bits = 1 then .ofClass else if bits = 2 then .vendor else .reserved

def getRecipient : UInt8 := t.value &&& 31

end RequestType

namespace Request

def GET_STATUS : UInt8 := 0x00
def SET_ADDRESS : UInt8 := 0x05
def GET_DESCRIPTOR : UInt8 := 0x06
def GET_CONFIGURATION : UInt8 := 0x08
def SET_CONFIGURATION : UInt8 := 0x09

def HID_GET_REPORT : UInt8 := 0x01
def HID_GET_IDLE : UInt8 := 0x02
def HID_GET_PROTOCOL : UInt8 := 0x03
def HID_SET_REPORT : UInt8 := 0x09
def HID_SET_IDLE : UInt8 := 0x0A
def HID_SET_PROTOCOL : UInt8 := 0x0B

end Request

structure SetupPacket where
  bmRequestType : RequestType
  bRequest : UInt8
  wValue : UInt16
  wIndex : UInt16
  wLength : UInt16
  deriving DecidableEq, Repr

def word (lsb msb : UInt8) : UInt16 := lsb.toUInt16 ||| msb.toUInt16 <<< 8

theorem word_of_bytes (w : UInt16) : word w.toUInt8 (w >>> 8).toUInt8 = w := by
  have hbound := w.toNat_lt
  have hhigh : (w.toNat >>> 8 % 256) <<< 8 % 65536 = (w.toNat / 256) <<< 8 := by
    rw [Nat.shiftRight_eq_div_pow, Nat.shiftLeft_eq, Nat.shiftLeft_eq]
    omega
  have hor : w.toNat % 256 ||| (w.toNat / 256) <<< 8 = w.toNat := by
    rw [Nat.or_comm, ← Nat.shiftLeft_add_eq_or_of_lt (Nat.mod_lt _ (by decide)), Nat.shiftLeft_eq]
    omega
  apply UInt16.toNat_inj.mp
  simpa [word, hhigh] using hor

def SetupPacket.parseFromUsbEndpoint {σ : Type} (native : Native σ) : Action σ SetupPacket := do
  native.set .UENUM 0
  let bmRequestType ← native.get .UEDATX
  let bRequest ← native.get .UEDATX
  let wValueLsb ← native.get .UEDATX
  let wValueMsb ← native.get .UEDATX
  let wIndexLsb ← native.get .UEDATX
  let wIndexMsb ← native.get .UEDATX
  let wLengthLsb ← native.get .UEDATX
  let wLengthMsb ← native.get .UEDATX
  pure ⟨⟨bmRequestType⟩, bRequest, word wValueLsb wValueMsb, word wIndexLsb wIndexMsb,
    word wLengthLsb wLengthMsb⟩

end Threeboard.Usb
