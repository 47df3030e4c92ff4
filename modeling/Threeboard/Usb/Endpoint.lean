import Threeboard.Usb.Session

namespace Threeboard.Usb

open Mcu

structure Endpoint where
  fifo : List UInt8
  ueintx : UInt8
  udint : UInt8
  deriving DecidableEq, Repr

namespace Endpoint

-- The flags of both interrupt registers are cleared by writing zeroes to them.
def native : Native Endpoint where
  getRegister
    | .UEDATX, e => (e.fifo.headD 0, { e with fifo := e.fifo.tail })
    | .UEINTX, e => (e.ueintx, e)
    | .UDINT, e => (e.udint, e)
    | _, e => (0, e)
  setRegister
    | .UEINTX, value, e => { e with ueintx := e.ueintx &&& value }
    | .UDINT, value, e => { e with udint := e.udint &&& value }
    | _, _, e => e

def holding (packet : SetupPacket) : Endpoint where
  fifo :=
    [packet.bmRequestType.value, packet.bRequest, packet.wValue.toUInt8,
      (packet.wValue >>> 8).toUInt8, packet.wIndex.toUInt8, (packet.wIndex >>> 8).toUInt8,
      packet.wLength.toUInt8, (packet.wLength >>> 8).toUInt8]
  ueintx := bit RXSTPI ||| bit TXINI
  udint := 0

def afterReset : Endpoint where
  fifo := []
  ueintx := 0
  udint := bit EORSTI

def controller : UsbControllerImpl Endpoint where
  native := native
  descriptorList := []
  polls := 1

theorem parse_holding (packet : SetupPacket) :
    SetupPacket.parseFromUsbEndpoint native (holding packet) =
      (some packet, { holding packet with fifo := [] }) := by
  have hparsed : SetupPacket.parseFromUsbEndpoint native (holding packet) =
      (some ⟨packet.bmRequestType, packet.bRequest,
        word packet.wValue.toUInt8 (packet.wValue >>> 8).toUInt8,
        word packet.wIndex.toUInt8 (packet.wIndex >>> 8).toUInt8,
        word packet.wLength.toUInt8 (packet.wLength >>> 8).toUInt8⟩,
        { holding packet with fifo := [] }) := rfl
  simpa only [word_of_bytes] using hparsed

theorem received_holding (packet : SetupPacket) :
    controller.received (holding packet) = packet := by
  simp only [UsbControllerImpl.received, controller, parse_holding, Option.get_some]

end Endpoint

end Threeboard.Usb
