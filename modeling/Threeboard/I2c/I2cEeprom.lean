import Threeboard.Native.Native

namespace Threeboard.I2c

open Actions Mcu

inductive Device where
  | eeprom0
  | eeprom1
  deriving DecidableEq, Repr

def Device.code : Device → UInt8
  | .eeprom0 => 0
  | .eeprom1 => 1

def kWriteBit : UInt8 := 0
def kReadBit : UInt8 := 1

def createControlByte (device : Device) (operation : UInt8) : UInt8 :=
  (0b10100000 : UInt8) ||| ((device.code &&& 7) <<< 1) ||| (operation &&& 1)

structure I2cEeprom (σ : Type) where
  native : Native σ
  device : Device
  polls : ℕ

namespace I2cEeprom

variable {σ : Type} (e : I2cEeprom σ)

def interrupted : Action σ Bool := do
  let twcr ← e.native.get .TWCR
  pure (twcr &&& bit TWINT ≠ 0)

def stopped : Action σ Bool := do
  let twcr ← e.native.get .TWCR
  pure (twcr &&& bit TWSTO = 0)

def getStatusBits : Action σ UInt8 := do
  let twsr ← e.native.get .TWSR
  pure (twsr &&& 0xF8)

def writeByteToBus (data : UInt8) : Action σ Unit := do
  e.native.set .TWDR data
  e.native.set .TWCR (bit TWINT ||| bit TWEN)
  Action.poll e.interrupted e.polls

def readByteFromBus (isFinalByte : Bool) : Action σ UInt8 := do
  let twcr := bit TWINT ||| bit TWEN
  e.native.set .TWCR (if ¬ isFinalByte then twcr ||| bit TWEA else twcr)
  Action.poll e.interrupted e.polls
  e.native.get .TWDR

def writeByteAndAck (data : UInt8) : Action σ Bool := do
  e.writeByteToBus data
  let statusBits ← e.getStatusBits
  if statusBits ≠ TW_MT_SLA_ACK ∧ statusBits ≠ TW_MR_SLA_ACK then pure false else pure true

def start (operation : UInt8) : Action σ Bool := do
  e.native.set .TWCR (bit TWINT ||| bit TWSTA ||| bit TWEN)
  Action.poll e.interrupted e.polls
  let statusBits ← e.getStatusBits
  if statusBits ≠ TW_START ∧ statusBits ≠ TW_REP_START then pure false
  else e.writeByteAndAck (createControlByte e.device operation)

def startAndAddress (operation : UInt8) (byteOffset : UInt16) : Action σ Bool := do
  if ¬ (← e.start kWriteBit) then pure false
  else if ¬ (← e.writeByteAndAck (byteOffset >>> 8).toUInt8) then pure false
  else if ¬ (← e.writeByteAndAck byteOffset.toUInt8) then pure false
  else if operation = kReadBit then e.start kReadBit
  else pure true

def stop : Action σ Unit := do
  e.native.set .TWCR (bit TWINT ||| bit TWEN ||| bit TWSTO)
  Action.poll e.stopped e.polls

def readByte (byteOffset : UInt16) : Action σ (Option UInt8) := do
  if ¬ (← e.startAndAddress kReadBit byteOffset) then
    e.stop
    pure none
  else
    let data ← e.readByteFromBus true
    e.stop
    pure (some (data + 1))

def writeByte (byteOffset : UInt16) (data : UInt8) : Action σ Bool := do
  let data := data - 1
  if ¬ (← e.startAndAddress kWriteBit byteOffset) then pure false
  else if ¬ (← e.writeByteAndAck data) then pure false
  else
    e.stop
    pure true

end I2cEeprom

end Threeboard.I2c
