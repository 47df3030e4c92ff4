import Threeboard.I2c.I2cEeprom

namespace Threeboard.I2c

open Actions Actions.Action Mcu

structure Wires (β : Type) where
  start : UInt8 → β → Bool × β
  write : UInt8 → β → Bool × β
  read : β → UInt8 × β
  stop : β → β

structure StatusCodes where
  start : UInt8
  repStart : UInt8
  mtSla : Bool → UInt8
  mtData : Bool → UInt8
  mrSla : Bool → UInt8
  mrData : Bool → UInt8

def StatusCodes.datasheet : StatusCodes where
  start := TW_START
  repStart := TW_REP_START
  mtSla acked := if acked then TW_MT_SLA_ACK else TW_MT_SLA_NACK
  mtData acked := if acked then TW_MT_DATA_ACK else TW_MT_DATA_NACK
  mrSla acked := if acked then TW_MR_SLA_ACK else TW_MR_SLA_NACK
  mrData acked := if acked then TW_MR_DATA_ACK else TW_MR_DATA_NACK

inductive Mode where
  | idle
  | started
  | transmitting
  | receiving
  deriving DecidableEq, Repr

structure Twi (β : Type) where
  bus : β
  mode : Mode
  status : UInt8
  prescaler : Fin 4
  command : UInt8
  twcr : UInt8
  twdr : UInt8
  busy : ℕ
  delays : List ℕ

namespace Twi

def reset {β : Type} (bus : β) : Twi β where
  bus
  mode := .idle
  status := TW_NO_INFO
  prescaler := 0
  command := 0
  twcr := 0
  twdr := 0xFF
  busy := 0
  delays := []

variable {β : Type} (codes : StatusCodes) (wires : Wires β)

def load (data : UInt8) (t : Twi β) : Twi β := { t with twdr := data }

def sendControl (t : Twi β) : Twi β :=
  let result := wires.start t.twdr t.bus
  if t.twdr &&& 1 = 0 then
    { t with bus := result.2, mode := .transmitting, status := codes.mtSla result.1 }
  else { t with bus := result.2, mode := .receiving, status := codes.mrSla result.1 }

def sendData (t : Twi β) : Twi β :=
  let result := wires.write t.twdr t.bus
  { t with bus := result.2, status := codes.mtData result.1 }

def receiveData (acked : Bool) (t : Twi β) : Twi β :=
  let result := wires.read t.bus
  { t with bus := result.2, twdr := result.1, status := codes.mrData acked }

def sendStart (t : Twi β) : Twi β :=
  { t with mode := .started, status := if t.mode = .idle then codes.start else codes.repStart }

def sendStop (t : Twi β) : Twi β := { t with bus := wires.stop t.bus, mode := .idle }

def perform (command : UInt8) (t : Twi β) : Twi β :=
  if command &&& bit TWSTO ≠ 0 then
    { t.sendStop wires with twcr := command &&& ~~~(bit TWINT ||| bit TWSTO) }
  else if command &&& bit TWSTA ≠ 0 then { t.sendStart codes with twcr := command }
  else match t.mode with
    | .idle => { t with twcr := command &&& ~~~bit TWINT }
    | .started => { t.sendControl codes wires with twcr := command }
    | .transmitting => { t.sendData codes wires with twcr := command }
    | .receiving => { t.receiveData codes wires (command &&& bit TWEA ≠ 0) with twcr := command }

-- Writing a one to TWINT clears it and begins the next operation.
def setTWCR (command : UInt8) (t : Twi β) : Twi β :=
  if command &&& bit TWINT = 0 then { t with command, twcr := command ||| (t.twcr &&& bit TWINT) }
  else { t.perform codes wires command with
    command, busy := t.delays.headD 0, delays := t.delays.tail }

def getTWCR (t : Twi β) : UInt8 × Twi β :=
  if t.busy = 0 then (t.twcr, t)
  else (t.command &&& ~~~bit TWINT, { t with busy := t.busy - 1 })

def getTWSR (t : Twi β) : UInt8 :=
  ((if t.busy = 0 then t.status else TW_NO_INFO) &&& 0xF8) ||| UInt8.ofNat t.prescaler

def native : Native (Twi β) where
  getRegister
    | .TWCR, t => t.getTWCR
    | .TWSR, t => (t.getTWSR, t)
    | .TWDR, t => (t.twdr, t)
    | _, t => (0, t)
  setRegister
    | .TWCR, value, t => t.setTWCR codes wires value
    | .TWSR, value, t => { t with prescaler := Fin.ofNat 4 value.toNat }
    | .TWDR, value, t => t.load value
    | _, _, t => t

end Twi

end Threeboard.I2c
