import Threeboard.Simulator.I2cEeprom
import Threeboard.I2c.Driving

namespace Threeboard.Simulator

open I2c

-- The bus as the simulator runs it: every condition and byte becomes a message to the component,
-- with the address of the latest control byte.
structure Bus where
  control : UInt8
  eeprom : I2cEeprom

namespace Bus

variable (b : Bus)

def deliver (msg data : UInt8) : Bus :=
  { b with eeprom := { b.eeprom with raised := [] }.handleI2cMessage ⟨msg, b.control, data⟩ }

def acknowledged : Bool := b.eeprom.raised.any fun message => message.has TWI_COND_ACK

def answered : UInt8 :=
  match b.eeprom.raised.find? fun message => message.has TWI_COND_READ with
  | some message => message.data
  | none => 0xFF

def wires : Wires Bus where
  start control b :=
    let b := { b with control }.deliver TWI_COND_START 0
    (b.acknowledged, b)
  write data b :=
    let b := b.deliver TWI_COND_WRITE data
    (b.acknowledged, b)
  read b :=
    let b := b.deliver TWI_COND_READ 0
    (b.answered, b)
  stop b := b.deliver TWI_COND_STOP 0

def ack : TwiMessage := ⟨TWI_COND_ACK, 0, 1⟩

theorem acknowledged_of_ack {b : Bus} (h : b.eeprom.raised = [ack]) : b.acknowledged = true := by
  rw [acknowledged, h]
  decide

theorem answered_of_read {b : Bus} {data : UInt8} (h : b.eeprom.raised = [⟨TWI_COND_READ, 0, data⟩]) :
    b.answered = data := by
  have hread : (⟨TWI_COND_READ, 0, data⟩ : TwiMessage).has TWI_COND_READ = true := by
    simp [TwiMessage.has]
    decide
  simp [answered, h, hread]

section Transfers

variable {latest control : UInt8} {buffer : Buffer} {state : EepromState} {mode : EepromMode}
  {operationAddress : UInt16} {counter : UInt8} {raised : List TwiMessage}

abbrev Own (control : UInt8) : Prop := parseMessageAddress control = 0

theorem start_write (h : Own control) (hcode : control &&& kControlCode ≠ 0) (hbit : control &&& 1 = 0) :
    wires.start control ⟨latest, ⟨0, buffer, state, mode, operationAddress, counter, raised⟩⟩ =
      (true, ⟨control, ⟨0, buffer, .addressingHigh, .write, operationAddress, counter, [ack]⟩⟩) := by
  simp only [wires, deliver]
  rw [I2cEeprom.handle_start h hcode]
  simp only [I2cEeprom.handleStart, hbit, if_true]
  exact Prod.ext (acknowledged_of_ack rfl) rfl

theorem start_read (h : Own control) (hcode : control &&& kControlCode ≠ 0) (hbit : control &&& 1 ≠ 0) :
    wires.start control ⟨latest, ⟨0, buffer, state, mode, operationAddress, counter, raised⟩⟩ =
      (true, ⟨control, ⟨0, buffer, .started, .read, operationAddress, counter, [ack]⟩⟩) := by
  simp only [wires, deliver]
  rw [I2cEeprom.handle_start h hcode]
  simp only [I2cEeprom.handleStart, if_neg hbit]
  exact Prod.ext (acknowledged_of_ack rfl) rfl

variable (h : Own control)

include h

theorem write_high (data : UInt8) : wires.write data
    ⟨control, ⟨0, buffer, .addressingHigh, mode, operationAddress, counter, raised⟩⟩ =
      (true, ⟨control, ⟨0, buffer, .addressingLow, mode,
        operationAddress ||| data.toUInt16 <<< 8, counter, [ack]⟩⟩) := by
  simp only [wires, deliver]
  rw [I2cEeprom.handle_write h]
  exact Prod.ext (acknowledged_of_ack rfl) rfl

theorem write_low (data : UInt8) : wires.write data
    ⟨control, ⟨0, buffer, .addressingLow, mode, operationAddress, counter, raised⟩⟩ =
      (true, ⟨control, ⟨0, buffer, .started, mode,
        operationAddress ||| data.toUInt16, counter, [ack]⟩⟩) := by
  simp only [wires, deliver]
  rw [I2cEeprom.handle_write h]
  exact Prod.ext (acknowledged_of_ack rfl) rfl

theorem write_data (data : UInt8) : wires.write data
    ⟨control, ⟨0, buffer, .started, mode, operationAddress, counter, raised⟩⟩ =
      (true, ⟨control, ⟨0, buffer.set (operationAddress.toNat + counter.toNat) data, .started, mode,
        operationAddress, counter + 1, [ack]⟩⟩) := by
  simp only [wires, deliver]
  rw [I2cEeprom.handle_write h]
  exact Prod.ext (acknowledged_of_ack rfl) rfl

theorem read_data : wires.read
    ⟨control, ⟨0, buffer, .started, mode, operationAddress, counter, raised⟩⟩ =
      (buffer.get (operationAddress.toNat + counter.toNat), ⟨control, ⟨0, buffer, .started, mode,
        operationAddress, counter + 1,
        [⟨TWI_COND_READ, 0, buffer.get (operationAddress.toNat + counter.toNat)⟩]⟩⟩) := by
  simp only [wires, deliver]
  rw [I2cEeprom.handle_read h]
  exact Prod.ext (answered_of_read rfl) rfl

theorem stop_resets : wires.stop
    ⟨control, ⟨0, buffer, state, mode, operationAddress, counter, raised⟩⟩ =
      ⟨control, ⟨0, buffer, .stopped, mode, 0, 0, []⟩⟩ := by
  simp only [wires, deliver]
  rw [I2cEeprom.handle_stop h]
  rfl

end Transfers

end Bus

end Threeboard.Simulator
