import Threeboard.Simulator.Bus
import Threeboard.Library.Runs

namespace Threeboard.Simulator

open Actions Actions.Action I2c Mcu Runs

structure Accepting (codes : StatusCodes) : Prop where
  tellsStart : codes.TellsStart
  mtSla : accepted (codes.mtSla true)
  mtData : accepted (codes.mtData true)
  mrSla : accepted (codes.mrSla true)

abbrev busDriver (codes : StatusCodes) (polls : ℕ) : I2c.I2cEeprom (Twi Bus) :=
  driver codes Bus.wires .eeprom0 polls

theorem rejoin (offset : UInt16) :
    (0 : UInt16) ||| (offset >>> 8).toUInt8.toUInt16 <<< 8 ||| offset.toUInt8.toUInt16 = offset := by
  have hoffset := offset.toNat_lt
  have hhigh : offset.toNat / 256 % 256 = offset.toNat / 256 := by omega
  have hshift : (offset.toNat / 256) <<< 8 % 65536 = (offset.toNat / 256) <<< 8 := by
    rw [Nat.shiftLeft_eq]
    omega
  have hjoin := Nat.shiftLeft_add_eq_or_of_lt (i := 8) (b := offset.toNat % 256) (by omega)
    (offset.toNat / 256)
  apply UInt16.toNat_inj.mp
  simp [UInt16.toNat_or, Nat.shiftRight_eq_div_pow, hhigh, hshift, ← hjoin]
  rw [Nat.shiftLeft_eq]
  omega

section Driver

variable {codes : StatusCodes} {polls : ℕ} {t : Twi Bus} {control : UInt8} {buffer : Buffer}
  {state : EepromState} {mode : EepromMode} {raised : List TwiMessage} {line : Mode}

def resting (control : UInt8) (buffer : Buffer) (state : EepromState) (mode : EepromMode)
    (raised : List TwiMessage) : Bus := ⟨control, ⟨0, buffer, state, mode, 0, 0, raised⟩⟩

def addressed (control : UInt8) (buffer : Buffer) (mode : EepromMode) (offset : UInt16) : Bus :=
  ⟨control, ⟨0, buffer, .started, mode, offset, 0, [Bus.ack]⟩⟩

theorem control_write : createControlByte .eeprom0 kWriteBit = 0xA0 := by decide

theorem control_read : createControlByte .eeprom0 kReadBit = 0xA1 := by decide

theorem own_write : Bus.Own 0xA0 := by decide

theorem own_read : Bus.Own 0xA1 := by decide

theorem modeOf_write : modeOf 0xA0 = .transmitting := by decide

theorem modeOf_read : modeOf 0xA1 = .receiving := by decide

theorem sla_write : codes.sla 0xA0 = codes.mtSla := if_pos (by decide)

theorem sla_read : codes.sla 0xA1 = codes.mrSla := if_neg (by decide)

theorem begin_spec (hcodes : Accepting codes)
    (h : t.At polls (resting control buffer state mode raised) line) :
    wp ((busDriver codes polls).start kWriteBit)
      (fun ok u => ok = true ∧
        u.At polls ⟨0xA0, ⟨0, buffer, .addressingHigh, .write, 0, 0, [Bus.ack]⟩⟩ .transmitting)
      (fun _ => False) t := by
  refine wp_mono (start_spec hcodes.tellsStart kWriteBit h) ?_ (fun _ h => h)
  rw [control_write, resting, Bus.start_write own_write (by decide) (by decide), sla_write, modeOf_write]
  rintro ok u ⟨rfl, hu⟩
  exact ⟨hcodes.mtSla, hu⟩

theorem restart_spec (hcodes : Accepting codes) {offset : UInt16}
    (h : t.At polls (addressed control buffer mode offset) line) :
    wp ((busDriver codes polls).start kReadBit)
      (fun ok u => ok = true ∧ u.At polls (addressed 0xA1 buffer .read offset) .receiving)
      (fun _ => False) t := by
  refine wp_mono (start_spec hcodes.tellsStart kReadBit h) ?_ (fun _ h => h)
  rw [control_read, addressed, Bus.start_read own_read (by decide) (by decide), sla_read, modeOf_read]
  rintro ok u ⟨rfl, hu⟩
  exact ⟨hcodes.mrSla, hu⟩

theorem send_spec (hcodes : Accepting codes) {b b' : Bus} (data : UInt8)
    (h : t.At polls b .transmitting) (hb : Bus.wires.write data b = (true, b')) :
    wp ((busDriver codes polls).writeByteAndAck data)
      (fun ok u => ok = true ∧ u.At polls b' .transmitting) (fun _ => False) t := by
  refine wp_mono (data_spec data h) ?_ (fun _ h => h)
  rw [hb]
  rintro ok u ⟨rfl, hu⟩
  exact ⟨hcodes.mtData, hu⟩

theorem address_spec (hcodes : Accepting codes) (operation : UInt8) (offset : UInt16)
    {Q : Bool → Twi Bus → Prop} {E : Twi Bus → Prop}
    (h : t.At polls (resting control buffer state mode raised) line)
    (hthen : ∀ u : Twi Bus, u.At polls (addressed 0xA0 buffer .write offset) .transmitting →
      wp (if operation = kReadBit then (busDriver codes polls).start kReadBit else pure true) Q E u) :
    wp ((busDriver codes polls).startAndAddress operation offset) Q E t := by
  rw [I2c.I2cEeprom.startAndAddress, wp_bind]
  refine wp_mono (begin_spec hcodes h) ?_ (fun _ h => h.elim)
  rintro ok u ⟨rfl, hu⟩
  rw [if_neg (by simp), wp_bind]
  refine wp_mono (send_spec hcodes _ hu (Bus.write_high own_write _)) ?_ (fun _ h => h.elim)
  rintro ok v ⟨rfl, hv⟩
  rw [if_neg (by simp), wp_bind]
  refine wp_mono (send_spec hcodes _ hv (Bus.write_low own_write _)) ?_ (fun _ h => h.elim)
  rintro ok w ⟨rfl, hw⟩
  rw [if_neg (by simp)]
  rw [rejoin] at hw
  exact hthen w hw

theorem writeByte_spec (hcodes : Accepting codes) (offset : UInt16) (data : UInt8)
    (h : t.At polls (resting control buffer state mode raised) line) :
    wp ((busDriver codes polls).writeByte offset data)
      (fun ok u => ok = true ∧ u.At polls
        (resting 0xA0 (buffer.set offset.toNat (data - 1)) .stopped .write []) .idle)
      (fun _ => False) t := by
  rw [I2c.I2cEeprom.writeByte, wp_bind]
  refine address_spec hcodes kWriteBit offset h fun u hu => ?_
  rw [if_neg (by decide), wp_pure, if_neg (by simp), wp_bind]
  refine wp_mono (send_spec hcodes _ hu (Bus.write_data own_write _)) ?_ (fun _ h => h.elim)
  rintro ok v ⟨rfl, hv⟩
  rw [if_neg (by simp), wp_bind]
  refine wp_mono (stop_spec hv) ?_ (fun _ h => h.elim)
  intro _ w hw
  rw [Bus.stop_resets own_write] at hw
  exact ⟨rfl, hw⟩

theorem readByte_spec (hcodes : Accepting codes) (offset : UInt16)
    (h : t.At polls (resting control buffer state mode raised) line) :
    wp ((busDriver codes polls).readByte offset)
      (fun data u => data = some (buffer.get offset.toNat + 1) ∧
        u.At polls (resting 0xA1 buffer .stopped .read []) .idle) (fun _ => False) t := by
  rw [I2c.I2cEeprom.readByte, wp_bind]
  refine address_spec hcodes kReadBit offset h fun u hu => ?_
  rw [if_pos rfl]
  refine wp_mono (restart_spec hcodes hu) ?_ (fun _ h => h.elim)
  rintro ok v ⟨rfl, hv⟩
  rw [if_neg (by simp), wp_bind]
  refine wp_mono (read_spec hv) ?_ (fun _ h => h.elim)
  rintro data w ⟨rfl, hw⟩
  rw [wp_bind]
  refine wp_mono (stop_spec hw) ?_ (fun _ h => h.elim)
  intro _ x hx
  rw [addressed, Bus.read_data own_read, Bus.stop_resets own_read] at hx
  exact ⟨by rw [addressed, Bus.read_data own_read]; rfl, hx⟩

end Driver

end Threeboard.Simulator
