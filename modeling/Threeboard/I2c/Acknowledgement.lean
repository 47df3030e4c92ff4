import Threeboard.I2c.Driving
import Mathlib.Logic.Function.Basic

namespace Threeboard.I2c

open Actions Actions.Action Mcu

inductive Phase where
  | addressHigh
  | addressLow
  | data
  deriving DecidableEq, Repr

-- The addressed EEPROM. It takes the bytes it acknowledges, and every byte sent to it is recorded.
structure Chip where
  memory : UInt16 → UInt8
  phase : Phase
  address : UInt16
  acks : ℕ → Bool
  sent : List (UInt8 × Bool)

namespace Chip

def answer (byte : UInt8) (chip : Chip) : Bool × Chip :=
  (chip.acks 0,
    { chip with acks := fun n => chip.acks (n + 1), sent := chip.sent ++ [(byte, chip.acks 0)] })

def takeControl (control : UInt8) (chip : Chip) : Chip :=
  { chip with phase := if control &&& 1 = 0 then .addressHigh else .data }

def takeByte (byte : UInt8) (chip : Chip) : Chip :=
  match chip.phase with
  | .addressHigh => { chip with phase := .addressLow, address := byte.toUInt16 <<< 8 }
  | .addressLow => { chip with phase := .data, address := chip.address ||| byte.toUInt16 }
  | .data =>
    { chip with
      memory := Function.update chip.memory chip.address byte, address := chip.address + 1 }

def wires : Wires Chip where
  start control chip :=
    let result := chip.answer control
    (result.1, if result.1 then result.2.takeControl control else result.2)
  write byte chip :=
    let result := chip.answer byte
    (result.1, if result.1 then result.2.takeByte byte else result.2)
  read chip := (chip.memory chip.address, { chip with address := chip.address + 1 })
  stop := id

@[simp] theorem takeByte_sent (byte : UInt8) (chip : Chip) :
    (chip.takeByte byte).sent = chip.sent := by
  rw [takeByte]
  split <;> rfl

theorem start_sent (control : UInt8) (chip : Chip) :
    (wires.start control chip).2.sent = chip.sent ++ [(control, chip.acks 0)] := by
  simp only [wires]
  split <;> rfl

theorem start_acks (control : UInt8) (chip : Chip) (n : ℕ) :
    (wires.start control chip).2.acks n = chip.acks (n + 1) := by
  simp only [wires]
  split <;> rfl

theorem write_sent (byte : UInt8) (chip : Chip) :
    (wires.write byte chip).2.sent = chip.sent ++ [(byte, chip.acks 0)] := by
  simp only [wires]
  split
  · exact takeByte_sent byte _
  · rfl

end Chip

def sentDuring (t u : Twi Chip) : List (UInt8 × Bool) := u.bus.sent.drop t.bus.sent.length

def AsAcknowledged {α : Type} (x : Action (Twi Chip) α) (good bad : α) (t : Twi Chip) : Prop :=
  ((∀ p ∈ sentDuring t (x t).2, p.2) → (x t).1 = some good) ∧
    ((∃ p ∈ sentDuring t (x t).2, ¬ p.2) → (x t).1 = some bad)

def addressing (device : Device) (byteOffset : UInt16) (acks : ℕ → Bool) : List (UInt8 × Bool) :=
  (createControlByte device kWriteBit, acks 0) ::
    if acks 0 then [((byteOffset >>> 8).toUInt8, acks 1)] else []

abbrev chipDriver (device : Device) (polls : ℕ) : I2cEeprom (Twi Chip) :=
  driver .datasheet Chip.wires device polls

theorem tellsStart_datasheet : StatusCodes.datasheet.TellsStart := ⟨by decide, by decide⟩

theorem accepted_control (device : Device) (acked : Bool) :
    accepted (StatusCodes.datasheet.sla (createControlByte device kWriteBit) acked) = acked := by
  cases device <;> cases acked <;> decide

theorem accepted_data (acked : Bool) : accepted (StatusCodes.datasheet.mtData acked) = false := by
  cases acked <;> decide

theorem modeOf_write (device : Device) : modeOf (createControlByte device kWriteBit) = .transmitting := by
  cases device <;> decide

theorem startAndAddress_fails (device : Device) (operation : UInt8) (byteOffset : UInt16) {polls : ℕ}
    {t : Twi Chip} (hslow : t.slowest < polls) :
    wp ((chipDriver device polls).startAndAddress operation byteOffset)
      (fun ok u => ok = false ∧ u.slowest < polls ∧
        u.bus.sent = t.bus.sent ++ addressing device byteOffset t.bus.acks) (fun _ => False) t := by
  rw [I2cEeprom.startAndAddress, wp_bind]
  refine wp_mono (start_spec tellsStart_datasheet kWriteBit ⟨rfl, rfl, hslow⟩) ?_ (fun _ h => h)
  rintro ok u ⟨rfl, hu⟩
  rw [accepted_control, modeOf_write] at *
  have hbus := hu.bus
  have hsent : u.bus.sent = t.bus.sent ++ [(createControlByte device kWriteBit, t.bus.acks 0)] := by
    rw [hbus, Chip.start_sent]
  cases hack : t.bus.acks 0 with
  | false =>
    have hgiven : (Chip.wires.start (createControlByte device kWriteBit) t.bus).1 = false := hack
    rw [hgiven]
    exact ⟨rfl, hu.patient, by simp [hsent, addressing, hack]⟩
  | true =>
    have hgiven : (Chip.wires.start (createControlByte device kWriteBit) t.bus).1 = true := hack
    have hnext : u.bus.acks 0 = t.bus.acks 1 := by rw [hbus, Chip.start_acks]
    rw [hgiven, if_neg (by simp), wp_bind]
    refine wp_mono (data_spec (byteOffset >>> 8).toUInt8 ⟨rfl, hu.mode, hu.patient⟩) ?_ (fun _ h => h)
    rintro ok v ⟨rfl, hv⟩
    rw [accepted_data]
    refine ⟨rfl, hv.patient, ?_⟩
    rw [hv.bus, Chip.write_sent, hsent, hnext]
    simp [addressing, hack]

theorem sentDuring_of_append {t u : Twi Chip} {bytes : List (UInt8 × Bool)}
    (h : u.bus.sent = t.bus.sent ++ bytes) : sentDuring t u = bytes := by
  rw [sentDuring, h, List.drop_left]

theorem addressing_acked (device : Device) (byteOffset : UInt16) (acks : ℕ → Bool) :
    (∀ p ∈ addressing device byteOffset acks, p.2) ↔ acks 0 ∧ acks 1 := by
  cases h0 : acks 0 <;> simp [addressing, h0]

theorem asAcknowledged_iff {α : Type} {x : Action (Twi Chip) α} {good bad : α} {t : Twi Chip}
    {device : Device} {byteOffset : UInt16} (hne : good ≠ bad)
    (h : wp x (fun result u => result = bad ∧
      u.bus.sent = t.bus.sent ++ addressing device byteOffset t.bus.acks) (fun _ => False) t) :
    AsAcknowledged x good bad t ↔ ¬ (t.bus.acks 0 ∧ t.bus.acks 1) := by
  rcases hx : x t with ⟨_ | result, u⟩
  · exact (wp_none h hx).elim
  · obtain ⟨rfl, hsent⟩ := wp_some h hx
    rw [AsAcknowledged, hx, sentDuring_of_append hsent, addressing_acked]
    constructor
    · rintro ⟨hgood, -⟩ hacked
      exact hne (Option.some.inj (hgood hacked)).symm
    · intro hnack
      exact ⟨fun hacked => (hnack hacked).elim, fun _ => rfl⟩

theorem writeByte_fails (device : Device) (byteOffset : UInt16) (data : UInt8) {polls : ℕ}
    {t : Twi Chip} (hslow : t.slowest < polls) :
    wp ((chipDriver device polls).writeByte byteOffset data)
      (fun result u => result = false ∧
        u.bus.sent = t.bus.sent ++ addressing device byteOffset t.bus.acks) (fun _ => False) t := by
  rw [I2cEeprom.writeByte, wp_bind]
  refine wp_mono (startAndAddress_fails device kWriteBit byteOffset hslow) ?_ (fun _ h => h)
  rintro ok u ⟨rfl, -, hsent⟩
  exact ⟨rfl, hsent⟩

theorem readByte_fails (device : Device) (byteOffset : UInt16) {polls : ℕ} {t : Twi Chip}
    (hslow : t.slowest < polls) :
    wp ((chipDriver device polls).readByte byteOffset)
      (fun result u => result = none ∧
        u.bus.sent = t.bus.sent ++ addressing device byteOffset t.bus.acks) (fun _ => False) t := by
  rw [I2cEeprom.readByte, wp_bind]
  refine wp_mono (startAndAddress_fails device kReadBit byteOffset hslow) ?_ (fun _ h => h)
  rintro ok u ⟨rfl, hpatient, hsent⟩
  change wp (do (chipDriver device polls).stop; pure none) _ _ u
  rw [wp_bind]
  refine wp_mono (stop_spec ⟨rfl, rfl, hpatient⟩) ?_ (fun _ h => h)
  rintro - v hv
  exact ⟨rfl, by rw [hv.bus]; exact hsent⟩

-- With the codes of the data sheet the driver is right about a transfer exactly if the control
-- byte or the high byte of the address is not acknowledged.
theorem i2c_right_iff_not_acknowledged (device : Device) (byteOffset : UInt16) (data : UInt8)
    (t : Twi Chip) : ∃ enough, ∀ polls ≥ enough,
      (AsAcknowledged ((chipDriver device polls).writeByte byteOffset data) true false t ↔
        ¬ (t.bus.acks 0 ∧ t.bus.acks 1)) ∧
      (AsAcknowledged ((chipDriver device polls).readByte byteOffset)
          (some (t.bus.memory byteOffset + 1)) none t ↔ ¬ (t.bus.acks 0 ∧ t.bus.acks 1)) := by
  refine ⟨t.slowest + 1, fun polls hpolls => ⟨?_, ?_⟩⟩
  · exact asAcknowledged_iff (by simp) (writeByte_fails device byteOffset data hpolls)
  · exact asAcknowledged_iff (by simp) (readByte_fails device byteOffset hpolls)

def Chip.willing : Chip where
  memory _ := 0xFF
  phase := .data
  address := 0
  acks _ := true
  sent := []

theorem i2c_fails_though_acknowledged :
    ¬ ∀ (device : Device) (byteOffset : UInt16) (data : UInt8) (t : Twi Chip),
      ∃ enough, ∀ polls ≥ enough,
        AsAcknowledged ((chipDriver device polls).writeByte byteOffset data) true false t ∧
          AsAcknowledged ((chipDriver device polls).readByte byteOffset)
            (some (t.bus.memory byteOffset + 1)) none t := by
  intro h
  obtain ⟨enough, hall⟩ := h .eeprom0 0 0 (Twi.reset Chip.willing)
  have hright := (hall (enough + 1) (by omega)).1
  rw [asAcknowledged_iff (by simp) (writeByte_fails .eeprom0 0 0 (by simp [Twi.slowest, Twi.reset]))]
    at hright
  exact hright ⟨rfl, rfl⟩

end Threeboard.I2c
