import Threeboard.Library.Bytes
import Threeboard.I2c.Twi

namespace Threeboard.I2c

open Actions Actions.Action Bytes Mcu

variable {β : Type} {codes : StatusCodes} {wires : Wires β}

namespace Twi

def slowest (t : Twi β) : ℕ := t.delays.foldr max 0

structure At (t : Twi β) (polls : ℕ) (bus : β) (mode : Mode) : Prop where
  bus : t.bus = bus
  mode : t.mode = mode
  patient : t.slowest < polls

theorem headD_le_slowest (t : Twi β) : t.delays.headD 0 ≤ t.slowest := by
  rw [slowest]
  cases t.delays with
  | nil => exact Nat.le_refl 0
  | cons d rest => exact Nat.le_max_left d _

theorem tail_le_slowest (t : Twi β) : t.delays.tail.foldr max 0 ≤ t.slowest := by
  rw [slowest]
  cases t.delays with
  | nil => exact Nat.le_refl 0
  | cons d rest => exact Nat.le_max_right d _

variable (codes wires)

def underway (command : UInt8) (t : Twi β) (busy : ℕ) : Twi β :=
  { t.perform codes wires command with command, busy, delays := t.delays.tail }

def done (command : UInt8) (t : Twi β) : Twi β := t.underway codes wires command 0

end Twi

section Polling

theorem and_not_and (x : UInt8) : x &&& ~~~bit TWINT &&& bit TWINT = 0 := by
  revert x
  refine forall_byte ?_
  decide +kernel

variable (codes wires)

def driver (device : Device) (polls : ℕ) : I2cEeprom (Twi β) := ⟨Twi.native codes wires, device, polls⟩

variable {codes wires} {device : Device} {polls : ℕ} {t : Twi β} {command : UInt8}

theorem perform_twcr (hsto : command &&& bit TWSTO = 0)
    (h : command &&& bit TWSTA ≠ 0 ∨ t.mode ≠ .idle) :
    (t.perform codes wires command).twcr = command := by
  rw [Twi.perform, if_neg (not_not.mpr hsto)]
  by_cases hsta : command &&& bit TWSTA ≠ 0
  · rw [if_pos hsta]
  · rw [if_neg hsta]
    cases hm : t.mode with
    | idle => exact (h.resolve_left hsta hm).elim
    | started | transmitting | receiving => rfl

theorem operate_run (hslow : t.slowest < polls) (hint : command &&& bit TWINT ≠ 0)
    (hsto : command &&& bit TWSTO = 0) (h : command &&& bit TWSTA ≠ 0 ∨ t.mode ≠ .idle) :
    (do (Twi.native codes wires).set .TWCR command
        poll (driver codes wires device polls).interrupted polls) t =
      (some (), t.done codes wires command) := by
  have hset : t.setTWCR codes wires command = t.underway codes wires command (t.delays.headD 0) :=
    if_neg hint
  have hready : (driver codes wires device polls).interrupted (t.underway codes wires command 0) =
      (some true, t.done codes wires command) := by
    have htwcr : (t.done codes wires command).twcr = command := perform_twcr hsto h
    change (some (decide ((t.done codes wires command).twcr &&& bit TWINT ≠ 0)), _) = _
    rw [htwcr, decide_eq_true hint]
    rfl
  have hwait : ∀ n, (driver codes wires device polls).interrupted
      (t.underway codes wires command (n + 1)) =
        (some false, t.underway codes wires command n) := by
    intro n
    change (some (decide (command &&& ~~~bit TWINT &&& bit TWINT ≠ 0)), _) = _
    rw [and_not_and]
    rfl
  change poll _ polls (t.setTWCR codes wires command) = _
  rw [hset]
  exact poll_of_countdown hready hwait (Nat.lt_of_le_of_lt t.headD_le_slowest hslow)

def stopCommand : UInt8 := bit TWINT ||| bit TWEN ||| bit TWSTO

theorem perform_stop (codes : StatusCodes) (wires : Wires β) (t : Twi β) :
    t.perform codes wires stopCommand = { t.sendStop wires with twcr := bit TWEN } :=
  if_pos (by decide)

theorem stop_run (hslow : t.slowest < polls) :
    (driver codes wires device polls).stop t = (some (), t.done codes wires stopCommand) := by
  have hready : (driver codes wires device polls).stopped (t.underway codes wires stopCommand 0) =
      (some true, t.done codes wires stopCommand) := by
    have htwcr : (t.done codes wires stopCommand).twcr = bit TWEN := congrArg Twi.twcr (perform_stop codes wires t)
    change (some (decide ((t.done codes wires stopCommand).twcr &&& bit TWSTO = 0)), _) = _
    rw [htwcr, decide_eq_true (by decide)]
    rfl
  have hwait : ∀ n, (driver codes wires device polls).stopped
      (t.underway codes wires stopCommand (n + 1)) =
        (some false, t.underway codes wires stopCommand n) := by
    intro n
    change (some (decide (stopCommand &&& ~~~bit TWINT &&& bit TWSTO = 0)), _) = _
    rw [decide_eq_false (by decide)]
    rfl
  exact poll_of_countdown hready hwait (Nat.lt_of_le_of_lt t.headD_le_slowest hslow)

end Polling

section Specs

def accepted (status : UInt8) : Bool :=
  status &&& 0xF8 = TW_MT_SLA_ACK ∨ status &&& 0xF8 = TW_MR_SLA_ACK

def startAccepted (status : UInt8) : Bool :=
  status &&& 0xF8 = TW_START ∨ status &&& 0xF8 = TW_REP_START

theorem status_bits (status : UInt8) (prescaler : Fin 4) :
    (status &&& 0xF8 ||| UInt8.ofNat prescaler) &&& 0xF8 = status &&& 0xF8 := by
  revert prescaler status
  refine forall_byte ?_
  decide +kernel

variable {device : Device} {polls : ℕ} {t : Twi β} {bus : β} {mode : Mode}

theorem getStatusBits_run (h : t.busy = 0) :
    (driver codes wires device polls).getStatusBits t = (some (t.status &&& 0xF8), t) := by
  change (some ((((if t.busy = 0 then t.status else TW_NO_INFO) &&& 0xF8) |||
    UInt8.ofNat t.prescaler) &&& 0xF8), t) = _
  rw [if_pos h, status_bits]

def modeOf (control : UInt8) : Mode := if control &&& 1 = 0 then .transmitting else .receiving

def StatusCodes.sla (codes : StatusCodes) (control : UInt8) : Bool → UInt8 :=
  if control &&& 1 = 0 then codes.mtSla else codes.mrSla

def goCommand : UInt8 := bit TWINT ||| bit TWEN

theorem perform_started (h : t.mode = .started) : t.perform codes wires goCommand =
    { t.sendControl codes wires with twcr := goCommand } := by
  rw [Twi.perform, if_neg (by decide), if_neg (by decide), h]

theorem perform_transmitting (h : t.mode = .transmitting) : t.perform codes wires goCommand =
    { t.sendData codes wires with twcr := goCommand } := by
  rw [Twi.perform, if_neg (by decide), if_neg (by decide), h]

theorem perform_receiving (h : t.mode = .receiving) : t.perform codes wires goCommand =
    { t.receiveData codes wires false with twcr := goCommand } := by
  rw [Twi.perform, if_neg (by decide), if_neg (by decide), h]
  rfl

def startCommand : UInt8 := bit TWINT ||| bit TWSTA ||| bit TWEN

theorem perform_start (codes : StatusCodes) (wires : Wires β) (t : Twi β) :
    t.perform codes wires startCommand = { t.sendStart codes with twcr := startCommand } := by
  rw [Twi.perform, if_neg (by decide), if_pos (by decide)]

theorem sendControl_eq (t : Twi β) : t.sendControl codes wires =
    { t with
      bus := (wires.start t.twdr t.bus).2, mode := modeOf t.twdr,
      status := codes.sla t.twdr (wires.start t.twdr t.bus).1 } := by
  simp only [Twi.sendControl, modeOf, StatusCodes.sla]
  split <;> rfl

theorem writeByteAndAck_run (data : UInt8) (hslow : t.slowest < polls) (hmode : t.mode ≠ .idle) :
    (driver codes wires device polls).writeByteAndAck data t =
      (some (accepted ((t.load data).perform codes wires goCommand).status),
        (t.load data).done codes wires goCommand) := by
  have hsent : (driver codes wires device polls).writeByteToBus data t =
      (some (), (t.load data).done codes wires goCommand) :=
    operate_run (t := t.load data) hslow (by decide) (by decide) (.inr hmode)
  have hstatus : (driver codes wires device polls).getStatusBits
      ((t.load data).done codes wires goCommand) =
        (some (((t.load data).perform codes wires goCommand).status &&& 0xF8),
          (t.load data).done codes wires goCommand) := getStatusBits_run rfl
  rw [I2cEeprom.writeByteAndAck, bind_of_some hsent, bind_of_some hstatus]
  simp only [accepted, ne_eq, ← not_or]
  split
  · rename_i h
    simp [h]
  · rename_i h
    simp [not_not.mp h]

theorem control_spec (control : UInt8) (h : t.At polls bus .started) :
    wp ((driver codes wires device polls).writeByteAndAck control)
      (fun ok u => ok = accepted (codes.sla control (wires.start control bus).1) ∧
        u.At polls (wires.start control bus).2 (modeOf control)) (fun _ => False) t := by
  obtain ⟨rfl, hmode, hslow⟩ := h
  have hsent : (t.load control).perform codes wires goCommand = _ := perform_started hmode
  rw [sendControl_eq] at hsent
  refine wp_of_some (writeByteAndAck_run control hslow (by simp [hmode])) ⟨?_, ?_⟩
  · rw [hsent]
    rfl
  · exact ⟨congrArg Twi.bus hsent, congrArg Twi.mode hsent,
      Nat.lt_of_le_of_lt t.tail_le_slowest hslow⟩

theorem data_spec (data : UInt8) (h : t.At polls bus .transmitting) :
    wp ((driver codes wires device polls).writeByteAndAck data)
      (fun ok u => ok = accepted (codes.mtData (wires.write data bus).1) ∧
        u.At polls (wires.write data bus).2 .transmitting) (fun _ => False) t := by
  obtain ⟨rfl, hmode, hslow⟩ := h
  have hsent : (t.load data).perform codes wires goCommand = _ := perform_transmitting hmode
  refine wp_of_some (writeByteAndAck_run data hslow (by simp [hmode])) ⟨?_, ?_⟩
  · rw [hsent]
    rfl
  · exact ⟨congrArg Twi.bus hsent, (congrArg Twi.mode hsent).trans hmode,
      Nat.lt_of_le_of_lt t.tail_le_slowest hslow⟩

theorem read_spec (h : t.At polls bus .receiving) :
    wp ((driver codes wires device polls).readByteFromBus true)
      (fun data u => data = (wires.read bus).1 ∧ u.At polls (wires.read bus).2 .receiving)
      (fun _ => False) t := by
  obtain ⟨rfl, hmode, hslow⟩ := h
  have hread : t.perform codes wires goCommand = _ := perform_receiving hmode
  have hrun : (driver codes wires device polls).readByteFromBus true t =
      (some (t.done codes wires goCommand).twdr, t.done codes wires goCommand) :=
    bind_of_some (operate_run hslow (by decide) (by decide) (.inr (by simp [hmode]))) _
  refine wp_of_some hrun ⟨congrArg Twi.twdr hread, congrArg Twi.bus hread, ?_, ?_⟩
  · exact (congrArg Twi.mode hread).trans hmode
  · exact Nat.lt_of_le_of_lt t.tail_le_slowest hslow

theorem stop_spec (h : t.At polls bus mode) :
    wp (driver codes wires device polls).stop (fun _ u => u.At polls (wires.stop bus) .idle)
      (fun _ => False) t := by
  obtain ⟨rfl, -, hslow⟩ := h
  have hstop := perform_stop codes wires t
  exact wp_of_some (stop_run hslow) ⟨congrArg Twi.bus hstop, congrArg Twi.mode hstop,
    Nat.lt_of_le_of_lt t.tail_le_slowest hslow⟩

def StatusCodes.TellsStart (codes : StatusCodes) : Prop :=
  startAccepted codes.start ∧ startAccepted codes.repStart

theorem start_spec (hcodes : codes.TellsStart) (operation : UInt8) (h : t.At polls bus mode) :
    wp ((driver codes wires device polls).start operation)
      (fun ok u => ok = accepted (codes.sla (createControlByte device operation)
          (wires.start (createControlByte device operation) bus).1) ∧
        u.At polls (wires.start (createControlByte device operation) bus).2
          (modeOf (createControlByte device operation))) (fun _ => False) t := by
  obtain ⟨rfl, -, hslow⟩ := h
  have hbegun := perform_start codes wires t
  let u := t.done codes wires startCommand
  have hbus : (t.perform codes wires startCommand).bus = t.bus := by rw [hbegun]; rfl
  have hat : u.At polls t.bus .started :=
    ⟨hbus, congrArg Twi.mode hbegun, Nat.lt_of_le_of_lt t.tail_le_slowest hslow⟩
  have hstatus : startAccepted u.status := by
    have hu : u.status = if t.mode = .idle then codes.start else codes.repStart :=
      congrArg Twi.status hbegun
    rw [hu]
    split
    · exact hcodes.1
    · exact hcodes.2
  have hrun : (driver codes wires device polls).start operation t =
      (if u.status &&& 0xF8 ≠ TW_START ∧ u.status &&& 0xF8 ≠ TW_REP_START then pure false
        else (driver codes wires device polls).writeByteAndAck
          (createControlByte device operation)) u := by
    refine (bind_of_some (operate_run hslow (by decide) (by decide) (.inl (by decide))) _).trans ?_
    exact bind_of_some (getStatusBits_run rfl) _
  have hgo : ¬ (u.status &&& 0xF8 ≠ TW_START ∧ u.status &&& 0xF8 ≠ TW_REP_START) := by
    simpa [startAccepted, or_iff_not_imp_left] using hstatus
  rw [if_neg hgo] at hrun
  rw [wp, hrun]
  exact control_spec _ hat

end Specs

end Threeboard.I2c
