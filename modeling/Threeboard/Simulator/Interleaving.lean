import Threeboard.Simulator.Transfers

namespace Threeboard.Simulator

open Actions Actions.Action I2c Mcu Runs

abbrev Offset := Fin 65535

abbrev OtherDevice := {control : UInt8 // control >>> 1 ≠ 0x50}

inductive Condition where
  | start (device : OtherDevice)
  | write (data : UInt8)
  | read
  | stop

structure Transfer where
  first : OtherDevice
  rest : List Condition

inductive Request where
  | readByte (offset : Offset)
  | writeByte (offset : Offset) (data : UInt8)
  | transfer (other : Transfer)

inductive Outcome where
  | read (result : Option (Option UInt8))
  | wrote (result : Option Bool)
  | other
  deriving DecidableEq, Repr

def undergo (t : Twi Bus) : Condition → Twi Bus
  | .start device => { t with bus := (Bus.wires.start device.1 t.bus).2, mode := modeOf device.1 }
  | .write data => { t with bus := (Bus.wires.write data t.bus).2 }
  | .read => { t with bus := (Bus.wires.read t.bus).2 }
  | .stop => { t with bus := Bus.wires.stop t.bus, mode := .idle }

def Transfer.conditions (transfer : Transfer) : List Condition :=
  .start transfer.first :: transfer.rest

def serve (codes : StatusCodes) (polls : ℕ) (t : Twi Bus) : Request → Outcome × Twi Bus
  | .readByte offset =>
    let result := (busDriver codes polls).readByte (UInt16.ofNat offset) t
    (.read result.1, result.2)
  | .writeByte offset data =>
    let result := (busDriver codes polls).writeByte (UInt16.ofNat offset) data t
    (.wrote result.1, result.2)
  | .transfer other => (.other, other.conditions.foldl undergo t)

def reference (values : Offset → UInt8) : Request → Outcome × (Offset → UInt8)
  | .readByte offset => (.read (some (some (values offset))), values)
  | .writeByte offset data => (.wrote (some true), Function.update values offset data)
  | .transfer _ => (.other, values)

def Condition.Distinct : Condition → Prop
  | .start device => ¬ Bus.Own device.1
  | _ => True

instance : DecidablePred Condition.Distinct
  | .start device => inferInstanceAs (Decidable (¬ Bus.Own device.1))
  | .write _ | .read | .stop => .isTrue trivial

def Request.Distinct : Request → Prop
  | .transfer other => ∀ condition ∈ other.conditions, condition.Distinct
  | _ => True

instance : DecidablePred Request.Distinct
  | .transfer other => inferInstanceAs (Decidable (∀ condition ∈ other.conditions, condition.Distinct))
  | .readByte _ | .writeByte _ _ => .isTrue trivial

structure Bus.Remembers (b : Bus) (values : Offset → UInt8) : Prop where
  address : b.eeprom.address = 0
  operationAddress : b.eeprom.operationAddress = 0
  counter : b.eeprom.operationAddressCounter = 0
  buffer : b.eeprom.buffer = fun o => values o - 1

structure Remembers (polls : ℕ) (t : Twi Bus) (values : Offset → UInt8) : Prop where
  patient : t.slowest < polls
  bus : t.bus.Remembers values

section Own

variable {codes : StatusCodes} {polls : ℕ} {t : Twi Bus} {values : Offset → UInt8}

theorem Bus.Remembers.eq_resting {b : Bus} (h : b.Remembers values) :
    b = resting b.control (fun o => values o - 1) b.eeprom.state b.eeprom.mode b.eeprom.raised := by
  obtain ⟨control, ⟨address, buffer, state, mode, operationAddress, counter, raised⟩⟩ := b
  obtain ⟨rfl, rfl, rfl, rfl⟩ := h
  rfl

theorem Remembers.at (h : Remembers polls t values) : t.At polls (resting t.bus.control
    (fun o => values o - 1) t.bus.eeprom.state t.bus.eeprom.mode t.bus.eeprom.raised) t.mode :=
  ⟨h.bus.eq_resting, rfl, h.patient⟩

theorem remembers_of_at {control : UInt8} {buffer : Buffer} {state : EepromState}
    {mode : EepromMode} {raised : List TwiMessage} {line : Mode}
    (h : t.At polls (resting control buffer state mode raised) line)
    (hbuffer : buffer = fun o => values o - 1) : Remembers polls t values := by
  obtain ⟨hbus, -, hpatient⟩ := h
  refine ⟨hpatient, ?_⟩
  rw [hbus, hbuffer]
  exact ⟨rfl, rfl, rfl, rfl⟩

theorem toNat_offset (offset : Offset) : (UInt16.ofNat offset).toNat = offset := by
  have := offset.2
  rw [UInt16.toNat_ofNat']
  omega

theorem get_offset (buffer : Buffer) (offset : Offset) :
    buffer.get (UInt16.ofNat offset).toNat = buffer offset := by
  rw [toNat_offset, Buffer.get, dif_pos offset.2]

theorem set_offset (offset : Offset) (data : UInt8) :
    Buffer.set (fun o => values o - 1) (UInt16.ofNat offset).toNat (data - 1) =
      fun o => Function.update values offset data o - 1 := by
  rw [toNat_offset, Buffer.set, dif_pos offset.2]
  exact (Function.comp_update (fun x => x - 1) values offset data).symm

theorem serve_readByte (hcodes : Accepting codes) (h : Remembers polls t values) (offset : Offset) :
    (serve codes polls t (.readByte offset)).1 = (reference values (.readByte offset)).1 ∧
      Remembers polls (serve codes polls t (.readByte offset)).2
        (reference values (.readByte offset)).2 := by
  have hspec := readByte_spec hcodes (UInt16.ofNat offset) h.at
  rcases hrun : (busDriver codes polls).readByte (UInt16.ofNat offset) t with ⟨_ | result, u⟩
  · exact (wp_none hspec hrun).elim
  · obtain ⟨rfl, hu⟩ := wp_some hspec hrun
    simp only [serve, hrun, reference]
    exact ⟨by rw [get_offset, UInt8.sub_add_cancel], remembers_of_at hu rfl⟩

theorem serve_writeByte (hcodes : Accepting codes) (h : Remembers polls t values) (offset : Offset)
    (data : UInt8) :
    (serve codes polls t (.writeByte offset data)).1 = (reference values (.writeByte offset data)).1 ∧
      Remembers polls (serve codes polls t (.writeByte offset data)).2
        (reference values (.writeByte offset data)).2 := by
  have hspec := writeByte_spec hcodes (UInt16.ofNat offset) data h.at
  rcases hrun : (busDriver codes polls).writeByte (UInt16.ofNat offset) data t with ⟨_ | result, u⟩
  · exact (wp_none hspec hrun).elim
  · obtain ⟨rfl, hu⟩ := wp_some hspec hrun
    simp only [serve, hrun, reference]
    exact ⟨trivial, remembers_of_at hu (set_offset offset data)⟩

end Own

section Other

variable {polls : ℕ} {t : Twi Bus} {b : Bus} {values : Offset → UInt8}

theorem deliver_remembers (h : b.Remembers values) (hother : ¬ Bus.Own b.control) (msg data : UInt8) :
    (b.deliver msg data).Remembers values := by
  have hmessage : parseMessageAddress (TwiMessage.addr ⟨msg, b.control, data⟩) ≠
      I2cEeprom.address { b.eeprom with raised := [] } := by
    rw [h.address]
    exact hother
  rw [Bus.deliver, I2cEeprom.handle_other hmessage]
  split
  · exact ⟨h.address, rfl, rfl, h.buffer⟩
  · exact ⟨h.address, h.operationAddress, h.counter, h.buffer⟩

theorem start_remembers (h : t.bus.Remembers values) {device : OtherDevice} (hother : ¬ Bus.Own device.1) :
    (undergo t (.start device)).bus.Remembers values ∧
      ¬ Bus.Own (undergo t (.start device)).bus.control :=
  ⟨deliver_remembers (b := { t.bus with control := device.1 })
    ⟨h.address, h.operationAddress, h.counter, h.buffer⟩ hother _ _, hother⟩

theorem undergo_remembers (h : t.bus.Remembers values) (hother : ¬ Bus.Own t.bus.control)
    {condition : Condition} (hdistinct : condition.Distinct) :
    (undergo t condition).bus.Remembers values ∧ ¬ Bus.Own (undergo t condition).bus.control := by
  cases condition with
  | start device => exact start_remembers h hdistinct
  | write data => exact ⟨deliver_remembers h hother _ _, hother⟩
  | read => exact ⟨deliver_remembers h hother _ _, hother⟩
  | stop => exact ⟨deliver_remembers h hother _ _, hother⟩

theorem foldl_remembers {conditions : List Condition} (h : t.bus.Remembers values)
    (hother : ¬ Bus.Own t.bus.control)
    (hdistinct : ∀ condition ∈ conditions, condition.Distinct) :
    (conditions.foldl undergo t).bus.Remembers values := by
  induction conditions generalizing t with
  | nil => exact h
  | cons condition rest ih =>
    obtain ⟨hnext, hstill⟩ := undergo_remembers h hother (hdistinct condition (List.mem_cons_self ..))
    exact ih hnext hstill fun c hc => hdistinct c (List.mem_cons_of_mem _ hc)

theorem undergo_slowest (t : Twi Bus) (condition : Condition) :
    (undergo t condition).slowest = t.slowest := by
  cases condition <;> rfl

theorem foldl_slowest (conditions : List Condition) (t : Twi Bus) :
    (conditions.foldl undergo t).slowest = t.slowest := by
  induction conditions generalizing t with
  | nil => rfl
  | cons condition rest ih => exact (ih _).trans (undergo_slowest t condition)

theorem transfer_remembers (h : Remembers polls t values) {other : Transfer}
    (hdistinct : (Request.transfer other).Distinct) :
    Remembers polls (other.conditions.foldl undergo t) values := by
  refine ⟨by rw [foldl_slowest]; exact h.patient, ?_⟩
  obtain ⟨hbegun, hother⟩ := start_remembers h.bus (hdistinct _ (List.mem_cons_self ..))
  change (other.rest.foldl undergo (undergo t (.start other.first))).bus.Remembers values
  exact foldl_remembers hbegun hother fun c hc => hdistinct c (List.mem_cons_of_mem _ hc)

end Other

theorem serve_remembers {codes : StatusCodes} {polls : ℕ} (hcodes : Accepting codes) (t : Twi Bus)
    (values : Offset → UInt8) (r : Request) (h : Remembers polls t values) (hr : r.Distinct) :
    (serve codes polls t r).1 = (reference values r).1 ∧
      Remembers polls (serve codes polls t r).2 (reference values r).2 := by
  cases r with
  | readByte offset => exact serve_readByte hcodes h offset
  | writeByte offset data => exact serve_writeByte hcodes h offset data
  | transfer other => exact ⟨rfl, transfer_remembers h hr⟩

def connect (t : Twi Bus) (control : UInt8) (buffer : Buffer) (mode : EepromMode) : Twi Bus :=
  { t with bus := ⟨control, .attached .eeprom0 buffer mode⟩ }

theorem connect_remembers {polls : ℕ} {t : Twi Bus} (h : t.slowest < polls) (control : UInt8)
    (buffer : Buffer) (mode : EepromMode) :
    Remembers polls (connect t control buffer mode) fun o => buffer o + 1 :=
  ⟨h, rfl, rfl, rfl, funext fun _ => (UInt8.add_sub_cancel _ _).symm⟩

-- As long as the transfers between them go to devices the component tells from itself, reads and
-- writes of EEPROM_0 are those of a memory, however long each operation of the interface takes.
theorem driver_remembers (codes : StatusCodes) (hcodes : Accepting codes) (t : Twi Bus)
    (control : UInt8) (buffer : Buffer) (mode : EepromMode) (requests : List Request)
    (hdistinct : ∀ r ∈ requests, r.Distinct) : ∃ enough, ∀ polls ≥ enough,
      let start := connect t control buffer mode
      let initial : Offset → UInt8 := fun o => buffer o + 1
      trace (serve codes polls) start requests = trace reference initial requests ∧
        ∀ o, (final (serve codes polls) start requests).bus.eeprom.buffer o =
          final reference initial requests o - 1 := by
  refine ⟨t.slowest + 1, fun polls hpolls => ?_⟩
  obtain ⟨htrace, hfinal⟩ := trace_eq_of_obeys (serve_remembers hcodes)
    (connect_remembers hpolls control buffer mode) (obeys_inputs_iff.mpr hdistinct)
  exact ⟨htrace, fun o => congrFun hfinal.bus.buffer o⟩

def simpleCodes : StatusCodes where
  start := TW_START
  repStart := TW_REP_START
  mtSla acked := if acked then TW_MT_SLA_ACK else TW_MT_SLA_NACK
  mtData acked := if acked then TW_MT_SLA_ACK else TW_MT_DATA_NACK
  mrSla acked := if acked then TW_MR_SLA_ACK else TW_MR_SLA_NACK
  mrData acked := if acked then TW_MR_DATA_ACK else TW_MR_DATA_NACK

theorem accepting_simpleCodes : Accepting simpleCodes :=
  ⟨⟨by decide, by decide⟩, by decide, by decide, by decide⟩

def neighbour : Transfer where
  first := ⟨0xA6, by decide⟩
  rest := [.write 0, .write 5, .start ⟨0xA7, by decide⟩, .read, .stop]

theorem driver_remembers_neighbour : ∃ enough, ∀ polls ≥ enough,
    let start := connect (.reset ⟨0, .attached .eeprom0 (fun _ => 0) .write⟩) 0 (fun _ => 0xFF) .write
    let initial : Offset → UInt8 := fun _ => 0xFF + 1
    let requests := [.writeByte 5 7, .transfer neighbour, .readByte 5]
    trace (serve simpleCodes polls) start requests = trace reference initial requests ∧
      ∀ o, (final (serve simpleCodes polls) start requests).bus.eeprom.buffer o =
        final reference initial requests o - 1 :=
  driver_remembers simpleCodes accepting_simpleCodes _ 0 (fun _ => 0xFF) .write
    [.writeByte 5 7, .transfer neighbour, .readByte 5] (by decide)

-- The control byte 0x20 is not that of EEPROM_0, yet has the bits it looks at.
def misdirected : Transfer where
  first := ⟨0x20, by decide⟩
  rest := [.write 0, .write 0, .write 0x55, .stop]

theorem misdirected_bus (t : Twi Bus) (buffer : Buffer) (mode : EepromMode) :
    (misdirected.conditions.foldl undergo (connect t 0 buffer mode)).bus =
      resting 0x20 (buffer.set 0 0x55) .stopped .write [] := by
  have hown : Bus.Own 0x20 := by decide
  change Bus.wires.stop (Bus.wires.write 0x55 (Bus.wires.write 0 (Bus.wires.write 0
    (Bus.wires.start 0x20 ⟨0, ⟨0, buffer, .stopped, mode, 0, 0, []⟩⟩).2).2).2).2 = _
  rw [Bus.start_write hown (by decide) (by decide), Bus.write_high hown, Bus.write_low hown,
    Bus.write_data hown, Bus.stop_resets hown]
  rfl

theorem misdirected_transfer_stores : ¬ ∀ (codes : StatusCodes), Accepting codes →
    ∀ (t : Twi Bus) (control : UInt8) (buffer : Buffer) (mode : EepromMode)
      (requests : List Request), ∃ enough, ∀ polls ≥ enough,
        trace (serve codes polls) (connect t control buffer mode) requests =
          trace reference (fun o => buffer o + 1) requests := by
  intro h
  let t : Twi Bus := .reset ⟨0, .attached .eeprom0 (fun _ => 0) .write⟩
  obtain ⟨enough, hall⟩ := h simpleCodes accepting_simpleCodes t 0 (fun _ => 0xFF) .write
    [.transfer misdirected, .readByte 0]
  have htrace := hall (enough + 1) (by omega)
  let u : Twi Bus := misdirected.conditions.foldl undergo (connect t 0 (fun _ => 0xFF) .write)
  have hat : u.At (enough + 1) (resting 0x20 (Buffer.set (fun _ => 0xFF) 0 0x55) .stopped .write [])
      u.mode := ⟨misdirected_bus t _ _, rfl, by rw [foldl_slowest]; exact Nat.succ_pos enough⟩
  have hspec := readByte_spec accepting_simpleCodes 0 hat
  rcases hrun : (busDriver simpleCodes (enough + 1)).readByte 0 u with ⟨_ | result, v⟩
  · exact wp_none hspec hrun
  · have hresult : result = some ((Buffer.set (fun _ => 0xFF) 0 0x55).get 0 + 1) :=
      (wp_some hspec hrun).1
    have hread : ((busDriver simpleCodes (enough + 1)).readByte 0 u).1 = some (some (0xFF + 1)) := by
      simpa [trace, serve, reference] using htrace
    rw [hrun, hresult] at hread
    have hdiffer : (Buffer.set (fun _ => 0xFF) 0 0x55).get 0 + 1 ≠ 0xFF + 1 := by decide
    exact hdiffer (Option.some.inj (Option.some.inj hread))

end Threeboard.Simulator
