import Threeboard.Simulator.PortWrites

namespace Threeboard.Simulator

open Leds LedController Mcu Ports PortMod Runs

structure Ready (row : Fin 5) (s : Simulated) : Prop where
  resting : Leds.resting row s.data
  previous : ∀ i, s.data.high (.row i) → i + 1 = row
  settled : ∀ i, s.data.high (.row i) → s.deviceState.shown i = s.columns

theorem data_after (s : Simulated) (m : PortMod) : (s.after m).data = s.data.after m := by
  rw [after_eq]

theorem data_foldl (s : Simulated) (mods : List PortMod) :
    (mods.foldl Simulated.after s).data = mods.foldl Ports.after s.data := by
  induction mods generalizing s with
  | nil => rfl
  | cons m rest ih => simp only [List.foldl_cons, ih, data_after]

theorem deviceState_after_of_none {s : Simulated} {m : PortMod}
    (h : decodedRow m.port (s.data.after m) = none) : (s.after m).deviceState = s.deviceState := by
  rw [after_eq, h]

theorem deviceState_after_of_some {s : Simulated} {m : PortMod} {row : Fin 5}
    (h : decodedRow m.port (s.data.after m) = some row) :
    (s.after m).deviceState = (updateLedState row s).deviceState := by
  rw [after_eq, h]

theorem updateLedState_settled {s : Simulated} (h : s.deviceState.shown 4 = s.columns) :
    (updateLedState 4 s).deviceState = s.deviceState := by
  have hr : s.deviceState.ledR = ! isEnabled s.data.f 0 := congrFun h 0
  have hg : s.deviceState.ledG = ! isEnabled s.data.f 1 := congrFun h 1
  have hb : s.deviceState.ledB = ! isEnabled s.data.f 4 := congrFun h 2
  have hprog : s.deviceState.ledProg = ! isEnabled s.data.f 5 := congrFun h 3
  simp only [updateLedState, ← hr, ← hg, ← hb, ← hprog]

section Decoding

variable {row : Fin 5} {s : Simulated} (h : Ready row s)

include h

-- While row 0 or the last row is driven, switching STATUS is not taken for new columns.
theorem deviceState_statusMod (hrow : row.val < 2) (enables : Bool) :
    (s.after (statusMod enables)).deviceState = s.deviceState := by
  have h1 : s.data.high (.row 1) = false := by
    by_contra hhigh
    have hprev := h.previous 1 (by simpa using hhigh)
    rw [← hprev] at hrow
    exact absurd hrow (by decide)
  by_cases h4 : s.data.high (.row 4)
  · have hdecoded : decodedRow (statusMod enables).port (s.data.after (statusMod enables)) =
        some 4 := by simp [decodedRow, statusMod, high_after, h4]
    rw [deviceState_after_of_some hdecoded]
    exact updateLedState_settled (h.settled 4 h4)
  · apply deviceState_after_of_none
    simp [decodedRow, statusMod, high_after, h4, h1]

theorem deviceState_statusMods {σ : Type} (c : LedController σ) :
    ((c.statusMods row).foldl Simulated.after s).deviceState = s.deviceState := by
  match row with
  | 0 =>
    rw [statusMods, when]
    split
    · exact deviceState_statusMod h (by decide) true
    · rfl
  | 1 =>
    have hoff := deviceState_statusMod h (by decide) false
    rw [statusMods, when]
    split
    · exact (deviceState_after_of_none rfl).trans hoff
    · exact hoff
  | 2 => exact deviceState_after_of_none rfl
  | 3 => rfl
  | 4 => rfl

end Decoding

theorem deviceState_clearMods (s : Simulated) :
    (clearMods.foldl Simulated.after s).deviceState = s.deviceState := by
  have hb : ∀ s : Simulated, (s.after ⟨.PORTB, false, 0b00110000⟩).deviceState = s.deviceState :=
    fun s => deviceState_after_of_none (by simp [decodedRow, high_after])
  have hd : ∀ s : Simulated, (s.after ⟨.PORTD, false, 0b11010000⟩).deviceState = s.deviceState :=
    fun s => deviceState_after_of_none (by simp [decodedRow, high_after])
  have hf : ∀ s : Simulated, (s.after ⟨.PORTF, true, 0b00110011⟩).deviceState = s.deviceState :=
    fun s => deviceState_after_of_none rfl
  exact (hf _).trans ((hd _).trans (hb s))

theorem columnOff_port (j : Fin 4) : (columnOff j).port = .PORTF := by
  revert j
  decide

theorem deviceState_columnMods (lits : Fin 4 → Bool) (s : Simulated) :
    ((columnMods lits).foldl Simulated.after s).deviceState = s.deviceState := by
  have hport : ∀ m ∈ columnMods lits, m.port = .PORTF := by
    intro m hm
    obtain ⟨j, rfl⟩ := mem_columnMods hm
    exact columnOff_port j
  revert hport
  induction columnMods lits generalizing s with
  | nil => exact fun _ => rfl
  | cons m rest ih =>
    intro hport
    have hnone : decodedRow m.port (s.data.after m) = none := by
      rw [hport m (by simp)]
      rfl
    exact (ih _ fun m' hm' => hport m' (by simp [hm'])).trans (deviceState_after_of_none hnone)

theorem decodedRow_rowOn {row : Fin 5} {q : Ports} (h : ∀ i, q.high (.row i) = decide (i = row)) :
    decodedRow (rowOn row).port q = some row := by
  match row with
  | 0 => simp [decodedRow, rowOn, h]
  | 1 => simp [decodedRow, rowOn, h]
  | 2 => simp [decodedRow, rowOn, h]
  | 3 => simp [decodedRow, rowOn, h]
  | 4 => simp [decodedRow, rowOn, h]

theorem deviceState_beforeRow {σ : Type} (c : LedController σ) {row : Fin 5} {s : Simulated}
    (h : Ready row s) :
    ((c.beforeRow row).foldl Simulated.after s).deviceState = s.deviceState := by
  rw [beforeRow, List.foldl_append, List.foldl_append, deviceState_columnMods,
    deviceState_clearMods, deviceState_statusMods h]

theorem ledStatus_updateLedState (row : Fin 5) (s : Simulated) :
    (updateLedState row s).deviceState.ledStatus =
      if row = 0 then s.data.high .status && ! s.data.high .err else s.deviceState.ledStatus := by
  match row with
  | 0 => rfl
  | 1 => rfl
  | 2 => rfl
  | 3 => rfl
  | 4 => rfl

theorem ledErr_updateLedState (row : Fin 5) (s : Simulated) :
    (updateLedState row s).deviceState.ledErr =
      if row = 1 then s.data.high .err && ! s.data.high .status else s.deviceState.ledErr := by
  match row with
  | 0 => rfl
  | 1 => rfl
  | 2 => rfl
  | 3 => rfl
  | 4 => rfl

structure Decoded {σ : Type} (c : LedController σ) (row : Fin 5) (d : DeviceState) : Prop where
  shown : d.shown row = c.shown row
  status : row = 0 → d.ledStatus = c.lit .status
  err : row = 1 → d.ledErr = c.lit .err

def SameRow (row : Fin 5) (d e : DeviceState) : Prop :=
  d.shown row = e.shown row ∧ (row = 0 → d.ledStatus = e.ledStatus) ∧
    (row = 1 → d.ledErr = e.ledErr)

section Scanning

variable {σ : Type} (c : LedController σ) {row : Fin 5} {s : Simulated} (h : Ready row s)

include h

theorem columns_beforeRow : ((c.beforeRow row).foldl Simulated.after s).columns = c.shown row := by
  obtain ⟨-, hcolumns⟩ := beforeRow_lead c row s.data h.resting
  rw [← data_foldl] at hcolumns
  funext j
  simp [Simulated.columns, hcolumns.columns]

theorem deviceState_scan : ((c.scanMods row).foldl Simulated.after s).deviceState =
    (updateLedState row ((c.beforeRow row).foldl Simulated.after s)).deviceState := by
  obtain ⟨-, hshow, -⟩ := scanMods_lead c row s.data h.resting
  rw [← data_foldl, scanMods, List.foldl_append] at hshow
  rw [scanMods, List.foldl_append]
  exact deviceState_after_of_some (decodedRow_rowOn (data_after _ _ ▸ hshow.rows))

theorem decoded_scan : Decoded c row ((c.scanMods row).foldl Simulated.after s).deviceState := by
  obtain ⟨-, hcolumns⟩ := beforeRow_lead c row s.data h.resting
  rw [deviceState_scan c h]
  refine ⟨by rw [shown_updateLedState, if_pos rfl, columns_beforeRow c h], ?_, ?_⟩
  · rintro rfl
    have herr : ((c.beforeRow 0).foldl Ports.after s.data).high .err = false := by
      simpa using hcolumns.lamps.err
    rw [ledStatus_updateLedState, if_pos rfl, data_foldl, herr, status_beforeRow c h.resting]
    simp
  · rintro rfl
    have hstatus : ((c.beforeRow 1).foldl Ports.after s.data).high .status = false := by
      simpa using hcolumns.lamps.status
    rw [ledErr_updateLedState, if_pos rfl, data_foldl, hstatus, err_beforeRow c h.resting]
    simp

theorem sameRow_scan {i : Fin 5} (hi : i ≠ row) :
    SameRow i ((c.scanMods row).foldl Simulated.after s).deviceState s.deviceState := by
  rw [deviceState_scan c h, SameRow, shown_updateLedState, if_neg hi, ledStatus_updateLedState,
    ledErr_updateLedState, deviceState_beforeRow c h]
  refine ⟨rfl, ?_, ?_⟩
  · rintro rfl
    rw [if_neg hi.symm]
  · rintro rfl
    rw [if_neg hi.symm]

theorem Ready.scan : Ready (row + 1) ((c.scanMods row).foldl Simulated.after s) := by
  obtain ⟨-, hshow, hrest⟩ := scanMods_lead c row s.data h.resting
  rw [← data_foldl] at hshow hrest
  refine ⟨hrest, fun i hi => ?_, fun i hi => ?_⟩
  · rw [hshow.rows, decide_eq_true_eq] at hi
    rw [hi]
  · rw [hshow.rows, decide_eq_true_eq] at hi
    rw [hi, (decoded_scan c h).shown]
    funext j
    rw [Simulated.columns, hshow.columns, Bool.not_not]

end Scanning

structure Following (row : Fin 5) (c : LedController Simulated) : Prop where
  line : c.nextScanLine = scanLine row
  ready : Ready row c.hardware

theorem following_start {start : Ports} (h : start.Quiet) (device : DeviceState) :
    Following 0 ({ hardware := ⟨start, device⟩ } : LedController Simulated) where
  line := rfl
  ready := {
    resting := (scanning_start h).resting
    previous := fun i hi => by simp [h (.row i)] at hi
    settled := fun i hi => by simp [h (.row i)] at hi }

theorem Following.scan {row : Fin 5} {c : LedController Simulated} (h : Following row c) :
    Following (row + 1) (c.after simavr .scanNextLine) ∧
      Decoded c row (c.after simavr .scanNextLine).hardware.deviceState ∧
      ∀ i ≠ row, SameRow i (c.after simavr .scanNextLine).hardware.deviceState
        c.hardware.deviceState := by
  have hready := h.ready.scan c
  have hdecoded := decoded_scan c h.ready
  have hsame := fun i (hi : i ≠ row) => sameRow_scan c h.ready hi
  rw [LedController.after, LedController.perform, scanNextLine_run simavr h.line]
  exact ⟨⟨rfl, hready⟩, hdecoded, hsame⟩

theorem Following.other {row : Fin 5} {c : LedController Simulated} (h : Following row c)
    {call : Call} (hcall : call ≠ .scanNextLine) : Following row (c.after simavr call) := by
  cases call with
  | scanNextLine => exact (hcall rfl).elim
  | updateBlinkStatus => exact ⟨h.line, h.ready⟩
  | set setter => exact ⟨h.line, h.ready⟩

theorem Following.run {c : LedController Simulated} {row : Fin 5} (h : Following row c)
    (calls : List Call) : ∃ row, Following row (calls.foldl (LedController.after simavr) c) := by
  induction calls generalizing c row with
  | nil => exact ⟨row, h⟩
  | cons call calls ih =>
    cases call with
    | scanNextLine => exact ih h.scan.1
    | updateBlinkStatus => exact ih (h.other (by simp))
    | set setter => exact ih (h.other (by simp))

def Steady (led : LedState) : Prop :=
  ∀ which, (led.get which).state = .on ∨ (led.get which).state = .off

theorem lit_of_steady {σ : Type} {c : LedController σ} (h : Steady c.state) (which : Led) :
    c.lit which = decide ((c.state.get which).state = .on) := by
  rcases h which with hon | hoff
  · simp [lit, FullState.lit, hon]
  · simp [lit, FullState.lit, hoff]

structure Displayed (led : LedState) (row : Fin 5) (d : DeviceState) : Prop where
  shown : d.shown row = ![highNibble led.bank0, lowNibble led.bank0, highNibble led.bank1,
    lowNibble led.bank1, ![decide (led.ledR.state = .on), decide (led.ledG.state = .on),
      decide (led.ledB.state = .on), decide (led.ledProg.state = .on)]] row
  status : row = 0 → d.ledStatus = decide (led.ledStatus.state = .on)
  err : row = 1 → d.ledErr = decide (led.ledErr.state = .on)

theorem Decoded.displayed {σ : Type} {c : LedController σ} {row : Fin 5} {d : DeviceState}
    (h : Decoded c row d) (hs : Steady c.state) : Displayed c.state row d where
  shown := by
    rw [h.shown, LedController.shown, lit_of_steady hs, lit_of_steady hs, lit_of_steady hs,
      lit_of_steady hs]
    rfl
  status hrow := (h.status hrow).trans (lit_of_steady hs _)
  err hrow := (h.err hrow).trans (lit_of_steady hs _)

theorem Displayed.of_same {led : LedState} {row : Fin 5} {d e : DeviceState}
    (h : Displayed led row e) (hsame : SameRow row d e) : Displayed led row d :=
  ⟨hsame.1.trans h.shown, fun hrow => (hsame.2.1 hrow).trans (h.status hrow),
    fun hrow => (hsame.2.2 hrow).trans (h.err hrow)⟩

def scans (calls : List Call) : ℕ := calls.count .scanNextLine

theorem rowAfter (row : Fin 5) (k : ℕ) :
    row + Fin.ofNat 5 (k + 1) = row + 1 + Fin.ofNat 5 k := by
  simp only [Fin.ext_iff, Fin.val_add, Fin.ofNat]
  omega

theorem row_within (row i : Fin 5) : ∃ k < 5, i = row + Fin.ofNat 5 k := by
  revert row i
  decide

theorem displayed_run {led : LedState} (hs : Steady led) (calls : List Call)
    {c : LedController Simulated} {row : Fin 5} (h : Following row c) (hled : c.state = led)
    (halways : Always (fun c => c.state = led) (path (LedController.after simavr) c calls))
    {S : Fin 5 → Prop} (hshown : ∀ i, S i → Displayed led i c.hardware.deviceState) :
    ∀ i, (S i ∨ ∃ k < scans calls, i = row + Fin.ofNat 5 k) →
      Displayed led i (calls.foldl (LedController.after simavr) c).hardware.deviceState := by
  induction calls generalizing c row S with
  | nil =>
    rintro i (hi | ⟨k, hk, -⟩)
    · exact hshown i hi
    · simp [scans] at hk
  | cons call calls ih =>
    obtain ⟨hcall, hrest⟩ := (always_cons _ _ _).mp halways
    cases call with
    | scanNextLine =>
      obtain ⟨hnext, hdecoded, hsame⟩ := h.scan
      have hnow : ∀ i, (S i ∨ i = row) → Displayed led i
          (c.after simavr .scanNextLine).hardware.deviceState := by
        intro i hi
        by_cases hrow : i = row
        · subst hrow hled
          exact hdecoded.displayed hs
        · exact (hshown i (hi.resolve_right hrow)).of_same (hsame i hrow)
      rintro i (hi | ⟨k, hk, rfl⟩)
      · exact ih hnext hcall hrest hnow i (.inl (.inl hi))
      · cases k with
        | zero => exact ih hnext hcall hrest hnow _ (.inl (.inr (by simp)))
        | succ k =>
          have hk' : k < scans calls := by simpa [scans] using hk
          exact ih hnext hcall hrest hnow _ (.inr ⟨k, hk', rowAfter row k⟩)
    | updateBlinkStatus => exact ih (h.other (by simp)) hcall hrest hshown
    | set setter => exact ih (h.other (by simp)) hcall hrest hshown

def rebuild (high low : Fin 4 → Bool) : UInt8 :=
  columns (high 0) (high 1) (high 2) (high 3) <<< 4 |||
    columns (low 0) (low 1) (low 2) (low 3)

theorem rebuild_nibbles (bank : UInt8) : rebuild (highNibble bank) (lowNibble bank) = bank := by
  revert bank
  exact Bytes.forall_byte (by decide +kernel)

theorem eq_of_nibbles {x y : UInt8} (hhigh : highNibble x = highNibble y)
    (hlow : lowNibble x = lowNibble y) : x = y := by
  rw [← rebuild_nibbles x, hhigh, hlow, rebuild_nibbles]

theorem simulator_decodes_leds (start : Ports) (hquiet : start.Quiet) (device : DeviceState)
    (earlier calls : List Call) (led : LedState) (hs : Steady led) (hfive : scans calls = 5)
    (hled : (earlier.foldl (LedController.after simavr) { hardware := ⟨start, device⟩ }).state = led)
    (halways : Always (fun c => c.state = led) (path (LedController.after simavr)
      (earlier.foldl (LedController.after simavr) { hardware := ⟨start, device⟩ }) calls)) :
    let d := ((earlier ++ calls).foldl (LedController.after simavr)
      { hardware := ⟨start, device⟩ }).hardware.deviceState
    d.bank0 = led.bank0 ∧ d.bank1 = led.bank1 ∧
      d.ledR = decide (led.ledR.state = .on) ∧ d.ledG = decide (led.ledG.state = .on) ∧
      d.ledB = decide (led.ledB.state = .on) ∧ d.ledProg = decide (led.ledProg.state = .on) ∧
      d.ledErr = decide (led.ledErr.state = .on) ∧
      d.ledStatus = decide (led.ledStatus.state = .on) := by
  intro d
  obtain ⟨row, hrow⟩ := (following_start hquiet device).run earlier
  have hall : ∀ i, Displayed led i d := by
    intro i
    have hrun := displayed_run hs calls hrow hled halways (S := fun _ => False) (by simp)
    rw [hfive] at hrun
    simp only [d, List.foldl_append]
    exact hrun i (.inr (row_within row i))
  have hbits := fun j => congrFun (hall 4).shown j
  exact ⟨eq_of_nibbles (hall 0).shown (hall 1).shown, eq_of_nibbles (hall 2).shown (hall 3).shown,
    hbits 0, hbits 1, hbits 2, hbits 3, (hall 1).err rfl, (hall 0).status rfl⟩

def twoScans : List Call :=
  [.set (.bank0 0xA5), .set (.r .on), .set (.err .on), .scanNextLine, .scanNextLine]

def fiveScans : List Call := List.replicate 5 .scanNextLine

theorem simulator_decodes_leds_after_two_scans :
    ((twoScans ++ fiveScans).foldl (LedController.after simavr)
      { hardware := ⟨⟨0b1110, 0, 0, 0⟩, {}⟩ }).hardware.deviceState.bank0 = 0xA5 := by
  have hsteady : Steady { bank0 := 0xA5, ledR := .of .on, ledErr := .of .on } := by
    intro which
    cases which <;> decide
  exact (simulator_decodes_leds _ quiet_at_power_up {} twoScans fiveScans _ hsteady (by decide)
    (by decide +kernel) (by decide +kernel)).1

end Threeboard.Simulator
