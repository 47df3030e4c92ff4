import Threeboard.Leds.Safety

namespace Threeboard.Leds

open Actions LedController Mcu Ports

def Led.row : Led → Fin 5
  | .status => 0
  | .err => 1
  | .r | .g | .b | .prog => 4

def Led.setter (state : State) : Led → Setter
  | .r => .r state
  | .g => .g state
  | .b => .b state
  | .prog => .prog state
  | .err => .err state
  | .status => .status state

def Setter.target : Setter → Option Led
  | bank0 _ | bank1 _ => none
  | r _ => some .r
  | g _ => some .g
  | b _ => some .b
  | prog _ => some .prog
  | err _ => some .err
  | status _ => some .status

def dark : Probe := ⟨⟨0, 0, 0, 0⟩, []⟩

namespace LedController

variable {σ : Type} (c : LedController σ)

def inDark : LedController Probe := ⟨c.state, c.nextScanLine, c.blinkStatus, dark⟩

-- Whether the next scan switches the LED on, seen on pins that are all low before it.
def drives (which : Led) : Bool :=
  let pins := (scanNextLine Probe.native c.inDark).2.hardware.ports
  match which with
  | .status => pins.high .status
  | .err => pins.high .err
  | .r => pins.high (.row 4) && !pins.high (.column 0)
  | .g => pins.high (.row 4) && !pins.high (.column 1)
  | .b => pins.high (.row 4) && !pins.high (.column 2)
  | .prog => pins.high (.row 4) && !pins.high (.column 3)

theorem dark_low (pin : Pin) : dark.ports.high pin = false := by
  revert pin
  decide

theorem resting_dark (row : Fin 5) : resting row dark.ports :=
  ⟨fun i j hi => by simp [dark_low] at hi, by simp [dark_low], by simp [dark_low]⟩

theorem visit_ports {row : Fin 5} (h : c.nextScanLine = scanLine row) :
    (scanNextLine Probe.native c.inDark).2.hardware.ports =
      (c.inDark.scanMods row).foldl Ports.after dark.ports := by
  have hline : c.inDark.nextScanLine = scanLine row := h
  rw [scanNextLine_run Probe.native hline]
  exact (performAll_probe (scanMods_lead c.inDark row _ (resting_dark row)).1
    (by simp [dark, Probe.history])).2

theorem visit_shows {row : Fin 5} (h : c.nextScanLine = scanLine row) :
    Showing row (c.shown row) (scanNextLine Probe.native c.inDark).2.hardware.ports := by
  rw [visit_ports c h]
  exact (scanMods_lead c.inDark row _ (resting_dark row)).2.1

theorem rest_untouched {lits : Fin 4 → Bool} {row : Fin 5} {pin : Pin}
    (hpin : pin = .status ∨ pin = .err) :
    ∀ m ∈ clearMods ++ columnMods lits ++ [rowOn row], m.touches pin = false := by
  intro m hm
  simp only [List.mem_append, List.mem_singleton] at hm
  rcases hm with (hm | hm) | rfl
  · simp only [clearMods, List.mem_cons, List.not_mem_nil, or_false] at hm
    rcases hm with rfl | rfl | rfl <;> rcases hpin with rfl | rfl <;> simp
  · obtain ⟨j, rfl⟩ := mem_columnMods hm
    rcases hpin with rfl | rfl <;> simp
  · rcases hpin with rfl | rfl <;> simp

theorem high_of_when {lit : Bool} {m : PortMod} {pin : Pin} {p : Ports} (hm : m.touches pin = true)
    (hon : m.enables = true) (hlow : p.high pin = false) :
    ((when lit m).foldl Ports.after p).high pin = lit := by
  cases lit with
  | false => exact hlow
  | true => rw [when, if_pos rfl, List.foldl_cons, List.foldl_nil, high_after, if_pos hm, hon]

theorem visit_status (h : c.nextScanLine = scanLine 0) :
    (scanNextLine Probe.native c.inDark).2.hardware.ports.high .status = c.lit .status := by
  rw [visit_ports c h, scanMods, beforeRow, List.append_assoc, List.foldl_append,
    high_foldl_of_untouched (rest_untouched (.inl rfl))]
  exact high_of_when (by simp) rfl (dark_low _)

theorem visit_err (h : c.nextScanLine = scanLine 1) :
    (scanNextLine Probe.native c.inDark).2.hardware.ports.high .err = c.lit .err := by
  rw [visit_ports c h, scanMods, beforeRow, List.append_assoc, List.foldl_append,
    high_foldl_of_untouched (rest_untouched (.inr rfl)), statusMods, List.foldl_cons]
  refine high_of_when (by simp) rfl ?_
  rw [high_after, if_neg (by simp), dark_low]

theorem drives_eq_lit {which : Led} (h : c.nextScanLine = scanLine which.row) :
    c.drives which = c.lit which := by
  cases which with
  | status => exact visit_status c h
  | err => exact visit_err c h
  | r | g | b | prog =>
    have hshow := visit_shows c h
    simp only [drives, hshow.rows, hshow.columns, Led.row, decide_true, Bool.true_and, Bool.not_not]
    rfl

end LedController

section Runs

variable {σ : Type} (native : Native σ) (hardware : σ)

def LedController.run (calls : List Call) : LedController σ :=
  calls.foldl (LedController.after native) { hardware }

def visits (row : Fin 5) (calls : List Call) : ℕ :=
  ((List.range (calls.count .scanNextLine)).filter fun n => Fin.ofNat 5 n = row).length

theorem run_concat (calls : List Call) (call : Call) :
    run native hardware (calls ++ [call]) = (run native hardware calls).after native call :=
  List.foldl_concat _ _ _ _

theorem visits_scan (row : Fin 5) (calls : List Call) :
    visits row (calls ++ [.scanNextLine]) =
      visits row calls + if nextRow calls = row then 1 else 0 := by
  rw [visits, List.count_append, List.count_singleton_self, List.range_succ, List.filter_append,
    List.length_append, visits, nextRow]
  congr 1
  split <;> simp_all

theorem visits_other (row : Fin 5) (calls : List Call) {call : Call} (h : call ≠ .scanNextLine) :
    visits row (calls ++ [call]) = visits row calls := by
  simp [visits, h]

theorem tick_get (row : Fin 5) (which : Led) (led : LedState) :
    (led.tick (ticking row)).get which =
      if which.row = row then (led.get which).tick else led.get which := by
  match row with
  | 0 => cases which <;> rfl
  | 1 => cases which <;> rfl
  | 2 => cases which <;> rfl
  | 3 => cases which <;> rfl
  | 4 => cases which <;> rfl

theorem run_line (calls : List Call) :
    (run native hardware calls).nextScanLine = scanLine (nextRow calls) := by
  induction calls using List.reverseRecOn with
  | nil => rfl
  | append_singleton calls call ih =>
    rw [run_concat]
    cases call with
    | scanNextLine =>
      rw [LedController.after, LedController.perform, scanNextLine_run native ih, nextRow_scan]
    | updateBlinkStatus => exact ih.trans (congrArg scanLine (nextRow_other calls (by simp)).symm)
    | set setter => exact ih.trans (congrArg scanLine (nextRow_other calls (by simp)).symm)

theorem run_scan_state (calls : List Call) (which : Led) :
    (run native hardware (calls ++ [.scanNextLine])).state.get which =
      if which.row = nextRow calls then ((run native hardware calls).state.get which).tick
      else (run native hardware calls).state.get which := by
  rw [run_concat, LedController.after, LedController.perform,
    scanNextLine_run native (run_line native hardware calls)]
  exact tick_get _ _ _

def blinkAt (n : ℕ) : UInt8 := .ofNat (n % 64 + 128 * (n / 64 % 2))

theorem blinkAt_mod (n : ℕ) : blinkAt (n % 128) = blinkAt n := by
  have hlow : n % 128 % 64 = n % 64 := by omega
  have hhigh : n % 128 / 64 % 2 = n / 64 % 2 := by omega
  rw [blinkAt, hlow, hhigh, blinkAt]

theorem nextBlinkStatus_blinkAt (n : ℕ) : nextBlinkStatus (blinkAt n) = blinkAt (n + 1) := by
  have hround : ∀ m < 128, nextBlinkStatus (blinkAt m) = blinkAt (m + 1) := by decide +kernel
  have hmod : (n % 128 + 1) % 128 = (n + 1) % 128 := by omega
  rw [← blinkAt_mod n, hround _ (Nat.mod_lt n (by decide)), ← blinkAt_mod (n % 128 + 1), hmod,
    blinkAt_mod]

theorem blinkAt_phase (n : ℕ) : blinkAt n &&& bit 7 ≠ 0 ↔ n / 64 % 2 = 1 := by
  have hround : ∀ m < 128, blinkAt m &&& bit 7 ≠ 0 ↔ m / 64 % 2 = 1 := by decide +kernel
  have hhigh : n % 128 / 64 % 2 = n / 64 % 2 := by omega
  rw [← blinkAt_mod n, hround _ (Nat.mod_lt n (by decide)), hhigh]

theorem run_blinkStatus (calls : List Call) :
    (run native hardware calls).blinkStatus = blinkAt (calls.count .updateBlinkStatus) := by
  induction calls using List.reverseRecOn with
  | nil => rfl
  | append_singleton calls call ih =>
    rw [run_concat]
    cases call with
    | scanNextLine =>
      rw [LedController.after, LedController.perform,
        scanNextLine_run native (run_line native hardware calls)]
      simpa using ih
    | updateBlinkStatus =>
      rw [List.count_append, List.count_singleton_self, ← nextBlinkStatus_blinkAt, ← ih]
      rfl
    | set setter =>
      rw [List.count_append]
      exact ih

theorem setter_get_self (state : State) (which : Led) (led : LedState) :
    (((which.setter state).apply led).get which) = .of state := by
  cases which <;> rfl

theorem setter_get_of_ne {setter : Setter} {which : Led} (h : setter.target ≠ some which)
    (led : LedState) : (setter.apply led).get which = led.get which := by
  cases setter <;> cases which <;> first | rfl | exact (h rfl).elim

def pulsed (k : ℕ) : FullState := if k < 64 then ⟨.pulse, .ofNat 64 k⟩ else ⟨.off, 0⟩

theorem pulsed_tick (k : ℕ) : (pulsed k).tick = pulsed (k + 1) := by
  have hround : ∀ m < 64, (pulsed m).tick = pulsed (m + 1) := by decide +kernel
  rcases Nat.lt_or_ge k 64 with h | h
  · exact hround k h
  · rw [pulsed, if_neg (by omega), pulsed, if_neg (by omega)]
    rfl

theorem pulsed_lit (blinking : Bool) (k : ℕ) : (pulsed k).lit blinking = decide (k < 63) := by
  have hround : ∀ m < 64, (pulsed m).lit blinking = decide (m < 63) := by
    cases blinking <;> decide +kernel
  rcases Nat.lt_or_ge k 64 with h | h
  · exact hround k h
  · rw [pulsed, if_neg (by omega), decide_eq_false (by omega)]
    rfl

theorem pulsed_state (k : ℕ) : (pulsed k).state = if k < 64 then .pulse else .off := by
  rw [pulsed]
  split <;> rfl

theorem visits_mono (row : Fin 5) (before rest : List Call) :
    visits row before ≤ visits row (before ++ rest) := by
  induction rest using List.reverseRecOn with
  | nil => simp
  | append_singleton rest call ih =>
    rw [← List.append_assoc]
    cases call with
    | scanNextLine => exact ih.trans (by rw [visits_scan]; exact Nat.le_add_right _ _)
    | updateBlinkStatus => exact ih.trans (visits_other row _ (by simp)).ge
    | set setter => exact ih.trans (visits_other row _ (by simp)).ge

theorem run_pulsed (which : Led) (before rest : List Call)
    (h : ∀ setter, Call.set setter ∈ rest → setter.target ≠ some which) :
    (run native hardware (before ++ [.set (which.setter .pulse)] ++ rest)).state.get which =
      pulsed (visits which.row (before ++ [.set (which.setter .pulse)] ++ rest) -
        visits which.row before) := by
  induction rest using List.reverseRecOn with
  | nil =>
    rw [List.append_nil, visits_other _ _ (by simp), Nat.sub_self, run_concat]
    exact setter_get_self _ _ _
  | append_singleton rest call ih =>
    have hprev := ih fun setter hmem => h setter (by simp [hmem])
    rw [← List.append_assoc]
    cases call with
    | scanNextLine =>
      have hle : visits which.row before ≤
          visits which.row (before ++ [.set (which.setter .pulse)] ++ rest) := by
        rw [List.append_assoc]
        exact visits_mono _ _ _
      rw [run_scan_state, hprev, visits_scan, pulsed_tick]
      by_cases hrow : which.row = nextRow (before ++ [.set (which.setter .pulse)] ++ rest)
      · rw [if_pos hrow, if_pos hrow.symm, Nat.sub_add_comm hle]
      · rw [if_neg hrow, if_neg (Ne.symm hrow), Nat.add_zero]
    | updateBlinkStatus =>
      rw [run_concat, visits_other _ _ (by simp), ← hprev]
      rfl
    | set setter =>
      rw [run_concat, visits_other _ _ (by simp), ← hprev]
      exact setter_get_of_ne (h setter (by simp)) _

end Runs

theorem blink_and_pulse_timing {σ : Type} (native : Native σ) (hardware : σ) (which : Led) :
    (∀ calls, nextRow calls = which.row →
      ((run native hardware calls).state.get which).state = .blink →
        ((run native hardware calls).drives which ↔
          calls.count .updateBlinkStatus / 64 % 2 = 1)) ∧
    (∀ before rest, (∀ setter, Call.set setter ∈ rest → setter.target ≠ some which) →
      let calls := before ++ [.set (which.setter .pulse)] ++ rest
      let visited := visits which.row calls - visits which.row before
      (nextRow calls = which.row → ((run native hardware calls).drives which ↔ visited < 63)) ∧
        ((run native hardware calls).state.get which).state =
          if visited < 64 then .pulse else .off) := by
  have hdrives : ∀ calls, nextRow calls = which.row →
      (run native hardware calls).drives which = (run native hardware calls).lit which := by
    intro calls hrow
    refine drives_eq_lit _ ?_
    rw [run_line, hrow]
  refine ⟨fun calls hrow hblink => ?_, fun before rest hrest => ⟨fun hrow => ?_, ?_⟩⟩
  · rw [hdrives calls hrow, ← blinkAt_phase, ← run_blinkStatus native hardware calls]
    simp [lit, FullState.lit, hblink, shouldEnableBlinkingLed]
  · rw [hdrives _ hrow, lit, run_pulsed native hardware which before rest hrest, pulsed_lit,
      decide_eq_true_eq]
  · rw [run_pulsed native hardware which before rest hrest, pulsed_state]

theorem err_pulses_after_one_scan :
    (run Probe.native dark [.set (.err .pulse), .scanNextLine]).drives .err ∧
      (run Probe.native dark ([.set (.prog .blink)] ++ List.replicate 4 .scanNextLine)).drives
        .prog = false := by
  constructor
  · exact (((blink_and_pulse_timing Probe.native dark .err).2 [] [.scanNextLine]
      (by simp)).1 (by decide)).mpr (by decide)
  · rw [← Bool.not_eq_true, (blink_and_pulse_timing Probe.native dark .prog).1 _ (by decide)
      (by decide)]
    decide

end Threeboard.Leds
