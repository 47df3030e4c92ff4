import Threeboard.Integration.Fixture
import Mathlib.Tactic.IntervalCases

namespace Threeboard.Integration

open Actions Bursts Events Keys Layers Leds Runs Simulator Storage

variable {σ : Type}

-- The indicator and the LEDs that show it, `n` polls after DisplayBootIndicator has started it.
def indicatorAt (n : ℕ) : BootIndicator :=
  if n = 0 then ⟨1, 13⟩
  else if n < 40 then ⟨Fin.ofNat 8 ((n - 1) / 13 + 2), Fin.ofNat 32 ((n - 1) % 13 + 1)⟩
  else ⟨0, 14⟩

def indicatorLeds (n : ℕ) : LedState :=
  if n = 0 then {}
  else if n ≤ 13 then LedState.setR .on {}
  else if n ≤ 26 then LedState.setG .on {}
  else if n ≤ 39 then LedState.setB .on {}
  else {}

theorem indicator_running {n : ℕ} (h : n < 40) : (indicatorAt n).status > 0 := by
  interval_cases n <;> decide

theorem indicator_finished {n : ℕ} (h : 40 ≤ n) :
    indicatorAt n = ⟨0, 14⟩ ∧ indicatorLeds n = {} := by
  have h0 : n ≠ 0 := by omega
  have h13 : ¬ n ≤ 13 := by omega
  have h26 : ¬ n ≤ 26 := by omega
  have h39 : ¬ n ≤ 39 := by omega
  have h40 : ¬ n < 40 := by omega
  simp [indicatorAt, indicatorLeds, h0, h13, h26, h39, h40]

theorem mainLeds_lights (indicator : BootIndicator) (led : LedState) :
    mainLeds (indicator.poll led).2 = (indicator.poll (mainLeds led)).2 ∧
      (indicator.poll led).1 = (indicator.poll (mainLeds led)).1 := by
  simp only [BootIndicator.poll, BootIndicator.lights]
  split_ifs <;> exact ⟨rfl, rfl⟩

theorem indicator_poll {n : ℕ} (h : n < 40) :
    (indicatorAt n).poll (indicatorLeds n) = (indicatorAt (n + 1), indicatorLeds (n + 1)) := by
  interval_cases n <;> decide

theorem plain_indicatorLeds (n : ℕ) : Plain (indicatorLeds n) := by
  simp only [indicatorLeds]
  split_ifs <;> simp [Plain, LedController.ticking, LedState.get, LedState.setR, LedState.setG, LedState.setB,
    FullState.of]

def unlit (b : Board σ) : Board σ := { b with ledState := {} }

structure Idling (R : σ → Ideal → Prop) (d : Devices σ) (s : Simulation σ) : Prop where
  world : R s.board.world ⟨Shortcuts.empty, []⟩
  board : unlit s.board = Board.boot s.board.world
  events : At d ∅ ∅ none none s
  scanning : ∃ row, Following row s.ledController
  taken : s.taken = 0
  output : s.simavr.deviceState.usbBuffer = []

structure Booting (R : σ → Ideal → Prop) (d : Devices σ) (n : ℕ) (s : Simulation σ) : Prop
    extends Idling R d s where
  leds : mainLeds s.board.ledState = indicatorLeds n
  indicator : s.threeboard.bootIndicator = indicatorAt n

variable {R : σ → Ideal → Prop} {d : Devices σ} {sent : σ → List (UInt8 × UInt8)} {n : ℕ}
  {s : Simulation σ}

theorem Idling.timer1 (h : Idling R d s) : Idling R d s.handleTimer1Interrupt := by
  obtain ⟨row, hrow⟩ := h.scanning
  have hnext := hrow.scan.1
  exact ⟨h.world, h.board, ⟨h.events.low, h.events.keyMask, h.events.pending, h.events.phase⟩,
    ⟨_, hnext.line, hnext.ready⟩, h.taken, (usbBuffer_scan hrow).trans h.output⟩

theorem timer1_leds (hrow : ∃ row, Following row s.ledController) (hplain : Plain s.board.ledState) :
    mainLeds s.handleTimer1Interrupt.board.ledState = mainLeds s.board.ledState := by
  obtain ⟨row, hrow⟩ := hrow
  exact (congrArg mainLeds (state_scan hrow)).trans (mainLeds_tick hplain _)

theorem Idling.timer3 (h : Idling R d s) : Idling R d s.handleTimer3Interrupt := by
  have hpolled := timer3_polls s.threeboard s.pinb
  obtain ⟨row, hrow⟩ := h.scanning
  have hunlit : unlit s.handleTimer3Interrupt.board = unlit s.board :=
    (congrArg unlit hpolled.board).trans rfl
  have hworld : s.handleTimer3Interrupt.board.world = s.board.world :=
    (congrArg Board.world hunlit :)
  have hboard : unlit s.handleTimer3Interrupt.board =
      Board.boot s.handleTimer3Interrupt.board.world := by rw [hunlit, hworld, h.board]
  exact ⟨hworld ▸ h.world, hboard, h.events.idle, ⟨row, hrow.line, hrow.ready⟩, h.taken, h.output⟩

namespace Booting

theorem plain (h : Booting R d n s) : Plain s.board.ledState := by
  rw [← plain_mainLeds, h.leds]
  exact plain_indicatorLeds n

theorem timer1 (h : Booting R d n s) : Booting R d n s.handleTimer1Interrupt :=
  ⟨h.toIdling.timer1, (timer1_leds h.scanning h.plain).trans h.leds, h.indicator⟩

theorem timer3 (h : Booting R d n s) : Booting R d (n + 1) s.handleTimer3Interrupt := by
  have hindicator := (timer3_polls s.threeboard s.pinb).indicator
  rw [h.indicator] at hindicator
  have hnext : mainLeds s.handleTimer3Interrupt.board.ledState = indicatorLeds (n + 1) ∧
      s.handleTimer3Interrupt.threeboard.bootIndicator = indicatorAt (n + 1) := by
    by_cases hn : n < 40
    · rw [if_pos (indicator_running hn)] at hindicator
      have hpoll := indicator_poll hn
      rw [← h.leds] at hpoll
      obtain ⟨hleds, hstatus⟩ := mainLeds_lights (indicatorAt n) s.board.ledState
      rw [hpoll] at hleds hstatus
      exact ⟨(congrArg (fun p => mainLeds p.2) hindicator).trans hleds,
        (congrArg Prod.fst hindicator).trans hstatus⟩
    · obtain ⟨hat, hoff⟩ := indicator_finished (not_lt.mp hn)
      obtain ⟨hat', hoff'⟩ := indicator_finished (Nat.le_succ_of_le (not_lt.mp hn))
      rw [hat, if_neg (by simp)] at hindicator
      rw [hat', hoff', ← hoff]
      exact ⟨(congrArg (fun p => mainLeds p.2) hindicator).trans h.leds, congrArg Prod.fst hindicator⟩
  exact ⟨h.toIdling.timer3, hnext.1, hnext.2⟩

theorem run (h : Booting R d n s) {turns : List Turn}
    (hturns : ∀ t ∈ turns, t = .timer1 ∨ t = .timer3) :
    Booting R d (n + turns.count .timer3) (s.run d sent turns) := by
  induction turns generalizing n s with
  | nil => exact h
  | cons t turns ih =>
    have hrest := fun u hu => hturns u (List.mem_cons_of_mem _ hu)
    rcases hturns t (List.mem_cons_self ..) with rfl | rfl
    · have hrun := ih h.timer1 hrest
      rw [List.count_cons_of_ne (by simp)]
      exact hrun
    · have hrun := ih h.timer3 hrest
      rw [List.count_cons_self, Nat.add_comm _ 1, ← Nat.add_assoc]
      exact hrun

variable (d sent) in
theorem scan_run {led : LedState} {row : Fin 5} {k : ℕ} (h : Booting R d n s)
    (hshown : Refreshed led row k s) (m : ℕ) :
    Booting R d n (s.run d sent (List.replicate m .timer1)) ∧
      Refreshed led row (k + m) (s.run d sent (List.replicate m .timer1)) := by
  induction m generalizing k s with
  | zero => exact ⟨h, hshown⟩
  | succ m ih =>
    have hrun := ih h.timer1 (hshown.timer1 h.plain)
    rw [Nat.add_right_comm, Nat.add_assoc] at hrun
    exact hrun

end Booting

def powered (world : σ) (device : Simulator.DeviceState) : Simulation σ where
  threeboard := { eventBuffer := { event := .inactive }, bootIndicator := ⟨1, 13⟩, board := .boot world }
  simavr := ⟨⟨0b1110, 0, 0, 0⟩, device⟩

theorem lowKeys_released : lowKeys 0b1110 = ∅ := by decide +kernel

theorem powered_idling {world : σ} (h : R world ⟨Shortcuts.empty, []⟩) :
    Idling R d (powered world {}) where
  world := h
  board := rfl
  events := ⟨lowKeys_released, ⟨∅, ∅, rfl, rfl⟩, rfl, by simp [Handling, powered]⟩
  scanning := ⟨0, following_start quiet_at_power_up {}⟩
  taken := rfl
  output := rfl

theorem powered_booting {world : σ} (h : R world ⟨Shortcuts.empty, []⟩) :
    Booting R d 0 (powered world {}) :=
  { powered_idling h with leds := rfl, indicator := rfl }

theorem bench_faultless : Faultless (.start erased fun _ => .succeed) ⟨Shortcuts.empty, []⟩ :=
  ⟨Bench.start_represents _, fun _ => rfl, rfl⟩

variable (sent) in
-- R, G and B are lit in turn for 13 polls each, whatever scans come in between, and five scans
-- without a poll show it; from the 40th poll on the indicator leaves the LEDs alone.
theorem boot_indicator_shown (h : Booting R d 0 s) {turns : List Turn}
    (hturns : ∀ t ∈ turns, t = .timer1 ∨ t = .timer3) :
    let polls := turns.count .timer3
    let booted := s.run d sent turns
    booted.threeboard.bootIndicator = indicatorAt polls ∧
      mainLeds booted.board.ledState = indicatorLeds polls ∧
      (booted.run d sent (List.replicate 5 .timer1)).simavr.deviceState.toDeviceState =
        ledsOf (indicatorLeds polls) [] := by
  intro polls booted
  have hbooting : Booting R d polls booted := Nat.zero_add polls ▸ h.run hturns
  refine ⟨hbooting.indicator, hbooting.leds, ?_⟩
  obtain ⟨row, hrow⟩ := hbooting.scanning
  have hstart : Refreshed (indicatorLeds polls) row 0 booted := by
    refine ⟨?_, ?_, fun i hi => (Nat.not_lt_zero i hi).elim⟩
    · exact (congrArg mainLeds hbooting.leds :)
    · have hzero : row + Fin.ofNat 5 0 = row := by simp
      rwa [hzero]
  obtain ⟨hend, hscans⟩ := hbooting.scan_run d sent hstart 5
  have hshown : (booted.run d sent (List.replicate 5 .timer1)).simavr.deviceState.shown =
      rows (indicatorLeds polls) := by
    funext i
    obtain ⟨k, hk, rfl⟩ := row_within row i
    exact hscans.shown k (by omega)
  rw [ledsOf_of_rows hshown, hend.output]

theorem boot_indicator_shown_green :
    ((((powered (.start erased fun _ => .succeed) {}).run faultyDevices Bench.keypresses
      (List.replicate 14 .timer3)).run faultyDevices Bench.keypresses
      (List.replicate 5 .timer1)).simavr.deviceState.toDeviceState) =
        ledsOf (indicatorLeds 14) [] := by
  have htimers : ∀ t ∈ List.replicate 14 Turn.timer3, t = .timer1 ∨ t = .timer3 := by simp
  have hcount : (List.replicate 14 Turn.timer3).count .timer3 = 14 := by decide
  have hstart : Booting Faultless faultyDevices 0 (powered _ {}) := powered_booting bench_faultless
  have hshown := (boot_indicator_shown Bench.keypresses hstart htimers).2.2
  rwa [hcount] at hshown

end Threeboard.Integration
