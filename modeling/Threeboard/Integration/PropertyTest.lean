import Threeboard.Integration.Attached
import Threeboard.Integration.Booting

namespace Threeboard.Integration

open Actions Bursts Events Keys Layers Leds Runs Simulator Storage

variable {σ : Type} {R : σ → Ideal → Prop} {d : Devices σ} {sent : σ → List (UInt8 × UInt8)}
  {Fits : Cursors → Keypress → Prop} {n : ℕ} {s : Simulation σ}

theorem Booting.resting (h : Booting R d n s) (hn : 40 ≤ n) :
    Resting R d ⟨{}, ⟨Shortcuts.empty, []⟩⟩ s := by
  obtain ⟨hat, hoff⟩ := indicator_finished hn
  have hmirrors : Mirrors R (unlit s.board) (Board.boot ⟨Shortcuts.empty, []⟩) := by
    rw [h.board]
    exact ⟨rfl, rfl, rfl, rfl, rfl, rfl, h.world⟩
  have hboot : Holds R ⟨{}, ⟨Shortcuts.empty, []⟩⟩ (unlit s.board) :=
    ⟨_, hmirrors, boot_ready _, rfl⟩
  have hleds : mainLeds s.board.ledState = mainLeds (unlit s.board).ledState := h.leds.trans hoff
  refine ⟨⟨hboot.setLeds hleds, h.plain, ?_, h.scanning, ?_, ?_⟩, h.events⟩
  · rw [h.indicator, hat]
  · rw [h.taken]
    exact ⟨le_rfl, le_rfl⟩
  · rw [h.taken, h.output]
    rfl

theorem modelled_boot : Modelled {} ⟨{}, ⟨Shortcuts.empty, []⟩⟩ where
  oneProg := boot_oneProg (⟨Shortcuts.empty, []⟩ : Ideal)
  blobId := UInt8.le_iff_toNat_le.mpr (Nat.zero_le _)
  matching := ⟨fun _ => [], fun _ => rfl, rfl⟩

structure Testing (σ : Type) where
  simulation : Simulation σ
  content : Content

def Testing.start (s : Simulation σ) : Testing σ := ⟨s, {}, ⟨Shortcuts.empty, []⟩⟩

section Rounds

variable (d sent Fits)

def Testing.play (t : Testing σ) (r : Round) : DeviceState × Testing σ :=
  let (state, simulation) := r.applyToSimulator d sent t.simulation
  (state, ⟨simulation, t.content.press r.keypress⟩)

def applyToModel (m : ThreeboardModel) (r : Round) : DeviceState × ThreeboardModel :=
  m.press r.keypress

def Content.parts (c : Content) (k : Keypress) : Prop :=
  Parts c.cursors (fun id => (c.world.shortcuts.words id).1)
    (fun id => (c.world.shortcuts.blobs id).1) k

instance (c : Content) (k : Keypress) : Decidable (c.parts k) :=
  inferInstanceAs (Decidable (Parts ..))

-- A round of the property test: the keypress is one the generator draws, the passes between its
-- steps suffice, and it is not one of those from which firmware and model part.
structure Fair (t : Testing σ) (r : Round) : Prop where
  keypress : r.keypress ≠ .inactive
  reliable : r.Reliable d sent t.simulation
  agrees : ¬ t.content.parts r.keypress
  fits : Fits t.content.cursors r.keypress

instance [∀ c k, Decidable (Fits c k)] (t : Testing σ) (r : Round) :
    Decidable (Fair d sent Fits t r) :=
  decidable_of_iff (r.keypress ≠ .inactive ∧ r.Reliable d sent t.simulation ∧
      ¬ t.content.parts r.keypress ∧ Fits t.content.cursors r.keypress)
    ⟨fun ⟨h1, h2, h3, h4⟩ => ⟨h1, h2, h3, h4⟩,
      fun h => ⟨h.keypress, h.reliable, h.agrees, h.fits⟩⟩

variable {d sent Fits}

def Testing.Good (R : σ → Ideal → Prop) (d : Devices σ) (t : Testing σ) (m : ThreeboardModel) : Prop :=
  Resting R d t.content t.simulation ∧ Modelled m t.content

theorem fair_round (hi : Implements R d sent Fits) {t : Testing σ} {m : ThreeboardModel} {r : Round}
    (h : t.Good R d m) (hr : Fair d sent Fits t r) :
    (t.play d sent r).1 = (applyToModel m r).1 ∧
      (t.play d sent r).2.Good R d (applyToModel m r).2 := by
  obtain ⟨hresting, hmodel⟩ := h
  obtain ⟨hseen, hnext⟩ := round_observes hi hresting hr.reliable hr.keypress hr.fits
  obtain ⟨hsame, hmatch⟩ := hmodel.observed (hi.inRange _ _ hr.fits) hr.agrees
  exact ⟨hseen.trans hsame, hnext, hmatch⟩

theorem rounds_pass (hi : Implements R d sent Fits) (hstart : Booting R d n s) (hn : 40 ≤ n)
    {rounds : List Round} (hfair : Obeys (Fair d sent Fits) (.start s)
      (path (fun t r => (t.play d sent r).2) (.start s) rounds)) :
    trace (fun s r => r.applyToSimulator d sent s) s rounds = trace applyToModel {} rounds := by
  have hgood : (Testing.start s).Good R d {} := ⟨hstart.resting hn, modelled_boot⟩
  have hsame := (trace_eq_of_obeys (fun _ _ _ => fair_round hi) hgood hfair).1
  rw [← hsame]
  have hplay (s : Simulation σ) (t : Testing σ) (r : Round) (h : t.simulation = s) :
      (r.applyToSimulator d sent s).1 = (t.play d sent r).1 ∧
        (t.play d sent r).2.simulation = (r.applyToSimulator d sent s).2 := by
    subst h
    exact ⟨rfl, rfl⟩
  have hstart : (Testing.start s).simulation = s := rfl
  exact (trace_eq_of_simulation hplay hstart rounds).1

end Rounds

-- Whatever the interrupts do between the steps of a round, the device state at its end is that of
-- the reference model, from the time the boot indicator has run: with the storage that the
-- simulator gives the keyboard, down to the transfers on the bus.
theorem property_test_passes {codes : I2c.StatusCodes} (hcodes : Telling codes) {polls : ℕ}
    {s : Simulation Machine} (hstart : Booting (Stores polls) (machineDevices codes polls) 0 s)
    {boot : List Turn} (hboot : ∀ t ∈ boot, t = .timer1 ∨ t = .timer3)
    (hpolls : 40 ≤ boot.count .timer3) (rounds : List Round) :
    let d := machineDevices codes polls
    let booted := s.run d Machine.keypresses boot
    Obeys (Fair d Machine.keypresses MachineFits) (.start booted)
        (path (fun t r => (t.play d Machine.keypresses r).2) (.start booted) rounds) →
      trace (fun s r => r.applyToSimulator d Machine.keypresses s) booted rounds =
        trace applyToModel {} rounds := by
  intro d booted hfair
  exact rounds_pass (machine_implements hcodes) (hstart.run hboot) (by omega) hfair

def pressX : Round :=
  ⟨.x, [.timer3], [.timer3, .iterate, .timer1During {}, .finish], List.replicate 5 .timer1⟩

def pressZ : Round :=
  ⟨.z, [.timer1, .timer3], [.timer3, .timer3, .iterate, .finish, .wake],
    .usbOutput :: List.replicate 5 .timer1⟩

def typeA : List Round := [pressX, pressX, pressX, pressX, pressZ]

def erasedMachine : Machine :=
  .start (fun _ => 0xFF) (.reset ⟨0, .attached .eeprom0 (fun _ => 0) .write⟩) 0 (fun _ => 0) .write

def machineBooted : Simulation Machine :=
  (powered erasedMachine {}).run (machineDevices simpleCodes 1) Machine.keypresses
    (List.replicate 40 .timer3)

theorem property_test_passes_typing_a :
    trace (fun s r => r.applyToSimulator (machineDevices simpleCodes 1) Machine.keypresses s)
      machineBooted typeA = trace applyToModel {} typeA := by
  have hworld : Stores 1 erasedMachine ⟨Shortcuts.empty, []⟩ := stores_start Nat.one_pos 0 _ .write
  have hstart : Booting (Stores 1) (machineDevices simpleCodes 1) 0 (powered erasedMachine {}) :=
    powered_booting hworld
  exact property_test_passes telling_simpleCodes hstart (by simp) (by simp) typeA
    (by decide +kernel)

end Threeboard.Integration
