import Threeboard.Layers.LedWrites
import Threeboard.Simulator.Simulation

namespace Threeboard.Simulator

open Actions Keys Layers Leds LedController

def mainLeds (led : LedState) : LedState := { led with ledErr := .of .off, ledStatus := .of .off }

def Plain (led : LedState) : Prop :=
  ∀ which ∈ ticking 4, (led.get which).state = .on ∨ (led.get which).state = .off

def rows (led : LedState) : Fin 5 → Fin 4 → Bool :=
  ![highNibble led.bank0, lowNibble led.bank0, highNibble led.bank1, lowNibble led.bank1,
    ![decide (led.ledR.state = .on), decide (led.ledG.state = .on), decide (led.ledB.state = .on),
      decide (led.ledProg.state = .on)]]

theorem plain_congr {led other : LedState} (h : mainLeds led = mainLeds other) :
    Plain led ↔ Plain other := by
  have hr := congrArg LedState.ledR h
  have hg := congrArg LedState.ledG h
  have hb := congrArg LedState.ledB h
  have hprog := congrArg LedState.ledProg h
  simp only [mainLeds] at hr hg hb hprog
  simp [Plain, ticking, LedState.get, hr, hg, hb, hprog]

theorem plain_mainLeds (led : LedState) : Plain (mainLeds led) ↔ Plain led :=
  plain_congr (show mainLeds (mainLeds led) = mainLeds led from rfl)

theorem rows_congr {led other : LedState} (h : mainLeds led = mainLeds other) :
    rows led = rows other := by
  have hmain : ∀ led, rows led = rows (mainLeds led) := fun _ => rfl
  rw [hmain, h, ← hmain]

theorem plain_boot : Plain {} := by
  intro which _
  cases which <;> exact .inr rfl

theorem plain_invariant : LedInvariant Plain where
  display prog layerId bank0 bank1 led _ := by
    cases prog <;> cases layerId <;>
      simp [Plain, ticking, LedState.get, LedState.setProg, LedState.setBank1, LedState.setBank0,
        Layer.showLayerId, LedState.setR, LedState.setG, LedState.setB, FullState.of]
  err state led h := by
    have hmain : mainLeds (led.setErr state) = mainLeds led := rfl
    exact (plain_congr hmain).mpr h

theorem tick_plain {full : FullState} (h : full.state = .on ∨ full.state = .off) :
    full.tick = full := by
  rcases h with h | h <;> simp [FullState.tick, h]

theorem mainLeds_put {led : LedState} (h : Plain led) (which : Led) :
    mainLeds (led.put which (led.get which).tick) = mainLeds led := by
  by_cases hwhich : which ∈ ticking 4
  · rw [tick_plain (h which hwhich), put_get]
  · cases which <;> first | rfl | simp [ticking] at hwhich

theorem mainLeds_tick {led : LedState} (h : Plain led) (leds : List Led) :
    mainLeds (led.tick leds) = mainLeds led := by
  induction leds generalizing led with
  | nil => rfl
  | cons which rest ih =>
    have hput := mainLeds_put h which
    exact (ih ((plain_congr hput).mpr h)).trans hput

theorem shown_of_plain {σ : Type} {c : LedController σ} (h : Plain c.state) :
    c.shown = rows c.state := by
  have hlit : ∀ which ∈ ticking 4, c.lit which = decide ((c.state.get which).state = .on) := by
    intro which hwhich
    rcases h which hwhich with hon | hoff
    · simp [lit, FullState.lit, hon]
    · simp [lit, FullState.lit, hoff]
  rw [LedController.shown, hlit .r (by simp [ticking]), hlit .g (by simp [ticking]),
    hlit .b (by simp [ticking]), hlit .prog (by simp [ticking])]
  rfl

theorem state_scan {c : LedController Simulated} {row : Fin 5} (h : Following row c) :
    (c.after simavr .scanNextLine).state = c.state.tick (ticking row) := by
  rw [LedController.after, LedController.perform, scanNextLine_run simavr h.line]

theorem usbBuffer_foldl (mods : List PortMod) (s : Simulated) :
    (mods.foldl Simulated.after s).deviceState.usbBuffer = s.deviceState.usbBuffer := by
  induction mods generalizing s with
  | nil => rfl
  | cons m rest ih =>
    rw [List.foldl_cons, ih, after_eq]
    cases decodedRow m.port (s.data.after m) with
    | none => rfl
    | some row =>
      match row with
      | 0 | 1 | 2 | 3 | 4 => rfl

theorem usbBuffer_scan {c : LedController Simulated} {row : Fin 5} (h : Following row c) :
    (c.after simavr .scanNextLine).hardware.deviceState.usbBuffer =
      c.hardware.deviceState.usbBuffer := by
  rw [LedController.after, LedController.perform, scanNextLine_run simavr h.line]
  exact usbBuffer_foldl _ _

end Threeboard.Simulator
