import Threeboard.Leds.Matrix

namespace Threeboard.Leds

open Actions LedController Mcu Ports PortMod Runs

structure Probe where
  ports : Ports
  earlier : List Ports := []
  deriving DecidableEq, Repr

namespace Probe

def history (s : Probe) : List Ports := (s.ports :: s.earlier).reverse

def native : Native Probe where
  getRegister r s := (s.ports.get r, s)
  setRegister r value s := ⟨s.ports.put r value, s.ports :: s.earlier⟩

end Probe

inductive Setter where
  | bank0 (val : UInt8)
  | bank1 (val : UInt8)
  | r (state : State)
  | g (state : State)
  | b (state : State)
  | prog (state : State)
  | err (state : State)
  | status (state : State)
  deriving DecidableEq, Repr

def Setter.apply : Setter → LedState → LedState
  | bank0 val => LedState.setBank0 val
  | bank1 val => LedState.setBank1 val
  | r state => LedState.setR state
  | g state => LedState.setG state
  | b state => LedState.setB state
  | prog state => LedState.setProg state
  | err state => LedState.setErr state
  | status state => LedState.setStatus state

inductive Call where
  | scanNextLine
  | updateBlinkStatus
  | set (setter : Setter)
  deriving DecidableEq, Repr

namespace LedController

variable {σ : Type}

def perform (native : Native σ) : Call → Action (LedController σ) Unit
  | .scanNextLine => scanNextLine native
  | .updateBlinkStatus => updateBlinkStatus
  | .set setter => updateLedState setter.apply

def after (native : Native σ) (c : LedController σ) (call : Call) : LedController σ :=
  (perform native call c).2

end LedController

def nextRow (calls : List Call) : Fin 5 := Fin.ofNat 5 (calls.count .scanNextLine)

theorem perform_probe (m : PortMod) (s : Probe) :
    (m.perform Probe.native s).2 = ⟨s.ports.after m, s.ports :: s.earlier⟩ := by
  obtain ⟨port, _ | _, val⟩ := m <;> rfl

theorem performAll_probe {mods : List PortMod} {s : Probe}
    (h : Obeys Allowed s.ports (path Ports.after s.ports mods)) (hs : s.history.IsChain SafeWrite) :
    (performAll Probe.native mods s).history.IsChain SafeWrite ∧
      (performAll Probe.native mods s).ports = mods.foldl Ports.after s.ports := by
  induction mods generalizing s with
  | nil => exact ⟨hs, rfl⟩
  | cons m rest ih =>
    rw [performAll_cons, perform_probe]
    refine ih h.2 ?_
    simp only [Probe.history, List.isChain_reverse, List.isChain_cons_cons] at hs ⊢
    exact ⟨h.1, hs⟩

structure Scanning (row : Fin 5) (c : LedController Probe) : Prop where
  line : c.nextScanLine = scanLine row
  resting : resting row c.hardware.ports
  history : c.hardware.history.IsChain SafeWrite

theorem Scanning.scan {row : Fin 5} {c : LedController Probe} (h : Scanning row c) :
    Scanning (row + 1) (c.after Probe.native .scanNextLine) ∧
      Showing row (c.shown row) (c.after Probe.native .scanNextLine).hardware.ports := by
  obtain ⟨hobeys, hshow, hrest⟩ := scanMods_lead c row _ h.resting
  obtain ⟨hhistory, hports⟩ := performAll_probe hobeys h.history
  rw [LedController.after, LedController.perform, scanNextLine_run Probe.native h.line]
  rw [← hports] at hshow hrest
  exact ⟨⟨rfl, hrest, hhistory⟩, hshow⟩

def Ports.Quiet (p : Ports) : Prop := ∀ pin, (∀ k, pin ≠ .key k) → p.high pin = false

theorem quiet_at_power_up : (⟨0b1110, 0, 0, 0⟩ : Ports).Quiet := by
  intro pin
  revert pin
  decide

theorem scanning_start {p : Ports} (h : p.Quiet) :
    Scanning 0 ({ hardware := ⟨p, []⟩ } : LedController Probe) where
  line := rfl
  resting := ⟨fun i j hi => by simp [h (.row i)] at hi, by simp [h .status], by simp [h .err]⟩
  history := by simp [Probe.history]

theorem nextRow_scan (calls : List Call) :
    nextRow (calls ++ [.scanNextLine]) = nextRow calls + 1 := by
  simp [nextRow, Fin.ext_iff, Fin.val_add]

theorem nextRow_other (calls : List Call) {call : Call} (h : call ≠ .scanNextLine) :
    nextRow (calls ++ [call]) = nextRow calls := by
  simp [nextRow, h]

theorem scanning_run {start : Ports} (h : start.Quiet) (calls : List Call) :
    Scanning (nextRow calls)
      (calls.foldl (LedController.after Probe.native) { hardware := ⟨start, []⟩ }) := by
  induction calls using List.reverseRecOn with
  | nil => exact scanning_start h
  | append_singleton calls call ih =>
    rw [List.foldl_append]
    cases call with
    | scanNextLine => exact nextRow_scan calls ▸ ih.scan.1
    | updateBlinkStatus =>
      rw [nextRow_other calls (by simp)]
      exact ⟨ih.line, ih.resting, ih.history⟩
    | set setter =>
      rw [nextRow_other calls (by simp)]
      exact ⟨ih.line, ih.resting, ih.history⟩

theorem led_matrix_safe (start : Ports) (h : start.Quiet) (calls : List Call) :
    let c : LedController Probe :=
      calls.foldl (LedController.after Probe.native) { hardware := ⟨start, []⟩ }
    c.hardware.history.IsChain SafeWrite ∧
      ∀ earlier, calls = earlier ++ [.scanNextLine] →
        Showing (nextRow earlier)
          ((earlier.foldl (LedController.after Probe.native)
            { hardware := ⟨start, []⟩ }).shown (nextRow earlier)) c.hardware.ports := by
  intro c
  refine ⟨(scanning_run h calls).history, ?_⟩
  rintro earlier rfl
  have hscan := (scanning_run h earlier).scan.2
  simpa [c] using hscan

theorem led_matrix_safe_at_power_up :
    (⟨0b1110, 0, 0, 0⟩ : Ports).Quiet ∧
      (([.set (.status .on), .scanNextLine, .set (.err .on), .scanNextLine].foldl
        (LedController.after Probe.native)
        { hardware := ⟨⟨0b1110, 0, 0, 0⟩, []⟩ } : LedController Probe).hardware.history).IsChain
          SafeWrite :=
  ⟨quiet_at_power_up, (led_matrix_safe _ quiet_at_power_up _).1⟩

end Threeboard.Leds
