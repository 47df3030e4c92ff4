import Threeboard.Leds.LedController
import Threeboard.Library.Bytes
import Mathlib.Data.Fin.VecNotation
import Mathlib.Data.Fintype.Basic

namespace Threeboard.Leds

open Actions Mcu

variable {σ : Type}

structure PortMod where
  port : Register
  enables : Bool
  val : UInt8
  deriving DecidableEq, Repr

namespace PortMod

def perform (native : Native σ) (m : PortMod) : Action σ Unit :=
  if m.enables then native.enable m.port m.val else native.disable m.port m.val

def performAll (native : Native σ) (mods : List PortMod) (s : σ) : σ :=
  mods.foldl (fun s m => (m.perform native s).2) s

@[simp] theorem performAll_nil (native : Native σ) (s : σ) : performAll native [] s = s := rfl

@[simp] theorem performAll_cons (native : Native σ) (m : PortMod) (mods : List PortMod) (s : σ) :
    performAll native (m :: mods) s = performAll native mods (m.perform native s).2 := rfl

theorem performAll_append (native : Native σ) (mods more : List PortMod) (s : σ) :
    performAll native (mods ++ more) s = performAll native more (performAll native mods s) := by
  simp [performAll]

theorem enable_eq (native : Native σ) (port : Register) (val : UInt8) :
    native.enable port val = perform native ⟨port, true, val⟩ := rfl

theorem disable_eq (native : Native σ) (port : Register) (val : UInt8) :
    native.disable port val = perform native ⟨port, false, val⟩ := rfl

theorem perform_run (native : Native σ) (m : PortMod) (s : σ) :
    m.perform native s = (some (), performAll native [m] s) := by
  obtain ⟨port, _ | _, val⟩ := m <;> rfl

end PortMod

open PortMod

def FullState.tick (full : FullState) : FullState :=
  if full.state = .pulse then
    ⟨if full.pulseTimer + 1 = 0 then .off else .pulse, full.pulseTimer + 1⟩
  else full

def FullState.lit (blinking : Bool) (full : FullState) : Bool :=
  full.state = .on ∨ full.state = .blink ∧ blinking ∨
    full.state = .pulse ∧ full.pulseTimer + 1 ≠ 0

def LedState.tick (leds : List Led) (led : LedState) : LedState :=
  leds.foldl (fun led which => led.put which (led.get which).tick) led

namespace LedController

def lit (c : LedController σ) (which : Led) : Bool :=
  (c.state.get which).lit c.shouldEnableBlinkingLed

def Emits (native : Native σ) (x : Action σ Unit) (mods : List PortMod) : Prop :=
  ∀ s, x s = (some (), performAll native mods s)

theorem Emits.bind {native : Native σ} {x : Action σ Unit} {f : Unit → Action σ Unit}
    {mods more : List PortMod} (hx : Emits native x mods) (hf : Emits native (f ()) more) :
    Emits native (x >>= f) (mods ++ more) := by
  intro s
  rw [Action.bind_of_some (hx s), hf, performAll_append]

def when (b : Bool) (m : PortMod) : List PortMod := if b then [m] else []

theorem onHardware_perform (native : Native σ) (m : PortMod) (c : LedController σ) :
    onHardware (m.perform native) c =
      (some (), { c with hardware := performAll native [m] c.hardware }) := by
  rw [onHardware, Action.zoom_run, perform_run]

theorem put_get (led : LedState) (which : Led) : led.put which (led.get which) = led := by
  cases which <;> rfl

theorem applyLedState_run (native : Native σ) (port : Register) (enables : Bool) (val : UInt8)
    (which : Led) (c : LedController σ) :
    applyLedState (fun val => perform native ⟨port, enables, val⟩) val which c =
      (some (), { c with
        state := c.state.tick [which]
        hardware := performAll native (when (c.lit which) ⟨port, enables, val⟩) c.hardware }) := by
  rcases hfull : c.state.get which with ⟨state, timer⟩
  have hkeep := put_get c.state which
  rw [hfull] at hkeep
  cases state with
  | off => simp [applyLedState, lit, when, LedState.tick, FullState.tick, FullState.lit, hfull, hkeep]
  | on => simp [applyLedState, lit, when, LedState.tick, FullState.tick, FullState.lit, hfull, hkeep,
      onHardware_perform]
  | blink =>
    cases hb : c.shouldEnableBlinkingLed <;>
      simp [applyLedState, lit, when, LedState.tick, FullState.tick, FullState.lit, hfull, hkeep,
        onHardware_perform, hb]
  | pulse =>
    by_cases ht : timer + 1 = 0 <;>
      simp [applyLedState, lit, when, LedState.tick, FullState.tick, FullState.lit, hfull,
        onHardware_perform, putState, ht]

def columnOff : Fin 4 → PortMod :=
  ![⟨.PORTF, false, bit PF0⟩, ⟨.PORTF, false, bit PF1⟩, ⟨.PORTF, false, bit PF4⟩,
    ⟨.PORTF, false, bit PF5⟩]

def rowOn : Fin 5 → PortMod :=
  ![⟨.PORTD, true, bit PD7⟩, ⟨.PORTB, true, bit PB4⟩, ⟨.PORTD, true, bit PD6⟩,
    ⟨.PORTD, true, bit PD4⟩, ⟨.PORTB, true, bit PB5⟩]

def clearMods : List PortMod :=
  [⟨.PORTB, false, 0b00110000⟩, ⟨.PORTD, false, 0b11010000⟩, ⟨.PORTF, true, 0b00110011⟩]

def columnMods (lits : Fin 4 → Bool) : List PortMod :=
  (List.finRange 4).flatMap fun i => when (lits i) (columnOff i)

theorem mem_columnMods {lits : Fin 4 → Bool} {m : PortMod} (h : m ∈ columnMods lits) :
    ∃ j, m = columnOff j := by
  obtain ⟨j, -, hj⟩ := List.mem_flatMap.mp h
  cases hlit : lits j <;> simp only [when, hlit] at hj
  · simp at hj
  · exact ⟨j, List.mem_singleton.mp hj⟩

def bankBit (bank n : UInt8) : Bool := bank &&& bit n ≠ 0

def shown (c : LedController σ) : Fin 5 → Fin 4 → Bool :=
  ![![bankBit c.state.bank0 7, bankBit c.state.bank0 6, bankBit c.state.bank0 5,
      bankBit c.state.bank0 4],
    ![bankBit c.state.bank0 3, bankBit c.state.bank0 2, bankBit c.state.bank0 1,
      bankBit c.state.bank0 0],
    ![bankBit c.state.bank1 7, bankBit c.state.bank1 6, bankBit c.state.bank1 5,
      bankBit c.state.bank1 4],
    ![bankBit c.state.bank1 3, bankBit c.state.bank1 2, bankBit c.state.bank1 1,
      bankBit c.state.bank1 0],
    ![c.lit .r, c.lit .g, c.lit .b, c.lit .prog]]

def statusMods (c : LedController σ) : Fin 5 → List PortMod
  | 0 => when (c.lit .status) ⟨.PORTB, true, bit PB6⟩
  | 1 => ⟨.PORTB, false, bit PB6⟩ :: when (c.lit .err) ⟨.PORTC, true, bit PC6⟩
  | 2 => [⟨.PORTC, false, bit PC6⟩]
  | _ => []

def ticking : Fin 5 → List Led
  | 0 => [.status]
  | 1 => [.err]
  | 4 => [.r, .g, .b, .prog]
  | _ => []

def beforeRow (c : LedController σ) (row : Fin 5) : List PortMod :=
  c.statusMods row ++ (clearMods ++ columnMods (c.shown row))

def scanMods (c : LedController σ) (row : Fin 5) : List PortMod := c.beforeRow row ++ [rowOn row]

def scanLine (row : Fin 5) : UInt8 := UInt8.ofNat row

variable (native : Native σ)

theorem writeStatusAndErr_run (row : Fin 5) (c : LedController σ) :
    writeStatusAndErr native (scanLine row) c = (some (), { c with
      state := if row.val < 2 then c.state.tick (ticking row) else c.state
      hardware := performAll native (c.statusMods row) c.hardware }) := by
  match row with
  | 0 => exact applyLedState_run native .PORTB true (bit PB6) .status c
  | 1 =>
    refine (Action.bind_of_some (onHardware_perform native ⟨.PORTB, false, bit PB6⟩ c) _).trans ?_
    exact applyLedState_run native .PORTC true (bit PC6) .err _
  | 2 => exact onHardware_perform native ⟨.PORTC, false, bit PC6⟩ c
  | 3 => rfl
  | 4 => rfl

theorem writeColumn_emits (c : Prop) [Decidable c] (m : PortMod) {rest : Action σ Unit}
    {mods : List PortMod} (h : Emits native rest mods) :
    Emits native (if c then (do m.perform native; rest) else rest) (when c m ++ mods) := by
  by_cases hc : c
  · simpa [hc, when] using Emits.bind (perform_run native m) h
  · simpa [hc, when] using h

theorem emits_nothing : Emits native (pure ()) [] := fun _ => rfl

theorem writeColumns_emits (vals : UInt8) :
    Emits native (writeColumns native vals) (columnMods
      ![decide (vals &&& 8 ≠ 0), decide (vals &&& 4 ≠ 0), decide (vals &&& 2 ≠ 0),
        decide (vals &&& 1 ≠ 0)]) := by
  have hlast := writeColumn_emits native (vals &&& 1 ≠ 0) (columnOff 3) (emits_nothing native)
  exact writeColumn_emits native _ (columnOff 0) (writeColumn_emits native _ (columnOff 1)
    (writeColumn_emits native _ (columnOff 2) hlast))

theorem bank_high (bank : UInt8) :
    ![decide (bank >>> 4 &&& 8 ≠ 0), decide (bank >>> 4 &&& 4 ≠ 0), decide (bank >>> 4 &&& 2 ≠ 0),
      decide (bank >>> 4 &&& 1 ≠ 0)] =
    ![bankBit bank 7, bankBit bank 6, bankBit bank 5, bankBit bank 4] := by
  revert bank
  exact Bytes.forall_byte (by decide +kernel)

theorem bank_low (bank : UInt8) :
    ![decide (bank &&& 8 ≠ 0), decide (bank &&& 4 ≠ 0), decide (bank &&& 2 ≠ 0),
      decide (bank &&& 1 ≠ 0)] =
    ![bankBit bank 3, bankBit bank 2, bankBit bank 1, bankBit bank 0] := rfl

theorem writeBank_run (vals : UInt8) (m : PortMod) (lits : Fin 4 → Bool) (c : LedController σ)
    (h : ![decide (vals &&& 8 ≠ 0), decide (vals &&& 4 ≠ 0), decide (vals &&& 2 ≠ 0),
      decide (vals &&& 1 ≠ 0)] = lits) :
    onHardware (do writeColumns native vals; m.perform native) c = (some (), { c with
      hardware := performAll native (columnMods lits ++ [m]) c.hardware }) := by
  subst h
  have hall := Emits.bind (f := fun _ => m.perform native) (writeColumns_emits native vals)
    (perform_run native m)
  rw [onHardware, Action.zoom_run, hall]

theorem get_put_of_ne {which other : Led} (h : which ≠ other) (full : FullState)
    (led : LedState) : (led.put which full).get other = led.get other := by
  cases which <;> cases other <;> first | rfl | exact (h rfl).elim

theorem lit_tick {which other : Led} (h : which ≠ other) (c : LedController σ) (s : σ) :
    ({ c with state := c.state.tick [which], hardware := s } : LedController σ).lit other =
      c.lit other := by
  simp [lit, LedState.tick, get_put_of_ne h, shouldEnableBlinkingLed]

theorem applyColumn_run (port : Fin 4) (which : Led) (c : LedController σ) :
    applyLedState native.disablePORTF (columnOff port).val which c =
      (some (), { c with
        state := c.state.tick [which]
        hardware := performAll native (when (c.lit which) (columnOff port)) c.hardware }) := by
  match port with
  | 0 => exact applyLedState_run native .PORTF false (bit PF0) which c
  | 1 => exact applyLedState_run native .PORTF false (bit PF1) which c
  | 2 => exact applyLedState_run native .PORTF false (bit PF4) which c
  | 3 => exact applyLedState_run native .PORTF false (bit PF5) which c

theorem writeLeds_run (c : LedController σ) :
    (do applyLedState native.disablePORTF (bit PF0) .r
        applyLedState native.disablePORTF (bit PF1) .g
        applyLedState native.disablePORTF (bit PF4) .b
        applyLedState native.disablePORTF (bit PF5) .prog
        onHardware (native.enablePORTB (bit PB5)) : Action (LedController σ) Unit) c =
      (some (), { c with
        state := c.state.tick (ticking 4)
        hardware := performAll native (columnMods (c.shown 4) ++ [rowOn 4]) c.hardware }) := by
  refine (Action.bind_of_some (applyColumn_run native 0 .r c) _).trans ?_
  refine (Action.bind_of_some (applyColumn_run native 1 .g _) _).trans ?_
  refine (Action.bind_of_some (applyColumn_run native 2 .b _) _).trans ?_
  refine (Action.bind_of_some (applyColumn_run native 3 .prog _) _).trans ?_
  refine (onHardware_perform native (rowOn 4) _).trans ?_
  have hcolumns : columnMods (c.shown 4) = when (c.lit .r) (columnOff 0) ++
      (when (c.lit .g) (columnOff 1) ++ (when (c.lit .b) (columnOff 2) ++
        (when (c.lit .prog) (columnOff 3) ++ []))) := rfl
  simp only [hcolumns, performAll_append, ne_eq, reduceCtorEq, not_false_eq_true, lit_tick]
  rfl

theorem writeRow_run (row : Fin 5) (c : LedController σ) :
    writeRow native (scanLine row) c = (some (), { c with
      state := if row.val < 2 then c.state else c.state.tick (ticking row)
      hardware := performAll native (columnMods (c.shown row) ++ [rowOn row]) c.hardware }) := by
  match row with
  | 0 => exact writeBank_run native _ (rowOn 0) _ c (bank_high _)
  | 1 => exact writeBank_run native _ (rowOn 1) _ c (bank_low _)
  | 2 => exact writeBank_run native _ (rowOn 2) _ c (bank_high _)
  | 3 => exact writeBank_run native _ (rowOn 3) _ c (bank_low _)
  | 4 => exact writeLeds_run native c

theorem writeStateToPins_run (row : Fin 5) (c : LedController σ) :
    writeStateToPins native (scanLine row) c = (some (), { c with
      state := c.state.tick (ticking row)
      hardware := performAll native (c.scanMods row) c.hardware }) := by
  have hstatus := writeStatusAndErr_run native row c
  have hclear : ∀ c, onHardware (clearPins native) c =
      (some (), { c with hardware := performAll native clearMods c.hardware }) := fun _ => rfl
  refine (Action.bind_of_some hstatus _).trans ?_
  refine (Action.bind_of_some (hclear _) _).trans ((writeRow_run native row _).trans ?_)
  simp only [scanMods, beforeRow, performAll_append]
  match row with
  | 0 => rfl
  | 1 => rfl
  | 2 => rfl
  | 3 => rfl
  | 4 => rfl

theorem scanLine_succ (row : Fin 5) : (scanLine row + 1) % 5 = scanLine (row + 1) := by
  revert row
  decide

theorem scanNextLine_run {row : Fin 5} {c : LedController σ} (h : c.nextScanLine = scanLine row) :
    scanNextLine native c = (some (), { c with
      state := c.state.tick (ticking row)
      nextScanLine := scanLine (row + 1)
      hardware := performAll native (c.scanMods row) c.hardware }) := by
  refine (Action.gets_bind _ _ c).trans ((Action.modify_bind _ _ c).trans ?_)
  rw [h, scanLine_succ, writeStateToPins_run]
  rfl

end LedController

end Threeboard.Leds
