import Threeboard.Integration.ThreeboardModel
import Threeboard.Leds.Safety

namespace Threeboard.Simulator

open Actions Leds LedController Mcu Ports PortMod Runs

structure DeviceState extends Integration.DeviceState where
  ledErr : Bool := false
  ledStatus : Bool := false
  deriving DecidableEq, Repr

structure Simulated where
  data : Ports
  deviceState : DeviceState := {}

def isEnabled (reg pin : UInt8) : Bool := reg &&& bit pin ≠ 0

def columns (pf0 pf1 pf4 pf5 : Bool) : UInt8 :=
  pf0.toUInt8 <<< 3 ||| pf1.toUInt8 <<< 2 ||| pf4.toUInt8 <<< 1 ||| pf5.toUInt8

def updateLedState (row : Fin 5) (s : Simulated) : Simulated :=
  let pf0 := ! isEnabled s.data.f 0
  let pf1 := ! isEnabled s.data.f 1
  let pf4 := ! isEnabled s.data.f 4
  let pf5 := ! isEnabled s.data.f 5
  let cols := columns pf0 pf1 pf4 pf5
  let state := s.deviceState
  { s with deviceState := match row with
    | 0 => { state with
        bank0 := state.bank0 &&& (0x0F : UInt8) ||| cols <<< 4
        ledStatus := isEnabled s.data.b 6 && ! isEnabled s.data.c 6 }
    | 1 => { state with
        bank0 := state.bank0 &&& (0xF0 : UInt8) ||| cols
        ledErr := isEnabled s.data.c 6 && ! isEnabled s.data.b 6 }
    | 2 => { state with bank1 := state.bank1 &&& (0x0F : UInt8) ||| cols <<< 4 }
    | 3 => { state with bank1 := state.bank1 &&& (0xF0 : UInt8) ||| cols }
    | 4 => { state with ledR := pf0, ledG := pf1, ledB := pf4, ledProg := pf5 } }

def handlePortWrite (port : Register) (value : UInt8) (s : Simulated) : Simulated :=
  match port with
  | .PORTB =>
    if value &&& 0b00100000 ≠ 0 then updateLedState 4 s
    else if value &&& 0b00010000 ≠ 0 then updateLedState 1 s
    else s
  | .PORTD =>
    if value &&& 0b10000000 ≠ 0 then updateLedState 0 s
    else if value &&& 0b01000000 ≠ 0 then updateLedState 2 s
    else if value &&& 0b00010000 ≠ 0 then updateLedState 3 s
    else s
  | _ => s

-- A write to PORTB or PORTD is handed to the callback before it is stored.
def setRegister (r : Register) (value : UInt8) (s : Simulated) : Simulated :=
  let s := if r = .PORTB ∨ r = .PORTD then handlePortWrite r value s else s
  { s with data := s.data.put r value }

def simavr : Native Simulated where
  getRegister r s := (s.data.get r, s)
  setRegister := setRegister

theorem bankBit_and {n : UInt8} (h : n.toNat < 8) (x y : UInt8) :
    bankBit (x &&& y) n = (bankBit x n && bankBit y n) := by
  have hbits := fun value => bit_eq_testBit value n.toNat h
  rw [UInt8.ofNat_toNat] at hbits
  simp only [bankBit, hbits, UInt8.toNat_and, Nat.testBit_and]

theorem bankBit_or {n : UInt8} (h : n.toNat < 8) (x y : UInt8) :
    bankBit (x ||| y) n = (bankBit x n || bankBit y n) := by
  have hbits := fun value => bit_eq_testBit value n.toNat h
  rw [UInt8.ofNat_toNat] at hbits
  simp only [bankBit, hbits, UInt8.toNat_or, Nat.testBit_or]

theorem bankBit_columns (a b c d : Bool) :
    (bankBit (columns a b c d) 3 = a ∧ bankBit (columns a b c d) 2 = b ∧
      bankBit (columns a b c d) 1 = c ∧ bankBit (columns a b c d) 0 = d) ∧
    (bankBit (columns a b c d) 7 = false ∧ bankBit (columns a b c d) 6 = false ∧
      bankBit (columns a b c d) 5 = false ∧ bankBit (columns a b c d) 4 = false) := by
  revert a b c d
  decide

theorem bankBit_columns_high (a b c d : Bool) :
    (bankBit (columns a b c d <<< 4) 7 = a ∧ bankBit (columns a b c d <<< 4) 6 = b ∧
      bankBit (columns a b c d <<< 4) 5 = c ∧ bankBit (columns a b c d <<< 4) 4 = d) ∧
    (bankBit (columns a b c d <<< 4) 3 = false ∧ bankBit (columns a b c d <<< 4) 2 = false ∧
      bankBit (columns a b c d <<< 4) 1 = false ∧ bankBit (columns a b c d <<< 4) 0 = false) := by
  revert a b c d
  decide

def highNibble (bank : UInt8) : Fin 4 → Bool :=
  ![bankBit bank 7, bankBit bank 6, bankBit bank 5, bankBit bank 4]

def lowNibble (bank : UInt8) : Fin 4 → Bool :=
  ![bankBit bank 3, bankBit bank 2, bankBit bank 1, bankBit bank 0]

def DeviceState.shown (d : DeviceState) : Fin 5 → Fin 4 → Bool :=
  ![highNibble d.bank0, lowNibble d.bank0, highNibble d.bank1, lowNibble d.bank1,
    ![d.ledR, d.ledG, d.ledB, d.ledProg]]

theorem nibbles_set_high (bank : UInt8) (a b c d : Bool) :
    highNibble (bank &&& (0x0F : UInt8) ||| columns a b c d <<< 4) = ![a, b, c, d] ∧
      lowNibble (bank &&& (0x0F : UInt8) ||| columns a b c d <<< 4) = lowNibble bank := by
  obtain ⟨⟨h7, h6, h5, h4⟩, h3, h2, h1, h0⟩ := bankBit_columns_high a b c d
  have hmask : (bankBit 0x0F 7 = false ∧ bankBit 0x0F 6 = false ∧ bankBit 0x0F 5 = false ∧
      bankBit 0x0F 4 = false) ∧ bankBit 0x0F 3 ∧ bankBit 0x0F 2 ∧ bankBit 0x0F 1 ∧
        bankBit 0x0F 0 := by decide
  simp [highNibble, lowNibble, bankBit_or, bankBit_and, *]

theorem nibbles_set_low (bank : UInt8) (a b c d : Bool) :
    lowNibble (bank &&& (0xF0 : UInt8) ||| columns a b c d) = ![a, b, c, d] ∧
      highNibble (bank &&& (0xF0 : UInt8) ||| columns a b c d) = highNibble bank := by
  obtain ⟨⟨h3, h2, h1, h0⟩, h7, h6, h5, h4⟩ := bankBit_columns a b c d
  have hmask : (bankBit 0xF0 3 = false ∧ bankBit 0xF0 2 = false ∧ bankBit 0xF0 1 = false ∧
      bankBit 0xF0 0 = false) ∧ bankBit 0xF0 7 ∧ bankBit 0xF0 6 ∧ bankBit 0xF0 5 ∧
        bankBit 0xF0 4 := by decide
  simp [highNibble, lowNibble, bankBit_or, bankBit_and, *]

def Simulated.columns (s : Simulated) : Fin 4 → Bool := fun j => ! s.data.high (.column j)

theorem shown_updateLedState (row : Fin 5) (s : Simulated) (i : Fin 5) :
    (updateLedState row s).deviceState.shown i =
      if i = row then s.columns else s.deviceState.shown i := by
  have hcolumns : s.columns = ![! isEnabled s.data.f 0, ! isEnabled s.data.f 1,
      ! isEnabled s.data.f 4, ! isEnabled s.data.f 5] := by
    funext j
    match j with
    | 0 => rfl
    | 1 => rfl
    | 2 => rfl
    | 3 => rfl
  rw [hcolumns]
  match row with
  | 0 =>
    match i with
    | 0 => exact (nibbles_set_high _ _ _ _ _).1
    | 1 => exact (nibbles_set_high _ _ _ _ _).2
    | 2 => rfl
    | 3 => rfl
    | 4 => rfl
  | 1 =>
    match i with
    | 0 => exact (nibbles_set_low _ _ _ _ _).2
    | 1 => exact (nibbles_set_low _ _ _ _ _).1
    | 2 => rfl
    | 3 => rfl
    | 4 => rfl
  | 2 =>
    match i with
    | 0 => rfl
    | 1 => rfl
    | 2 => exact (nibbles_set_high _ _ _ _ _).1
    | 3 => exact (nibbles_set_high _ _ _ _ _).2
    | 4 => rfl
  | 3 =>
    match i with
    | 0 => rfl
    | 1 => rfl
    | 2 => exact (nibbles_set_low _ _ _ _ _).2
    | 3 => exact (nibbles_set_low _ _ _ _ _).1
    | 4 => rfl
  | 4 =>
    match i with
    | 0 => rfl
    | 1 => rfl
    | 2 => rfl
    | 3 => rfl
    | 4 => rfl

def Simulated.after (s : Simulated) (m : PortMod) : Simulated := (m.perform simavr s).2

def decodedRow (port : Register) (q : Ports) : Option (Fin 5) :=
  match port with
  | .PORTB => if q.high (.row 4) then some 4 else if q.high (.row 1) then some 1 else none
  | .PORTD =>
    if q.high (.row 0) then some 0 else if q.high (.row 2) then some 2
    else if q.high (.row 3) then some 3 else none
  | _ => none

theorem handlePortWrite_eq (port : Register) (value : UInt8) (s : Simulated) :
    handlePortWrite port value s = match decodedRow port (s.data.put port value) with
      | some row => updateLedState row s
      | none => s := by
  cases port with
  | PORTB =>
    have h4 : (s.data.put .PORTB value).high (.row 4) = decide (value &&& 0b00100000 ≠ 0) := rfl
    have h1 : (s.data.put .PORTB value).high (.row 1) = decide (value &&& 0b00010000 ≠ 0) := rfl
    simp only [handlePortWrite, decodedRow, h4, h1, decide_eq_true_eq]
    split
    · rfl
    · split <;> rfl
  | PORTD =>
    have h0 : (s.data.put .PORTD value).high (.row 0) = decide (value &&& 0b10000000 ≠ 0) := rfl
    have h2 : (s.data.put .PORTD value).high (.row 2) = decide (value &&& 0b01000000 ≠ 0) := rfl
    have h3 : (s.data.put .PORTD value).high (.row 3) = decide (value &&& 0b00010000 ≠ 0) := rfl
    simp only [handlePortWrite, decodedRow, h0, h2, h3, decide_eq_true_eq]
    split
    · rfl
    · split
      · rfl
      · split <;> rfl
  | _ => rfl

theorem after_eq (s : Simulated) (m : PortMod) : s.after m =
    ⟨s.data.after m, match decodedRow m.port (s.data.after m) with
      | some row => (updateLedState row s).deviceState
      | none => s.deviceState⟩ := by
  have hset : s.after m = setRegister m.port (m.apply (s.data.get m.port)) s := by
    obtain ⟨port, _ | _, val⟩ := m <;> rfl
  have hcall : ∀ value, (if m.port = .PORTB ∨ m.port = .PORTD then handlePortWrite m.port value s
      else s) = handlePortWrite m.port value s := by
    intro value
    split
    · rfl
    · rename_i hport
      cases hm : m.port <;> first | rfl | simp [hm] at hport
  rw [hset, setRegister, hcall, handlePortWrite_eq, Ports.after]
  cases decodedRow m.port (s.data.put m.port (m.apply (s.data.get m.port))) <;> rfl

end Threeboard.Simulator
