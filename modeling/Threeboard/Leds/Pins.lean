import Threeboard.Keys.KeyController
import Threeboard.Leds.Scanning
import Mathlib.Data.Fintype.Sum
import Mathlib.Tactic.DeriveFintype

namespace Threeboard.Leds

open Mcu

structure Ports where
  b : UInt8
  c : UInt8
  d : UInt8
  f : UInt8
  deriving DecidableEq, Repr

inductive Pin where
  | status
  | err
  | row (i : Fin 5)
  | column (i : Fin 4)
  | key (i : Fin 3)
  deriving DecidableEq, Fintype, Repr

namespace Pin

def port : Pin → Register
  | status => .PORTB
  | err => .PORTC
  | row i => ![.PORTD, .PORTB, .PORTD, .PORTD, .PORTB] i
  | column _ => .PORTF
  | key _ => .PORTB

def index : Pin → UInt8
  | status => PB6
  | err => PC6
  | row i => ![PD7, PB4, PD6, PD4, PB5] i
  | column i => ![PF0, PF1, PF4, PF5] i
  | key i => ![Keys.PB1, Keys.PB2, Keys.PB3] i

end Pin

namespace Ports

def get (p : Ports) : Register → UInt8
  | .PORTB => p.b
  | .PORTC => p.c
  | .PORTD => p.d
  | .PORTF => p.f
  | _ => 0

def put (r : Register) (value : UInt8) (p : Ports) : Ports :=
  match r with
  | .PORTB => { p with b := value }
  | .PORTC => { p with c := value }
  | .PORTD => { p with d := value }
  | .PORTF => { p with f := value }
  | _ => p

def high (p : Ports) (pin : Pin) : Bool := p.get pin.port &&& bit pin.index ≠ 0

end Ports

namespace PortMod

def apply (m : PortMod) (value : UInt8) : UInt8 :=
  if m.enables then value ||| m.val else value &&& ~~~m.val

def touches (m : PortMod) (pin : Pin) : Bool := m.port = pin.port ∧ m.val &&& bit pin.index ≠ 0

end PortMod

def Ports.after (p : Ports) (m : PortMod) : Ports := p.put m.port (m.apply (p.get m.port))

theorem bit_eq_testBit (value : UInt8) : ∀ i < 8,
    decide (value &&& bit (.ofNat i) ≠ 0) = value.toNat.testBit i := by
  revert value
  exact Bytes.forall_byte (by decide +kernel)

theorem testBit_complement (value : UInt8) : ∀ i < 8,
    (~~~value).toNat.testBit i = !value.toNat.testBit i := by
  revert value
  exact Bytes.forall_byte (by decide +kernel)

theorem testBit_apply (m : PortMod) (value : UInt8) {i : ℕ} (h : i < 8) :
    (m.apply value).toNat.testBit i =
      if m.val.toNat.testBit i then m.enables else value.toNat.testBit i := by
  rw [PortMod.apply]
  cases m.enables with
  | true =>
    rw [if_pos rfl, UInt8.toNat_or, Nat.testBit_or]
    cases m.val.toNat.testBit i <;> simp
  | false =>
    rw [if_neg Bool.false_ne_true, UInt8.toNat_and, Nat.testBit_and, testBit_complement _ i h]
    cases m.val.toNat.testBit i <;> simp

theorem get_put_same (p : Ports) (pin : Pin) (value : UInt8) :
    (p.put pin.port value).get pin.port = value := by
  have hport : pin.port ∈ [Register.PORTB, .PORTC, .PORTD, .PORTF] := by
    revert pin
    decide
  cases h : pin.port <;> first | rfl | simp [h] at hport

theorem get_put_of_ne {r other : Register} (h : other ≠ r) (p : Ports) (value : UInt8) :
    (p.put r value).get other = p.get other := by
  cases r <;> cases other <;> first | rfl | exact (h rfl).elim

def Pin.number (pin : Pin) : ℕ := pin.index.toNat

theorem Pin.index_eq (pin : Pin) : pin.number < 8 ∧ pin.index = UInt8.ofNat pin.number := by
  revert pin
  decide

theorem high_after (p : Ports) (m : PortMod) (pin : Pin) :
    (p.after m).high pin = if m.touches pin then m.enables else p.high pin := by
  obtain ⟨hnumber, hindex⟩ := pin.index_eq
  simp only [Ports.high, PortMod.touches, hindex, Ports.after]
  by_cases hport : pin.port = m.port
  · rw [← hport, get_put_same, bit_eq_testBit _ _ hnumber, testBit_apply m _ hnumber,
      ← bit_eq_testBit _ _ hnumber, bit_eq_testBit (p.get pin.port) _ hnumber]
    simp
  · rw [get_put_of_ne hport]
    simp [Ne.symm hport]

theorem high_foldl_of_untouched {pin : Pin} {mods : List PortMod}
    (h : ∀ m ∈ mods, m.touches pin = false) (p : Ports) :
    (mods.foldl Ports.after p).high pin = p.high pin := by
  induction mods generalizing p with
  | nil => rfl
  | cons m rest ih =>
    rw [List.foldl_cons, ih fun m' hm' => h m' (by simp [hm']), high_after, h m (by simp)]
    rfl

@[simp] theorem status_touches (enables : Bool) (pin : Pin) :
    PortMod.touches ⟨.PORTB, enables, bit PB6⟩ pin = decide (pin = .status) := by
  revert enables pin
  decide

@[simp] theorem err_touches (enables : Bool) (pin : Pin) :
    PortMod.touches ⟨.PORTC, enables, bit PC6⟩ pin = decide (pin = .err) := by
  revert enables pin
  decide

@[simp] theorem clearB_touches (pin : Pin) :
    PortMod.touches ⟨.PORTB, false, 0b00110000⟩ pin = decide (pin = .row 1 ∨ pin = .row 4) := by
  revert pin
  decide

@[simp] theorem clearD_touches (pin : Pin) :
    PortMod.touches ⟨.PORTD, false, 0b11010000⟩ pin =
      decide (pin = .row 0 ∨ pin = .row 2 ∨ pin = .row 3) := by
  revert pin
  decide

@[simp] theorem clearF_touches (pin : Pin) :
    PortMod.touches ⟨.PORTF, true, 0b00110011⟩ pin = decide (∃ j, pin = .column j) := by
  revert pin
  decide

@[simp] theorem rowOn_touches (row : Fin 5) (pin : Pin) :
    (LedController.rowOn row).touches pin = decide (pin = .row row) := by
  revert row pin
  decide

@[simp] theorem columnOff_touches (column : Fin 4) (pin : Pin) :
    (LedController.columnOff column).touches pin = decide (pin = .column column) := by
  revert column pin
  decide

@[simp] theorem rowOn_enables (row : Fin 5) : (LedController.rowOn row).enables = true := by
  revert row
  decide

@[simp] theorem columnOff_enables (column : Fin 4) :
    (LedController.columnOff column).enables = false := by
  revert column
  decide

end Threeboard.Leds
