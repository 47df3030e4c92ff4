import Threeboard.Library.Bytes
import Mathlib.Data.List.Basic

namespace Threeboard.Integration

open Bytes

-- Characters are the bytes of the C locale.
abbrev Text := List UInt8

def isPrint (c : UInt8) : Bool := 0x20 ≤ c ∧ c ≤ 0x7e

def toUpper (c : UInt8) : UInt8 := if 0x61 ≤ c ∧ c ≤ 0x7a then c - 0x20 else c

def shiftedSymbol (keycode : UInt8) : UInt8 :=
  if keycode = 0x1e then 0x21
  else if keycode = 0x1f then 0x40
  else if keycode = 0x20 then 0x23
  else if keycode = 0x21 then 0x24
  else if keycode = 0x22 then 0x25
  else if keycode = 0x23 then 0x5e
  else if keycode = 0x24 then 0x26
  else if keycode = 0x25 then 0x2a
  else if keycode = 0x26 then 0x28
  else if keycode = 0x27 then 0x29
  else 0

def fromUsbKeycodes (keycode modcode : UInt8) : UInt8 :=
  let isShift : Bool := modcode &&& (1 : UInt8) <<< 1 ≠ 0
  if 0x04 ≤ keycode ∧ keycode ≤ 0x1d then
    let c := keycode - 0x04 + 0x61
    if isShift then toUpper c else c
  else if 0x1e ≤ keycode ∧ keycode ≤ 0x27 then
    if ¬ isShift then (if keycode = 0x27 then 0x30 else keycode - 0x1e + 0x31)
    else shiftedSymbol keycode
  else if keycode = 0x2c then 0x20
  else if keycode = 0x2d then (if isShift then 0x5f else 0x2d)
  else if keycode = 0x2e then (if isShift then 0x2b else 0x3d)
  else if keycode = 0x36 then 0x2c
  else if keycode = 0x37 then 0x2e
  else 0

def printable (c : UInt8) : Text := if isPrint c then [c] else []

def hostText (keypresses : List (UInt8 × UInt8)) : Text :=
  (keypresses.filter fun p => p ≠ (0, 0)).flatMap fun p => printable (fromUsbKeycodes p.1 p.2)

def shiftsSymbol (keycode : UInt8) : Bool :=
  (0x1e ≤ keycode ∧ keycode ≤ 0x27) ∨ keycode = 0x2d ∨ keycode = 0x2e

theorem fromUsbKeycodes_shift (keycode : UInt8) :
    ¬ shiftsSymbol keycode → fromUsbKeycodes keycode 2 = toUpper (fromUsbKeycodes keycode 0) := by
  revert keycode
  refine forall_byte ?_
  decide +kernel

theorem isPrint_toUpper (c : UInt8) : isPrint (toUpper c) = isPrint c := by
  revert c
  refine forall_byte ?_
  decide +kernel

theorem printable_eq_nil {c : UInt8} : printable c = [] ↔ ¬ isPrint c := by
  simp [printable]

@[simp] theorem hostText_nil : hostText [] = [] := rfl

theorem hostText_cons (p : UInt8 × UInt8) (ps : List (UInt8 × UInt8)) :
    hostText (p :: ps) = printable (fromUsbKeycodes p.1 p.2) ++ hostText ps := by
  by_cases h : p = (0, 0)
  · subst h
    rfl
  · simp [hostText, h]

theorem hostText_eq_flatMap (ps : List (UInt8 × UInt8)) :
    hostText ps = ps.flatMap fun p => printable (fromUsbKeycodes p.1 p.2) := by
  induction ps with
  | nil => rfl
  | cons p ps ih => rw [hostText_cons, ih, List.flatMap_cons]

end Threeboard.Integration
