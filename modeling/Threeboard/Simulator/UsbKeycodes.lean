import Threeboard.Integration.UsbKeycodes

namespace Threeboard.Simulator

open Bytes Integration

def isUpper (c : UInt8) : Bool := 0x41 ≤ c ∧ c ≤ 0x5a
def isLower (c : UInt8) : Bool := 0x61 ≤ c ∧ c ≤ 0x7a
def isAlpha (c : UInt8) : Bool := isUpper c ∨ isLower c
def isDigit (c : UInt8) : Bool := 0x30 ≤ c ∧ c ≤ 0x39
def isSpace (c : UInt8) : Bool := c = 0x20 ∨ 0x09 ≤ c ∧ c ≤ 0x0d
def isPunct (c : UInt8) : Bool := isPrint c ∧ c ≠ 0x20 ∧ ¬ isAlpha c ∧ ¬ isDigit c

def toLower (c : UInt8) : UInt8 := if isUpper c then c + 0x20 else c

-- The second test for 0x26 is never reached; it stands where the asterisk was to be.
def punctuationKeycodes (c : UInt8) : UInt8 × UInt8 :=
  let modcode := (1 : UInt8) <<< 1
  if c = 0x21 then (0x1e, modcode)
  else if c = 0x40 then (0x1f, modcode)
  else if c = 0x23 then (0x20, modcode)
  else if c = 0x24 then (0x21, modcode)
  else if c = 0x25 then (0x22, modcode)
  else if c = 0x5e then (0x23, modcode)
  else if c = 0x26 then (0x24, modcode)
  else if c = 0x26 then (0x25, modcode)
  else if c = 0x2a then (0x26, modcode)
  else if c = 0x28 then (0x27, modcode)
  else if c = 0x29 then (0x28, modcode)
  else if c = 0x2d then (0x2d, 0)
  else if c = 0x5f then (0x2d, modcode)
  else if c = 0x3d then (0x2e, 0)
  else if c = 0x2b then (0x2e, modcode)
  else if c = 0x2c then (0x36, modcode)
  else if c = 0x2e then (0x37, modcode)
  else (0, modcode)

def toUsbKeycodes (c : UInt8) : UInt8 × UInt8 :=
  if isAlpha c then (toLower c - 0x61 + 4, if isUpper c then (1 : UInt8) <<< 1 else 0)
  else if isDigit c then (toLower c - 0x30 + 0x1e, 0)
  else if isSpace c then (0x2c, 0)
  else if isPunct c then punctuationKeycodes c
  else (0, 0)

def producible (c : UInt8) : Prop :=
  isPrint c = true ∧ ∃ keycode modcode, fromUsbKeycodes keycode modcode = c

def rendered (c : UInt8) : Text := printable (fromUsbKeycodes (toUsbKeycodes c).1 (toUsbKeycodes c).2)

def garbled (c : UInt8) : Bool := isDigit c ∨ c = 0x2a ∨ c = 0x28 ∨ c = 0x29

def mappedSymbols : Text :=
  [0x21, 0x40, 0x23, 0x24, 0x25, 0x5e, 0x26, 0x2d, 0x5f, 0x3d, 0x2b, 0x2c, 0x2e]

-- A digit comes out as the next one, an asterisk as an opening parenthesis and that as a closing
-- one; blanks are all the same blank, and what has no key is lost.
def displaced (c : UInt8) : Text :=
  if isDigit c then [if c = 0x39 then 0x30 else c + 1]
  else if c = 0x2a then [0x28]
  else if c = 0x28 then [0x29]
  else if isSpace c then [0x20]
  else if isAlpha c ∨ c ∈ mappedSymbols then [c]
  else []

theorem rendered_eq_displaced (c : UInt8) : rendered c = displaced c := by
  revert c
  refine forall_byte ?_
  decide +kernel

theorem displaced_ne_of_garbled (c : UInt8) : garbled c = true → displaced c ≠ [c] := by
  revert c
  refine forall_byte ?_
  decide +kernel

theorem displaced_produced (keycode : UInt8) : ∀ modcode ∈ [(0 : UInt8), 2],
    isPrint (fromUsbKeycodes keycode modcode) = true →
      garbled (fromUsbKeycodes keycode modcode) = false →
        displaced (fromUsbKeycodes keycode modcode) = [fromUsbKeycodes keycode modcode] := by
  intro modcode hmodcode
  simp only [List.mem_cons, List.not_mem_nil, or_false] at hmodcode
  revert keycode
  refine forall_byte ?_
  obtain rfl | rfl := hmodcode
  · decide +kernel
  · decide +kernel

theorem fromUsbKeycodes_shift_bit (keycode modcode : UInt8) :
    ∃ m ∈ [(0 : UInt8), 2], fromUsbKeycodes keycode modcode = fromUsbKeycodes keycode m := by
  by_cases h : modcode &&& (1 : UInt8) <<< 1 = 0
  · refine ⟨0, by simp, ?_⟩
    simp [fromUsbKeycodes, h]
  · refine ⟨2, by simp, ?_⟩
    have hshift : ((2 : UInt8) &&& (1 : UInt8) <<< 1) ≠ 0 := by decide
    simp [fromUsbKeycodes, h, hshift]

theorem displaced_plain {c : UInt8} (h : producible c) (hc : garbled c = false) :
    displaced c = [c] := by
  obtain ⟨hprint, keycode, modcode, rfl⟩ := h
  obtain ⟨m, hm, heq⟩ := fromUsbKeycodes_shift_bit keycode modcode
  rw [heq] at hprint hc ⊢
  exact displaced_produced keycode m hm hprint hc

theorem displaced_length_le (c : UInt8) : (displaced c).length ≤ 1 := by
  rw [← rendered_eq_displaced, rendered, printable]
  split <;> simp

theorem flatMap_displaced_length_le (text : Text) : (text.flatMap displaced).length ≤ text.length := by
  induction text with
  | nil => exact Nat.le_refl 0
  | cons c rest ih =>
    have hfirst := displaced_length_le c
    rw [List.flatMap_cons, List.length_append, List.length_cons]
    omega

theorem displaced_of_flatMap_eq {text : Text} (h : text.flatMap displaced = text) :
    ∀ c ∈ text, displaced c = [c] := by
  induction text with
  | nil => simp
  | cons c rest ih =>
    rw [List.flatMap_cons] at h
    have hone : (displaced c).length = 1 := by
      have hlength := congrArg List.length h
      have hfirst := displaced_length_le c
      have hrest := flatMap_displaced_length_le rest
      rw [List.length_append, List.length_cons] at hlength
      omega
    obtain ⟨d, hd⟩ := List.length_eq_one_iff.mp hone
    rw [hd, List.singleton_append, List.cons.injEq] at h
    obtain ⟨rfl, hrest⟩ := h
    intro e he
    rcases List.mem_cons.mp he with rfl | he
    · exact hd
    · exact ih hrest e he

theorem flatMap_displaced_eq_iff {text : Text} (h : ∀ c ∈ text, producible c) :
    text.flatMap displaced = text ↔ ∀ c ∈ text, garbled c = false := by
  constructor
  · intro heq c hc
    rw [← Bool.not_eq_true]
    exact fun hgarbled => displaced_ne_of_garbled c hgarbled (displaced_of_flatMap_eq heq c hc)
  · intro hplain
    calc text.flatMap displaced = text.flatMap fun c => [c] :=
          List.flatMap_congr fun c hc => displaced_plain (h c hc) (hplain c hc)
      _ = text := List.flatMap_singleton' text

end Threeboard.Simulator
