import Mathlib.Tactic.Common

namespace Threeboard.Keys

inductive Keypress where
  | inactive
  | z
  | y
  | yz
  | x
  | xz
  | xy
  | xyz
  deriving DecidableEq, Repr

namespace Keypress

def code : Keypress → UInt8
  | inactive => 0
  | z => 1
  | y => 2
  | x => 4
  | yz => 3
  | xz => 5
  | xy => 6
  | xyz => 7

def ofCode (code : UInt8) : Keypress :=
  match code.toNat with
  | 1 => z
  | 2 => y
  | 4 => x
  | 3 => yz
  | 5 => xz
  | 6 => xy
  | 7 => xyz
  | _ => inactive

end Keypress

def PB1 : UInt8 := 1
def PB2 : UInt8 := 2
def PB3 : UInt8 := 3

def kXIndex : UInt8 := 3
def kYIndex : UInt8 := 4
def kZIndex : UInt8 := 5

def isPressed (pinRegister idx : UInt8) : Bool := pinRegister &&& 1 <<< idx = 0

def wasPressed (state offset : UInt8) : Bool := state &&& 1 <<< offset ≠ 0

namespace KeyController

def pollKey (pin index : UInt8) (key : Keypress) (pinb keyMask : UInt8) : UInt8 :=
  if isPressed pinb pin then keyMask ||| 1 <<< index
  else if wasPressed keyMask index then keyMask &&& ~~~(1 <<< index) ||| key.code
  else keyMask

def pollX : UInt8 → UInt8 → UInt8 := pollKey PB2 kXIndex .x
def pollY : UInt8 → UInt8 → UInt8 := pollKey PB3 kYIndex .y
def pollZ : UInt8 → UInt8 → UInt8 := pollKey PB1 kZIndex .z

def pollKeyState (keyMask pinb : UInt8) : Option Keypress × UInt8 :=
  let mask := pollZ pinb (pollY pinb (pollX pinb keyMask))
  if mask >>> 3 = 0 ∧ mask > 0 then (some (.ofCode (mask &&& 7)), 0) else (none, mask)

end KeyController

end Threeboard.Keys
