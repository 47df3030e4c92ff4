import Threeboard.Keys.Combos

namespace Threeboard.Simulator

open Keys

def setPinB (pin : UInt8) (enabled : Bool) (pinb : UInt8) : UInt8 :=
  let pinb := pinb &&& ~~~(1 <<< pin)
  if enabled then pinb ||| 1 <<< pin else pinb

def getKeycodes : Keypress → List Char
  | .x => ['a']
  | .y => ['s']
  | .z => ['d']
  | .xy => ['a', 's']
  | .xz => ['a', 'd']
  | .yz => ['s', 'd']
  | .xyz => ['a', 's', 'd']
  | .inactive => []

def handleKey (key : Char) (state : Bool) (pinb : UInt8) : UInt8 :=
  if key = 'a' then setPinB 2 (!state) pinb
  else if key = 's' then setPinB 3 (!state) pinb
  else if key = 'd' then setPinB 1 (!state) pinb
  else pinb

def handleKeypress (keypress : Keypress) (state : Bool) (pinb : UInt8) : UInt8 :=
  (getKeycodes keypress).foldl (fun pinb key => handleKey key state pinb) pinb

theorem pin_bit (key : Key) :
    ((1 : UInt8) <<< key.pin).toBitVec = BitVec.twoPow 8 key.pin.toNat := by
  cases key <;> rfl

theorem isPressed_iff (pinb : UInt8) (key : Key) :
    isPressed pinb key.pin = true ↔ pinb.toBitVec.getLsbD key.pin.toNat = false := by
  have hne : BitVec.twoPow 8 key.pin.toNat ≠ 0#8 := by cases key <;> decide
  rw [isPressed, decide_eq_true_iff, ← UInt8.toBitVec_inj, UInt8.toBitVec_and, pin_bit,
    BitVec.and_twoPow]
  cases pinb.toBitVec.getLsbD key.pin.toNat with
  | false => exact iff_of_true rfl rfl
  | true => exact iff_of_false hne (by simp)

theorem isPressed_setPinB (key other : Key) (enabled : Bool) (pinb : UInt8) :
    isPressed (setPinB key.pin enabled pinb) other.pin =
      if other = key then !enabled else isPressed pinb other.pin := by
  have hpin : other.pin.toNat = key.pin.toNat ↔ other = key := by
    cases other <;> cases key <;> decide
  have hlt : other.pin.toNat < 8 := by cases other <;> decide
  have hmask := pin_bit key
  rw [Bool.eq_iff_iff, isPressed_iff, setPinB]
  generalize (1 : UInt8) <<< key.pin = mask at hmask ⊢
  by_cases h : other = key
  · subst h
    cases enabled <;> simp [hmask, hlt]
  · rw [if_neg h, isPressed_iff]
    cases enabled <;> simp [hmask, hlt, hpin, h]

theorem lowKeys_setPinB (key : Key) (enabled : Bool) (pinb : UInt8) :
    lowKeys (setPinB key.pin enabled pinb) =
      if enabled then (lowKeys pinb).erase key else insert key (lowKeys pinb) := by
  ext other
  rw [mem_lowKeys, isPressed_setPinB]
  by_cases h : other = key
  · cases enabled <;> simp [h]
  · cases enabled <;> simp [h, mem_lowKeys]

def keysOf : Keypress → List Key
  | .x => [.x]
  | .y => [.y]
  | .z => [.z]
  | .xy => [.x, .y]
  | .xz => [.x, .z]
  | .yz => [.y, .z]
  | .xyz => [.x, .y, .z]
  | .inactive => []

theorem toFinset_keysOf (k : Keypress) : (keysOf k).toFinset = k.keys := by
  cases k <;> decide

theorem handleKeypress_eq (k : Keypress) (state : Bool) (pinb : UInt8) :
    handleKeypress k state pinb =
      (keysOf k).foldl (fun pinb key => setPinB key.pin (!state) pinb) pinb := by
  cases k <;> rfl

theorem lowKeys_handleKeypress (k : Keypress) (state : Bool) (pinb : UInt8) :
    lowKeys (handleKeypress k state pinb) =
      if state then lowKeys pinb ∪ k.keys else lowKeys pinb \ k.keys := by
  rw [handleKeypress_eq, ← toFinset_keysOf]
  induction keysOf k generalizing pinb with
  | nil => simp
  | cons key keys ih =>
    rw [List.foldl_cons, ih, lowKeys_setPinB, List.toFinset_cons]
    cases state with
    | false => simp [Finset.erase_sdiff_comm, ← Finset.sdiff_insert]
    | true => simp [Finset.insert_union, Finset.union_insert]

end Threeboard.Simulator
