import Threeboard.Storage.StorageController
import Mathlib.Logic.Function.Basic

namespace Threeboard.Storage

open Actions

inductive Chip where
  | internal
  | eeprom0
  | eeprom1
  deriving DecidableEq, Repr

abbrev Address := Chip × UInt16

abbrev Memory := Address → UInt8

def erased : Memory := fun _ => 0xFF

-- What becomes of one access: a failed write may leave any byte at the address it was given.
inductive Fate where
  | succeed
  | fail (residue : Option UInt8)
  deriving DecidableEq, Repr

structure Bench where
  memory : Memory
  fates : ℕ → Fate
  writes : List Address
  keypresses : List (UInt8 × UInt8)

namespace Bench

def start (memory : Memory) (fates : ℕ → Fate) : Bench := ⟨memory, fates, [], []⟩

def popFate (b : Bench) : Bench := { b with fates := fun n => b.fates (n + 1) }

def logWrite (a : Address) (b : Bench) : Bench := { b with writes := b.writes ++ [a] }

def logKeypress (key mod : UInt8) (b : Bench) : Bench :=
  { b with keypresses := b.keypresses ++ [(key, mod)] }

def poke (a : Address) (byte : UInt8) (b : Bench) : Bench :=
  { b with memory := Function.update b.memory a byte }

def nextFate : Action Bench Fate := do
  let fate ← Action.gets (fun b => b.fates 0)
  Action.modify popFate
  pure fate

def nativeRead (a : Address) : Action Bench UInt8 := Action.gets (fun b => b.memory a)

def nativeWrite (a : Address) (byte : UInt8) : Action Bench Unit :=
  Action.modify (fun b => (b.logWrite a).poke a byte)

def internalEeprom : Eeprom Bench where
  readByte byteOffset := do
    let data ← nativeRead (.internal, byteOffset)
    pure (data + 1)
  writeByte byteOffset data := nativeWrite (.internal, byteOffset) (data - 1)

def failWrite (a : Address) (residue : Option UInt8) : Action Bench Unit := do
  Action.modify (logWrite a)
  match residue with
  | some byte => Action.modify (poke a byte)
  | none => pure ()
  Action.stop

def externalEeprom (chip : Chip) : Eeprom Bench where
  readByte byteOffset := do
    match ← nextFate with
    | .succeed => do
      let data ← nativeRead (chip, byteOffset)
      pure (data + 1)
    | .fail _ => Action.stop
  writeByte byteOffset data := do
    match ← nextFate with
    | .succeed => nativeWrite (chip, byteOffset) (data - 1)
    | .fail residue => failWrite (chip, byteOffset) residue

-- An internal EEPROM that may fail as well; its failed writes leave the byte as it was.
def flakyInternalEeprom : Eeprom Bench where
  readByte byteOffset := do
    match ← nextFate with
    | .succeed => internalEeprom.readByte byteOffset
    | .fail _ => Action.stop
  writeByte byteOffset data := do
    match ← nextFate with
    | .succeed => internalEeprom.writeByte byteOffset data
    | .fail _ => failWrite (.internal, byteOffset) none

def usbController : UsbController Bench where
  sendKeypress key mod := do
    Action.modify (logKeypress key mod)
    match ← nextFate with
    | .succeed => pure ()
    | .fail _ => Action.stop

def controller : StorageController Bench where
  usbController := usbController
  internalEeprom := internalEeprom
  externalEeprom0 := externalEeprom .eeprom0
  externalEeprom1 := externalEeprom .eeprom1

def flakyController : StorageController Bench where
  usbController := usbController
  internalEeprom := flakyInternalEeprom
  externalEeprom0 := externalEeprom .eeprom0
  externalEeprom1 := externalEeprom .eeprom1

end Bench

end Threeboard.Storage
