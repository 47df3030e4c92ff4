import Threeboard.Simulator.Interleaving
import Threeboard.Storage.Requests

namespace Threeboard.Simulator

open Actions Actions.Action I2c Mcu Storage

-- Status codes that the driver accepts exactly for what has been acknowledged.
structure Telling (codes : StatusCodes) : Prop extends Accepting codes where
  mtSla_refused : ¬ accepted (codes.mtSla false)
  mtData_refused : ¬ accepted (codes.mtData false)
  mrSla_refused : ¬ accepted (codes.mrSla false)

-- The firmware's storage in the simulator: EEPROM_0 is the one component that is attached to the
-- bus, which both drivers share. The host takes every keypress.
structure Machine where
  internal : UInt16 → UInt8
  twi : Twi Bus
  keypresses : List (UInt8 × UInt8)

namespace Machine

variable {α : Type}

def onTwi (x : Action (Twi Bus) α) : Action Machine α :=
  Action.zoom Machine.twi (fun twi m => { m with twi }) x

def internalEeprom : Eeprom Machine where
  readByte byteOffset := do
    let data ← Action.gets fun m => m.internal byteOffset
    pure (data + 1)
  writeByte byteOffset data :=
    Action.modify fun m => { m with internal := Function.update m.internal byteOffset (data - 1) }

def externalEeprom (e : I2c.I2cEeprom (Twi Bus)) : Eeprom Machine where
  readByte byteOffset := do
    match ← onTwi (e.readByte byteOffset) with
    | some data => pure data
    | none => Action.stop
  writeByte byteOffset data := do
    if ← onTwi (e.writeByte byteOffset data) then pure () else Action.stop

def usbController : UsbController Machine where
  sendKeypress key mod := Action.modify fun m => { m with keypresses := m.keypresses ++ [(key, mod)] }

def controller (codes : StatusCodes) (polls : ℕ) : StorageController Machine where
  usbController := usbController
  internalEeprom := internalEeprom
  externalEeprom0 := externalEeprom (driver codes Bus.wires .eeprom0 polls)
  externalEeprom1 := externalEeprom (driver codes Bus.wires .eeprom1 polls)

def blobLengthOffset (id : BlobId) : UInt16 := kInternalEepromLayerBLengthStart + id.1.toUInt16

structure Mirrors (polls : ℕ) (m : Machine) (b : Bench) : Prop where
  lengths : ∀ id, m.internal (blobLengthOffset id) = b.memory (.internal, blobLengthOffset id)
  eeprom0 : Remembers polls m.twi fun o => b.memory (.eeprom0, UInt16.ofNat o) + 1
  keypresses : m.keypresses = b.keypresses
  calm : b.Calm

variable {codes : StatusCodes} {polls : ℕ}

section Accesses

theorem length_read_mirrors (id : BlobId) : Corres (Mirrors polls)
    (internalEeprom.readByte (blobLengthOffset id))
    (Bench.internalEeprom.readByte (blobLengthOffset id)) :=
  (Corres.gets fun _ _ h => h.lengths id).bind fun _ => Corres.pure _

theorem length_write_mirrors (id : BlobId) (data : UInt8) : Corres (Mirrors polls)
    (internalEeprom.writeByte (blobLengthOffset id) data)
    (Bench.internalEeprom.writeByte (blobLengthOffset id) data) := by
  refine Corres.modify fun m b h => ⟨fun j => ?_, ?_, h.keypresses, h.calm⟩
  · by_cases hj : blobLengthOffset j = blobLengthOffset id
    · rw [hj, Bench.poke_memory_self]
      exact Function.update_self _ _ _
    · rw [Bench.poke_memory_of_ne _ (by simpa using hj)]
      exact (Function.update_of_ne hj _ _).trans (h.lengths j)
  · simp only [Bench.poke_memory_of_ne, ne_eq, Prod.mk.injEq, reduceCtorEq, false_and,
      not_false_eq_true]
    exact h.eeprom0

theorem sendKeypress_mirrors (key mod : UInt8) : Corres (Mirrors polls)
    (usbController.sendKeypress key mod) (Bench.usbController.sendKeypress key mod) := by
  intro m b h
  have hrun : Bench.usbController.sendKeypress key mod b =
      (some (), (b.logKeypress key mod).popFate) := by
    have hfate : (b.logKeypress key mod).fates 0 = .succeed := h.calm 0
    exact Bench.fated_succeeds hfate
  rw [hrun]
  refine ⟨rfl, h.lengths, h.eeprom0, ?_, fun n => h.calm (n + 1)⟩
  exact congrArg (· ++ [(key, mod)]) h.keypresses

theorem chip_read_run {b : Bench} (h : b.Calm) (chip : Storage.Chip) (offset : UInt16) :
    (Bench.externalEeprom chip).readByte offset b =
      (some (b.memory (chip, offset) + 1), b.popFate) := Bench.fated_succeeds (h 0)

theorem chip_write_run {b : Bench} (h : b.Calm) (chip : Storage.Chip) (offset : UInt16) (data : UInt8) :
    (Bench.externalEeprom chip).writeByte offset data b =
      (some (), (b.popFate.logWrite (chip, offset)).poke (chip, offset) (data - 1)) :=
  Bench.fated_succeeds (h 0)

theorem eeprom0_poke (b : Bench) (offset : Offset) (data : UInt8) :
    (fun o : Offset => (b.poke (.eeprom0, UInt16.ofNat offset) (data - 1)).memory
        (.eeprom0, UInt16.ofNat o) + 1) =
      Function.update (fun o : Offset => b.memory (.eeprom0, UInt16.ofNat o) + 1) offset data := by
  funext o
  by_cases ho : o = offset
  · rw [ho, Bench.poke_memory_self, Function.update_self, UInt8.sub_add_cancel]
  · have hne : UInt16.ofNat o ≠ UInt16.ofNat offset := fun heq =>
      ho (Fin.ext (by rw [← toNat_offset o, heq, toNat_offset]))
    rw [Function.update_of_ne ho, Bench.poke_memory_of_ne _ (by simpa using hne)]

variable (hcodes : Accepting codes)

include hcodes

theorem eeprom0_read_mirrors (offset : Offset) : Corres (Mirrors polls)
    ((externalEeprom (busDriver codes polls)).readByte (UInt16.ofNat offset))
    ((Bench.externalEeprom .eeprom0).readByte (UInt16.ofNat offset)) := by
  intro m b h
  obtain ⟨hout, hnext⟩ := serve_readByte hcodes h.eeprom0 offset
  simp only [serve, reference, Outcome.read.injEq] at hout hnext
  have hrun : (externalEeprom (busDriver codes polls)).readByte (UInt16.ofNat offset) m =
      (some (b.memory (.eeprom0, UInt16.ofNat offset) + 1),
        { m with twi := ((busDriver codes polls).readByte (UInt16.ofNat offset) m.twi).2 }) := by
    simp only [externalEeprom, onTwi, bind_run, zoom_run, hout]
    rfl
  rw [hrun, chip_read_run h.calm]
  exact ⟨rfl, h.lengths, hnext, h.keypresses, fun n => h.calm (n + 1)⟩

theorem eeprom0_write_mirrors (offset : Offset) (data : UInt8) : Corres (Mirrors polls)
    ((externalEeprom (busDriver codes polls)).writeByte (UInt16.ofNat offset) data)
    ((Bench.externalEeprom .eeprom0).writeByte (UInt16.ofNat offset) data) := by
  intro m b h
  obtain ⟨hout, hnext⟩ := serve_writeByte hcodes h.eeprom0 offset data
  simp only [serve, reference, Outcome.wrote.injEq] at hout hnext
  have hrun : (externalEeprom (busDriver codes polls)).writeByte (UInt16.ofNat offset) data m =
      (some (), { m with
        twi := ((busDriver codes polls).writeByte (UInt16.ofNat offset) data m.twi).2 }) := by
    simp only [externalEeprom, onTwi, bind_run, zoom_run, hout]
    rfl
  rw [hrun, chip_write_run h.calm]
  refine ⟨rfl, fun id => ?_, ?_, h.keypresses, fun n => h.calm (n + 1)⟩
  · rw [Bench.poke_memory_of_ne _ (by simp)]
    exact h.lengths id
  · rw [eeprom0_poke]
    exact hnext

end Accesses

section Blobs

theorem blobOffset_lt (id : BlobId) {position : ℕ} (h : position < 255) :
    (StorageController.blobOffset id.1 position).toNat + 1 < 65535 := by
  have hid := blobId_toNat_le id
  rw [toNat_blobOffset id (by omega)]
  split <;> omega

theorem blobEeprom_eeprom0 {σ : Type} (c : StorageController σ) (id : BlobId)
    (hid : id.1.toNat < 120) : c.blobEeprom id.1 = c.externalEeprom0 :=
  if_neg (by rw [eeprom1_iff]; omega)

theorem getBlobShortcutLength_mirrors (id : BlobId) : Corres (Mirrors polls)
    ((controller codes polls).getBlobShortcutLength id.1)
    (Bench.controller.getBlobShortcutLength id.1) := by
  simp only [StorageController.getBlobShortcutLength, if_neg (Bench.not_gt_maxIndex id)]
  exact length_read_mirrors id

theorem clearBlobShortcut_mirrors (id : BlobId) : Corres (Mirrors polls)
    ((controller codes polls).clearBlobShortcut id.1) (Bench.controller.clearBlobShortcut id.1) := by
  simp only [StorageController.clearBlobShortcut, if_neg (Bench.not_gt_maxIndex id)]
  exact length_write_mirrors id 0

variable (hcodes : Accepting codes) (id : BlobId) (hid : id.1.toNat < 120)

include hcodes hid

theorem read_mirrors {offset : UInt16} (h : offset.toNat < 65535) : Corres (Mirrors polls)
    (((controller codes polls).blobEeprom id.1).readByte offset)
    ((Bench.controller.blobEeprom id.1).readByte offset) := by
  rw [blobEeprom_eeprom0 _ id hid, blobEeprom_eeprom0 _ id hid]
  have hread : Corres (Mirrors polls) _ _ := eeprom0_read_mirrors hcodes ⟨offset.toNat, h⟩
  rwa [UInt16.ofNat_toNat] at hread

theorem write_mirrors {offset : UInt16} (h : offset.toNat < 65535) (data : UInt8) :
    Corres (Mirrors polls) (((controller codes polls).blobEeprom id.1).writeByte offset data)
      ((Bench.controller.blobEeprom id.1).writeByte offset data) := by
  rw [blobEeprom_eeprom0 _ id hid, blobEeprom_eeprom0 _ id hid]
  have hwrite : Corres (Mirrors polls) _ _ := eeprom0_write_mirrors hcodes ⟨offset.toNat, h⟩ data
  rwa [UInt16.ofNat_toNat] at hwrite

theorem appendToBlobShortcut_mirrors (key mod : UInt8) : Corres (Mirrors polls)
    ((controller codes polls).appendToBlobShortcut id.1 key mod)
    (Bench.controller.appendToBlobShortcut id.1 key mod) := by
  simp only [StorageController.appendToBlobShortcut, if_neg (Bench.not_gt_maxIndex id)]
  refine (getBlobShortcutLength_mirrors id).bind fun length => ?_
  by_cases hlength : length = 255
  · rw [if_pos hlength, if_pos hlength]
    exact Corres.stop
  · rw [if_neg hlength, if_neg hlength]
    have hshort := toNat_lt_of_ne_max hlength
    have hlt := blobOffset_lt id hshort
    have hsucc := toNat_blobOffset_succ id (show length.toNat < 256 by omega)
    refine (write_mirrors hcodes id hid (by omega) key).bind fun _ => ?_
    refine (write_mirrors hcodes id hid (by omega) mod).bind fun _ => ?_
    exact length_write_mirrors id (length + 1)

theorem sendBlobPair_mirrors {i : ℕ} (hi : i < 255) : Corres (Mirrors polls)
    ((controller codes polls).sendBlobPair id.1 i) (Bench.controller.sendBlobPair id.1 i) := by
  have hlt := blobOffset_lt id hi
  have hsucc := toNat_blobOffset_succ id (show i < 256 by omega)
  refine (read_mirrors hcodes id hid (by omega)).bind fun character => ?_
  refine (read_mirrors hcodes id hid (by omega)).bind fun modcode => ?_
  exact sendKeypress_mirrors character modcode

theorem sendBlobShortcut_mirrors : Corres (Mirrors polls)
    ((controller codes polls).sendBlobShortcut id.1) (Bench.controller.sendBlobShortcut id.1) := by
  simp only [StorageController.sendBlobShortcut, if_neg (Bench.not_gt_maxIndex id)]
  refine (getBlobShortcutLength_mirrors id).bind fun length => Corres.ite Corres.stop ?_
  refine Corres.forM fun i hi => sendBlobPair_mirrors hcodes id hid ?_
  have := length.toNat_lt
  have := List.mem_range.mp hi
  omega

end Blobs

end Machine

end Threeboard.Simulator
