import Threeboard.Storage.Confinement

namespace Threeboard.Storage

open Actions Actions.Action StorageController

namespace Bench

def Stores (id x : UInt8) (b : Bench) : Prop := b.view (.character id) = x

variable {id x : UInt8}

theorem Stores.external {b t : Bench} (h : Stores id x b)
    (hinternal : ∀ offset, t.memory (.internal, offset) = b.memory (.internal, offset)) :
    Stores id x t := by
  rw [Stores, view_apply, Cell.address, hinternal]
  exact h

theorem poke_external (b : Bench) {a : Address} (ha : a.1 ≠ .internal) (byte : UInt8)
    (offset : UInt16) : (b.poke a byte).memory (.internal, offset) = b.memory (.internal, offset) :=
  b.poke_memory_of_ne (fun h => ha (congrArg Prod.fst h).symm) byte

theorem sendKeypress_stores (key mod : UInt8) :
    Keeps (Stores id x) (usbController.sendKeypress key mod) := by
  refine Keeps.bind (fun _ h => h) fun _ => Keeps.bind (fun _ h => h) fun fate => ?_
  cases fate with
  | succeed => exact Keeps.pure ()
  | fail residue => exact Keeps.stop

theorem external_read_stores (chip : Chip) (offset : UInt16) :
    Keeps (Stores id x) ((externalEeprom chip).readByte offset) := by
  refine Keeps.bind (fun _ h => h) fun fate => ?_
  cases fate with
  | succeed => exact fun _ h => h
  | fail residue => exact Keeps.stop

theorem external_write_stores {chip : Chip} (hchip : chip ≠ .internal) (offset : UInt16)
    (byte : UInt8) : Keeps (Stores id x) ((externalEeprom chip).writeByte offset byte) := by
  refine Keeps.bind (fun _ h => h) fun fate => ?_
  cases fate with
  | succeed => exact fun b h => h.external (poke_external (b.logWrite _) hchip _)
  | fail residue =>
    refine Keeps.bind (fun _ h => h) fun _ => ?_
    cases residue with
    | none => exact Keeps.stop
    | some byte =>
      exact Keeps.bind (fun b h => h.external (poke_external b hchip byte)) fun _ => Keeps.stop

theorem internal_read_stores (offset : UInt16) :
    Keeps (Stores id x) (internalEeprom.readByte offset) := fun _ h => h

theorem internal_write_stores {f : Cell} {offset : UInt16} (haddr : f.address = (.internal, offset))
    (hf : f ≠ .character id) (byte : UInt8) :
    Keeps (Stores id x) (internalEeprom.writeByte offset byte) := by
  refine keeps_iff_wp.mpr fun b h => wp_mono (internal_write haddr byte b) ?_ fun _ hf => hf.elim
  rintro - t ht
  rw [Stores, ht.view, Function.update_of_ne hf.symm]
  exact h

theorem getBlobShortcutLength_stores (index : UInt8) :
    Keeps (Stores id x) (controller.getBlobShortcutLength index) :=
  Keeps.ite Keeps.stop (internal_read_stores _)

theorem blobLength_write_stores (index n : UInt8) (hindex : index ≤ kLayerBMaxIndex) :
    Keeps (Stores id x) (controller.internalEeprom.writeByte
      (kInternalEepromLayerBLengthStart + index.toUInt16) n) :=
  internal_write_stores (f := .blobLength ⟨index, hindex⟩) rfl (by simp) n

theorem blobChip_external (index : UInt8) : blobChip index ≠ .internal := by
  rw [blobChip]
  split <;> simp

theorem appendToWordShortcut_stores (index character : UInt8) :
    Keeps (Stores id x) (controller.appendToWordShortcut index character) :=
  Keeps.bind (internal_read_stores _) fun _ => Keeps.ite Keeps.stop
    (Keeps.bind (external_write_stores (by simp) _ _) fun _ =>
      internal_write_stores (f := .wordLength index) rfl (by simp) _)

theorem sendWordCharacter_stores (index code length : UInt8) (i : ℕ) :
    Keeps (Stores id x) (controller.sendWordCharacter index code length i) := by
  refine Keeps.bind (external_read_stores _ _) fun character => Keeps.ite ?_ (Keeps.ite ?_ ?_)
  · exact sendKeypress_stores _ _
  · exact Keeps.bind (sendKeypress_stores _ _) fun _ => sendKeypress_stores _ _
  · exact sendKeypress_stores _ _

theorem sendWordShortcut_stores (index code : UInt8) :
    Keeps (Stores id x) (controller.sendWordShortcut index code) :=
  Keeps.bind (internal_read_stores _) fun _ => Keeps.ite Keeps.stop
    (Keeps.forM (sendWordCharacter_stores index code _) _)

theorem appendToBlobShortcut_stores (index character modcode : UInt8) :
    Keeps (Stores id x) (controller.appendToBlobShortcut index character modcode) := by
  by_cases hindex : index ≤ kLayerBMaxIndex
  · rw [StorageController.appendToBlobShortcut, if_neg (UInt8.not_lt.mpr hindex), blobEeprom_eq]
    exact Keeps.bind (getBlobShortcutLength_stores index) fun _ => Keeps.ite Keeps.stop
      (Keeps.bind (external_write_stores (blobChip_external index) _ _) fun _ =>
        Keeps.bind (external_write_stores (blobChip_external index) _ _) fun _ =>
          blobLength_write_stores index _ hindex)
  · rw [StorageController.appendToBlobShortcut, if_pos (UInt8.not_le.mp hindex)]
    exact Keeps.stop

theorem clearBlobShortcut_stores (index : UInt8) :
    Keeps (Stores id x) (controller.clearBlobShortcut index) := by
  by_cases hindex : index ≤ kLayerBMaxIndex
  · rw [StorageController.clearBlobShortcut, if_neg (UInt8.not_lt.mpr hindex)]
    exact blobLength_write_stores index 0 hindex
  · rw [StorageController.clearBlobShortcut, if_pos (UInt8.not_le.mp hindex)]
    exact Keeps.stop

theorem sendBlobPair_stores (index : UInt8) (i : ℕ) :
    Keeps (Stores id x) (controller.sendBlobPair index i) := by
  simp only [StorageController.sendBlobPair, blobEeprom_eq]
  exact Keeps.bind (external_read_stores _ _) fun _ => Keeps.bind (external_read_stores _ _) fun _ =>
    sendKeypress_stores _ _

theorem sendBlobShortcut_stores (index : UInt8) :
    Keeps (Stores id x) (controller.sendBlobShortcut index) :=
  Keeps.ite Keeps.stop (Keeps.bind (getBlobShortcutLength_stores index) fun _ =>
    Keeps.ite Keeps.stop (Keeps.forM (sendBlobPair_stores index) _))

theorem run_stores {r : Request} (h : r.target ≠ some (.character id)) :
    Keeps (Stores id x) (r.run controller.methods) := by
  cases r with
  | setCharacter index character =>
    have hne : index ≠ id := by simpa [Request.target] using h
    exact Keeps.bind (internal_write_stores (f := .character index) rfl (by simpa using hne) _)
      fun _ => Keeps.pure none
  | getCharacter index =>
    exact Keeps.bind (internal_read_stores _) fun _ => Keeps.pure _
  | appendToWord index character =>
    exact Keeps.bind (appendToWordShortcut_stores index character) fun _ => Keeps.pure none
  | clearWord index =>
    exact Keeps.bind (internal_write_stores (f := .wordLength index) rfl (by simp) 0)
      fun _ => Keeps.pure none
  | getWordLength index =>
    exact Keeps.bind (internal_read_stores _) fun _ => Keeps.pure _
  | sendWord index rawModCode =>
    exact Keeps.bind (sendWordShortcut_stores index rawModCode) fun _ => Keeps.pure none
  | appendToBlob index character modcode =>
    exact Keeps.bind (appendToBlobShortcut_stores index character modcode) fun _ => Keeps.pure none
  | clearBlob index =>
    exact Keeps.bind (clearBlobShortcut_stores index) fun _ => Keeps.pure none
  | getBlobLength index =>
    exact Keeps.bind (getBlobShortcutLength_stores index) fun _ => Keeps.pure _
  | sendBlob index =>
    exact Keeps.bind (sendBlobShortcut_stores index) fun _ => Keeps.pure none

end Bench

end Threeboard.Storage
