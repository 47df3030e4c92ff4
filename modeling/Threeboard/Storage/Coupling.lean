import Threeboard.Storage.Requests

namespace Threeboard.Storage

open Actions Actions.Action StorageController

variable {σ τ : Type}

structure Couples (R : σ → τ → Prop) (c : StorageController σ) (d : StorageController τ) : Prop where
  internalRead : ∀ offset,
    Corres R (c.internalEeprom.readByte offset) (d.internalEeprom.readByte offset)
  internalWrite : ∀ offset data,
    Corres R (c.internalEeprom.writeByte offset data) (d.internalEeprom.writeByte offset data)
  externalRead : ∀ offset : UInt16, offset.toNat < 65535 →
    Corres R (c.externalEeprom0.readByte offset) (d.externalEeprom0.readByte offset)
  externalWrite : ∀ (offset : UInt16) data, offset.toNat < 65535 →
    Corres R (c.externalEeprom0.writeByte offset data) (d.externalEeprom0.writeByte offset data)
  sendKeypress : ∀ key mod,
    Corres R (c.usbController.sendKeypress key mod) (d.usbController.sendKeypress key mod)

theorem wordOffset_lt (index : UInt8) {position : ℕ} (h : position < 256) :
    (wordOffset index position).toNat < 65535 := by
  have := index.toNat_lt
  rw [wordOffset, UInt16.toNat_ofNat']
  omega

theorem blobOffset_lt {index : UInt8} (hindex : index < kEeprom1LayerBStartShortcutId)
    {position : ℕ} (h : position < 255) : (blobOffset index position).toNat + 1 < 65535 := by
  have hlt : index.toNat < 120 := UInt8.lt_iff_toNat_lt.mp hindex
  rw [blobOffset, if_neg (UInt8.not_le.mpr hindex), UInt16.toNat_ofNat', kEeprom0LayerBStart]
  omega

theorem toNat_succ_of_lt {offset : UInt16} (h : offset.toNat + 1 < 65535) :
    (offset + 1).toNat = offset.toNat + 1 := by
  have hone : (1 : UInt16).toNat = 1 := rfl
  rw [UInt16.toNat_add, hone]
  omega

def Request.OnEeprom0 : Request → Prop
  | .appendToBlob index _ _ | .sendBlob index => index < kEeprom1LayerBStartShortcutId
  | _ => True

instance : DecidablePred Request.OnEeprom0
  | .appendToBlob index _ _ | .sendBlob index =>
    inferInstanceAs (Decidable (index < kEeprom1LayerBStartShortcutId))
  | .setCharacter _ _ | .getCharacter _ | .appendToWord _ _ | .clearWord _ | .getWordLength _
  | .sendWord _ _ | .clearBlob _ | .getBlobLength _ => .isTrue trivial

namespace Couples

variable {R : σ → τ → Prop} {c : StorageController σ} {d : StorageController τ}
  (h : Couples R c d)

include h

theorem appendToWordShortcut (index character : UInt8) :
    Corres R (c.appendToWordShortcut index character) (d.appendToWordShortcut index character) := by
  refine (h.internalRead _).bind fun length => Corres.ite Corres.stop ?_
  refine (h.externalWrite _ _ (wordOffset_lt index length.toNat_lt)).bind fun _ => ?_
  exact h.internalWrite _ _

theorem sendWordCharacter (index rawModCode length : UInt8) {i : ℕ} (hi : i < 256) :
    Corres R (c.sendWordCharacter index rawModCode length i)
      (d.sendWordCharacter index rawModCode length i) := by
  refine (h.externalRead _ (wordOffset_lt index hi)).bind fun character => ?_
  refine Corres.ite (h.sendKeypress _ _) (Corres.ite ?_ (h.sendKeypress _ _))
  exact (h.sendKeypress _ _).bind fun _ => h.sendKeypress _ _

theorem sendWordShortcut (index rawModCode : UInt8) :
    Corres R (c.sendWordShortcut index rawModCode) (d.sendWordShortcut index rawModCode) := by
  refine (h.internalRead _).bind fun length => Corres.ite Corres.stop (Corres.forM fun i hi => ?_)
  have := length.toNat_lt
  have := List.mem_range.mp hi
  exact h.sendWordCharacter index rawModCode length (by omega)

theorem getBlobShortcutLength (index : UInt8) :
    Corres R (c.getBlobShortcutLength index) (d.getBlobShortcutLength index) :=
  Corres.ite Corres.stop (h.internalRead _)

theorem clearBlobShortcut (index : UInt8) :
    Corres R (c.clearBlobShortcut index) (d.clearBlobShortcut index) :=
  Corres.ite Corres.stop (h.internalWrite _ _)

section Blobs

variable {index : UInt8} (hindex : index < kEeprom1LayerBStartShortcutId)

include hindex

omit h in
theorem blobEeprom_eeprom0 (c : StorageController σ) : c.blobEeprom index = c.externalEeprom0 :=
  if_neg (UInt8.not_le.mpr hindex)

theorem appendToBlobShortcut (character modcode : UInt8) :
    Corres R (c.appendToBlobShortcut index character modcode)
      (d.appendToBlobShortcut index character modcode) := by
  refine Corres.ite Corres.stop ((h.getBlobShortcutLength index).bind fun length => ?_)
  by_cases hlength : length = 255
  · rw [if_pos hlength, if_pos hlength]
    exact Corres.stop
  · have hlt := blobOffset_lt hindex (toNat_lt_of_ne_max hlength)
    have hsucc := toNat_succ_of_lt hlt
    rw [if_neg hlength, if_neg hlength, blobEeprom_eeprom0 hindex, blobEeprom_eeprom0 hindex]
    refine (h.externalWrite _ _ (by omega)).bind fun _ => ?_
    exact (h.externalWrite _ _ (by omega)).bind fun _ => h.internalWrite _ _

theorem sendBlobPair {i : ℕ} (hi : i < 255) :
    Corres R (c.sendBlobPair index i) (d.sendBlobPair index i) := by
  have hlt := blobOffset_lt hindex hi
  have hsucc := toNat_succ_of_lt hlt
  rw [StorageController.sendBlobPair, StorageController.sendBlobPair, blobEeprom_eeprom0 hindex,
    blobEeprom_eeprom0 hindex]
  refine (h.externalRead _ (by omega)).bind fun _ => ?_
  exact (h.externalRead _ (by omega)).bind fun _ => h.sendKeypress _ _

theorem sendBlobShortcut :
    Corres R (c.sendBlobShortcut index) (d.sendBlobShortcut index) := by
  refine Corres.ite Corres.stop ((h.getBlobShortcutLength index).bind fun length => ?_)
  refine Corres.ite Corres.stop (Corres.forM fun i hi => h.sendBlobPair hindex ?_)
  have := length.toNat_lt
  have := List.mem_range.mp hi
  omega

end Blobs

theorem run {r : Request} (hr : r.OnEeprom0) : Corres R (r.run c.methods) (r.run d.methods) := by
  cases r with
  | setCharacter index character => exact (h.internalWrite _ _).bind fun _ => Corres.pure _
  | getCharacter index => exact (h.internalRead _).bind fun _ => Corres.pure _
  | appendToWord index character =>
    exact (h.appendToWordShortcut index character).bind fun _ => Corres.pure _
  | clearWord index => exact (h.internalWrite _ _).bind fun _ => Corres.pure _
  | getWordLength index => exact (h.internalRead _).bind fun _ => Corres.pure _
  | sendWord index rawModCode =>
    exact (h.sendWordShortcut index rawModCode).bind fun _ => Corres.pure _
  | appendToBlob index character modcode =>
    exact (h.appendToBlobShortcut hr character modcode).bind fun _ => Corres.pure _
  | clearBlob index => exact (h.clearBlobShortcut index).bind fun _ => Corres.pure _
  | getBlobLength index => exact (h.getBlobShortcutLength index).bind fun _ => Corres.pure _
  | sendBlob index => exact (h.sendBlobShortcut hr).bind fun _ => Corres.pure _

end Couples

end Threeboard.Storage
