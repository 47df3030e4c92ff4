import Threeboard.Library.Records
import Threeboard.Storage.Bench

namespace Threeboard.Storage

open Records

abbrev BlobId := {index : UInt8 // index ≤ kLayerBMaxIndex}

theorem blobId_toNat_le (id : BlobId) : id.1.toNat ≤ 247 := UInt8.le_iff_toNat_le.mp id.2

inductive Cell where
  | character (id : UInt8)
  | wordLength (id : UInt8)
  | wordChar (id : UInt8) (slot : Fin 16)
  | blobLength (id : BlobId)
  | blobKey (id : BlobId) (slot : UInt8)
  | blobMod (id : BlobId) (slot : UInt8)
  deriving DecidableEq

def blobChip (index : UInt8) : Chip :=
  if index ≥ kEeprom1LayerBStartShortcutId then .eeprom1 else .eeprom0

namespace Cell

def address : Cell → Address
  | character id => (.internal, id.toUInt16)
  | wordLength id => (.internal, kInternalEepromLayerGLengthStart + id.toUInt16)
  | wordChar id slot => (.eeprom0, StorageController.wordOffset id slot)
  | blobLength id => (.internal, kInternalEepromLayerBLengthStart + id.1.toUInt16)
  | blobKey id slot => (blobChip id.1, StorageController.blobOffset id.1 slot.toNat)
  | blobMod id slot => (blobChip id.1, StorageController.blobOffset id.1 slot.toNat + 1)

end Cell

theorem toNat_layerGLength (id : UInt8) :
    (kInternalEepromLayerGLengthStart + id.toUInt16).toNat = 0x100 + id.toNat := by
  have := id.toNat_lt
  simp only [kInternalEepromLayerGLengthStart, UInt16.toNat_add, UInt8.toNat_toUInt16,
    UInt16.toNat_ofNat]
  omega

theorem toNat_layerBLength (id : UInt8) :
    (kInternalEepromLayerBLengthStart + id.toUInt16).toNat = 0x200 + id.toNat := by
  have := id.toNat_lt
  simp only [kInternalEepromLayerBLengthStart, UInt16.toNat_add, UInt8.toNat_toUInt16,
    UInt16.toNat_ofNat]
  omega

theorem toNat_wordOffset (id : UInt8) {position : ℕ} (h : position < 16) :
    (StorageController.wordOffset id position).toNat = id.toNat * 16 + position := by
  have := id.toNat_lt
  simp only [StorageController.wordOffset, UInt16.toNat_ofNat']
  omega

theorem eeprom1_iff (index : UInt8) :
    index ≥ kEeprom1LayerBStartShortcutId ↔ 120 ≤ index.toNat := UInt8.le_iff_toNat_le

theorem toNat_blobOffset (id : BlobId) {position : ℕ} (h : position < 256) :
    (StorageController.blobOffset id.1 position).toNat =
      if 120 ≤ id.1.toNat then (id.1.toNat - 120) * 512 + position * 2
      else 0x1000 + id.1.toNat * 512 + position * 2 := by
  have := blobId_toNat_le id
  have h120 : kEeprom1LayerBStartShortcutId.toNat = 120 := rfl
  simp only [StorageController.blobOffset, eeprom1_iff]
  split <;> simp only [UInt16.toNat_ofNat', h120, kEeprom0LayerBStart] <;> omega

theorem toNat_blobOffset_succ (id : BlobId) {position : ℕ} (h : position < 256) :
    (StorageController.blobOffset id.1 position + 1).toNat =
      (StorageController.blobOffset id.1 position).toNat + 1 := by
  have := blobId_toNat_le id
  have h1 : (1 : UInt16).toNat = 1 := rfl
  rw [UInt16.toNat_add, h1, toNat_blobOffset id h]
  split <;> omega

namespace Cell

def chip : Cell → Chip
  | character _ | wordLength _ | blobLength _ => .internal
  | wordChar _ _ => .eeprom0
  | blobKey id _ | blobMod id _ => if 120 ≤ id.1.toNat then .eeprom1 else .eeprom0

def blobBase (id : BlobId) (slot : UInt8) : ℕ :=
  if 120 ≤ id.1.toNat then (id.1.toNat - 120) * 512 + slot.toNat * 2
  else 0x1000 + id.1.toNat * 512 + slot.toNat * 2

def offset : Cell → ℕ
  | character id => id.toNat
  | wordLength id => 0x100 + id.toNat
  | wordChar id slot => id.toNat * 16 + slot
  | blobLength id => 0x200 + id.1.toNat
  | blobKey id slot => blobBase id slot
  | blobMod id slot => blobBase id slot + 1

theorem address_chip (f : Cell) : f.address.1 = f.chip := by
  cases f <;> simp only [address, chip, blobChip, eeprom1_iff]

theorem address_offset (f : Cell) : f.address.2.toNat = f.offset := by
  cases f with
  | character id => simp [address, offset]
  | wordLength id => exact toNat_layerGLength id
  | wordChar id slot => exact toNat_wordOffset id slot.2
  | blobLength id => exact toNat_layerBLength id.1
  | blobKey id slot => exact toNat_blobOffset id slot.toNat_lt
  | blobMod id slot =>
    simp only [address, offset, toNat_blobOffset_succ id slot.toNat_lt,
      toNat_blobOffset id slot.toNat_lt, blobBase]

-- The ranges of the layout comment: 256 + 256 + 248 internal bytes, 4096 bytes of words and the
-- first 120 blobs on one chip, the remaining 128 blobs on the other.
theorem offset_internal_lt {f : Cell} (h : f.chip = .internal) : f.offset < 1024 := by
  cases f with
  | character id => have := id.toNat_lt; simp only [offset]; omega
  | wordLength id => have := id.toNat_lt; simp only [offset]; omega
  | blobLength id => have := id.1.toNat_lt; simp only [offset]; omega
  | wordChar id slot => simp [chip] at h
  | blobKey id slot | blobMod id slot => simp only [chip] at h; split at h <;> simp at h

theorem eq_of_chip_offset {f g : Cell} (hc : f.chip = g.chip) (ho : f.offset = g.offset) :
    f = g := by
  cases f <;> cases g <;> simp only [chip, offset, blobBase] at hc ho
  all_goals grind [UInt8.toNat_inj, UInt8.toNat_lt, blobId_toNat_le]

theorem address_injective : Function.Injective address := by
  intro f g h
  have hc : f.chip = g.chip := by rw [← address_chip, ← address_chip, h]
  have ho : f.offset = g.offset := by rw [← address_offset, ← address_offset, h]
  exact eq_of_chip_offset hc ho

end Cell

def layout : Layout Cell Address UInt8 where
  place := Cell.address
  place_injective := Cell.address_injective
  encode v := v - 1
  decode b := b + 1
  decode_encode v := by grind

end Threeboard.Storage
