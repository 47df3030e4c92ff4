import Threeboard.Library.Integers
import Threeboard.Storage.Layout

namespace Threeboard.Storage

open Integers Integers.Expr

namespace OffsetExpr

def length (start : UInt16) (index : UInt8) : Expr := word start + byte index

def wordCharacter (index : UInt8) (position : Expr) : Expr := byte index * int 16 + position

def blobPair (index : UInt8) (position : Expr) : Expr :=
  if index ≥ kEeprom1LayerBStartShortcutId then
    (byte index - byte kEeprom1LayerBStartShortcutId) * int 512 + position * int 2
  else word (.ofNat kEeprom0LayerBStart) + byte index * int 512 + position * int 2

def next (eepromIdx : UInt16) : Expr := word eepromIdx + int 1

end OffsetExpr

section Values

variable {width : ℕ} (hwidth : 16 ≤ width)

include hwidth

theorem value_of_exact {e : Expr} {n : ℕ} (h : e.exact = n) :
    UInt16.ofInt (e.value width) = UInt16.ofNat n := by
  rw [ofInt_value hwidth, h, ofInt_natCast]

theorem length_value (start : UInt16) (index : UInt8) :
    UInt16.ofInt ((OffsetExpr.length start index).value width) = start + index.toUInt16 := by
  rw [value_of_exact hwidth (n := start.toNat + index.toUInt16.toNat) (by simp [OffsetExpr.length]),
    UInt16.ofNat_add, UInt16.ofNat_toNat, UInt16.ofNat_toNat]

theorem next_value (eepromIdx : UInt16) :
    UInt16.ofInt ((OffsetExpr.next eepromIdx).value width) = eepromIdx + 1 := by
  rw [value_of_exact hwidth (n := eepromIdx.toNat + 1) (by simp [OffsetExpr.next]),
    UInt16.ofNat_add, UInt16.ofNat_toNat]
  rfl

variable {position : Expr} {n : ℕ} (h : position.exact = n) (index : UInt8)

include h

theorem wordCharacter_value : UInt16.ofInt ((OffsetExpr.wordCharacter index position).value width) =
    StorageController.wordOffset index n :=
  value_of_exact hwidth (by simp [OffsetExpr.wordCharacter, h])

theorem blobPair_value : UInt16.ofInt ((OffsetExpr.blobPair index position).value width) =
    StorageController.blobOffset index n := by
  rw [OffsetExpr.blobPair, StorageController.blobOffset]
  split
  · rename_i hindex
    have hle := (eeprom1_iff index).mp hindex
    have h120 : kEeprom1LayerBStartShortcutId.toNat = 120 := rfl
    refine value_of_exact hwidth ?_
    simp only [exact_add, exact_sub, exact_mul, exact_byte, exact_int, h, h120, Nat.cast_add,
      Nat.cast_mul, Nat.cast_sub hle, Nat.cast_ofNat]
  · have hstart : (UInt16.ofNat kEeprom0LayerBStart).toNat = kEeprom0LayerBStart := rfl
    refine value_of_exact hwidth ?_
    simp only [exact_add, exact_mul, exact_word, exact_byte, exact_int, h, hstart, Nat.cast_add,
      Nat.cast_mul, Nat.cast_ofNat]

end Values

def BeyondInt (index : UInt8) : Prop := 64 ≤ index ∧ index < 120 ∨ 184 ≤ index

instance (index : UInt8) : Decidable (BeyondInt index) := inferInstanceAs (Decidable (_ ∨ _))

section Ranges

theorem length_defined (start : UInt16) (index : UInt8) :
    (OffsetExpr.length start index).Defined 16 :=
  (defined_operation_unsigned rfl).mpr ⟨.word start, .byte index⟩

theorem next_defined (eepromIdx : UInt16) : (OffsetExpr.next eepromIdx).Defined 16 :=
  (defined_operation_unsigned rfl).mpr ⟨.word eepromIdx, .int 1⟩

variable {position : Expr} {n : ℕ} (h : Counts 16 position n) (index : UInt8)

include h

theorem wordCharacter_defined (hn : n < 256) : (OffsetExpr.wordCharacter index position).Defined 16 := by
  have hindex := index.toNat_lt
  have hproduct : Counts 16 (byte index * int 16) (index.toNat * 16) :=
    (Counts.byte index).mul (.int 16) (by decide) (by omega)
  exact (hproduct.add h (by decide) (by omega)).defined

theorem eeprom1_defined_iff (hindex : 120 ≤ index.toNat) (hn : n < 255) :
    ((byte index - byte kEeprom1LayerBStartShortcutId) * int 512 + position * int 2).Defined 16 ↔
      index.toNat < 184 := by
  have hbase : Counts 16 (byte index - byte kEeprom1LayerBStartShortcutId) (index.toNat - 120) :=
    (Counts.byte index).sub (.byte kEeprom1LayerBStartShortcutId) (by decide) hindex
      (by have := index.toNat_lt; omega)
  constructor
  · intro hdefined
    by_contra hge
    exact hbase.mul_undefined (.int 512) (by decide) (by omega) (defined_operation.mp hdefined).1
  · intro hlt
    have hproduct := hbase.mul (.int 512) (by decide) (by omega)
    have hpair := h.mul (.int 2) (by decide) (by omega)
    exact (hproduct.add hpair (by decide) (by omega)).defined

theorem eeprom0_defined_iff (hn : n < 255) :
    (word (.ofNat kEeprom0LayerBStart) + byte index * int 512 + position * int 2).Defined 16 ↔
      index.toNat < 64 := by
  have hindex : Counts 16 (byte index) index.toNat := .byte index
  have hpair := h.mul (.int 2) (by decide) (by omega)
  refine (defined_operation_unsigned rfl).trans ⟨fun hdefined => ?_, fun hlt => ⟨?_, hpair.defined⟩⟩
  · by_contra hge
    exact hindex.mul_undefined (.int 512) (by decide) (by omega)
      ((defined_operation_unsigned rfl).mp hdefined.1).2
  · exact (defined_operation_unsigned rfl).mpr
      ⟨.word _, (hindex.mul (.int 512) (by decide) (by omega)).defined⟩

theorem blobPair_defined_iff (hn : n < 255) :
    (OffsetExpr.blobPair index position).Defined 16 ↔ ¬ BeyondInt index := by
  have hlt : ∀ k : UInt8, index < k ↔ index.toNat < k.toNat := fun _ => UInt8.lt_iff_toNat_lt
  have hle : ∀ k : UInt8, k ≤ index ↔ k.toNat ≤ index.toNat := fun _ => UInt8.le_iff_toNat_le
  have h120 : kEeprom1LayerBStartShortcutId.toNat = 120 := rfl
  simp only [OffsetExpr.blobPair, BeyondInt, ge_iff_le, hlt, hle, h120, UInt8.reduceToNat]
  split
  · rename_i hindex
    rw [eeprom1_defined_iff h index hindex hn]
    omega
  · rw [eeprom0_defined_iff h index hn]
    omega

end Ranges

-- The same expressions where int has 32 bits, as in every test that runs on a host.
section Host

theorem length_defined_host (start : UInt16) (index : UInt8) :
    (OffsetExpr.length start index).Defined 32 := by
  have hstart := start.toNat_lt
  have hindex := index.toNat_lt
  exact ((Counts.word (by decide) start).add (.byte index) (by decide) (by omega)).defined

theorem next_defined_host (eepromIdx : UInt16) : (OffsetExpr.next eepromIdx).Defined 32 := by
  have hidx := eepromIdx.toNat_lt
  exact ((Counts.word (by decide) eepromIdx).add (.int 1) (by decide) (by omega)).defined

variable {position : Expr} {n : ℕ} (h : Counts 32 position n) (index : UInt8)

include h

theorem wordCharacter_defined_host (hn : n < 256) :
    (OffsetExpr.wordCharacter index position).Defined 32 := by
  have hindex := index.toNat_lt
  have hproduct : Counts 32 (byte index * int 16) (index.toNat * 16) :=
    (Counts.byte index).mul (.int 16) (by decide) (by omega)
  exact (hproduct.add h (by decide) (by omega)).defined

theorem blobPair_defined_host (hn : n < 255) : (OffsetExpr.blobPair index position).Defined 32 := by
  have hindex := index.toNat_lt
  have hpair := h.mul (.int 2) (by decide) (by omega)
  rw [OffsetExpr.blobPair]
  split
  · rename_i hge
    have hbase : Counts 32 (byte index - byte kEeprom1LayerBStartShortcutId) (index.toNat - 120) :=
      (Counts.byte index).sub (.byte kEeprom1LayerBStartShortcutId) (by decide)
        ((eeprom1_iff index).mp hge) (by omega)
    have hproduct := hbase.mul (.int 512) (by decide) (by omega)
    exact (hproduct.add hpair (by decide) (by omega)).defined
  · have hproduct := (Counts.byte index).mul (.int 512) (by decide : 0 < 32) (by omega)
    have hstart : (UInt16.ofNat kEeprom0LayerBStart).toNat = 0x1000 := rfl
    have hsum := (Counts.word (by decide) (.ofNat kEeprom0LayerBStart)).add hproduct (by decide)
      (by omega)
    exact (hsum.add hpair (by decide) (by omega)).defined

end Host

end Threeboard.Storage
