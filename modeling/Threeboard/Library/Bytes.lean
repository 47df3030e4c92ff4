import Mathlib.Tactic.Common

namespace Bytes

theorem forall_byte {P : UInt8 → Prop} (h : ∀ n < 256, P (UInt8.ofNat n)) (c : UInt8) : P c := by
  have hc := h c.toNat c.toNat_lt
  rwa [UInt8.ofNat_toNat] at hc

section Nibbles

variable {high low : UInt8}

theorem toNat_nibbles (hhigh : high.toNat < 16) (hlow : low.toNat < 16) :
    (high <<< 4 ||| low).toNat = high.toNat * 16 + low.toNat := by
  have hshift : (high <<< 4).toNat = high.toNat <<< 4 := by
    rw [UInt8.toNat_shiftLeft]
    exact Nat.mod_eq_of_lt (by change _ <<< 4 < _; rw [Nat.shiftLeft_eq]; omega)
  rw [UInt8.toNat_or, hshift, ← Nat.shiftLeft_add_eq_or_of_lt (by simpa using hlow),
    Nat.shiftLeft_eq]

theorem nibbles_high (hhigh : high.toNat < 16) (hlow : low.toNat < 16) :
    (high <<< 4 ||| low) >>> 4 = high := by
  have hdiv : ((high <<< 4 ||| low) >>> 4).toNat = (high <<< 4 ||| low).toNat / 16 := by
    rw [UInt8.toNat_shiftRight]
    exact Nat.shiftRight_eq_div_pow _ 4
  rw [← UInt8.toNat_inj, hdiv, toNat_nibbles hhigh hlow]
  omega

theorem nibbles_low (hhigh : high.toNat < 16) (hlow : low.toNat < 16) :
    (high <<< 4 ||| low) &&& 15 = low := by
  have hmod : ((high <<< 4 ||| low) &&& 15).toNat = (high <<< 4 ||| low).toNat % 16 := by
    rw [UInt8.toNat_and]
    exact Nat.and_two_pow_sub_one_eq_mod _ 4
  rw [← UInt8.toNat_inj, hmod, toNat_nibbles hhigh hlow]
  omega

end Nibbles

end Bytes
